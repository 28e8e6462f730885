import Conform.Proofs.Ty.Interchange
import Conform.Witness.Basic

/-!
# Structural conversions lose nothing

A structural witness writes a datum out and reads it back as the other type. Between unambiguous
types the reordering is all that happens on the way: the converted datum is written as the same
fields with the same contents. No type can tell such values apart, so whatever the datum converts
to, the converted datum converts to as well. The way back and further conversions are cases of
this.
-/

namespace Conform

open Ty

theorem Ty.convert?_of_reordered {datum converted : Datum}
    (reordered : datum.write.Reordered converted.write) (other : Ty) :
    other.convert? converted = other.convert? datum :=
  (read?_reordered reordered other).symm

theorem Ty.interchangeable_of_equal {source target : Ty} (sourceDistinct : source.LabelsDistinct)
    (targetDistinct : target.LabelsDistinct) (sourceUnambiguous : source.Unambiguous)
    (targetUnambiguous : target.Unambiguous)
    (coherent : Label.Coherent (source.labels ++ target.labels))
    (equal : (source.relate target).equal = true) : Interchangeable source target := by
  rcases Bool.and_eq_true_iff.mp equal with ⟨forward, backward⟩
  exact ⟨sourceDistinct, targetDistinct, sourceUnambiguous, targetUnambiguous, coherent, forward,
    backward⟩

namespace Witness

/-- The witness converts the first datum into the second and nothing is lost: the second is written
as the same value up to the order of fields, no type reads the two differently, the way back
returns the first, and going on to another type is as good as going there directly. -/
structure Lossless (witness : Witness) (datum converted : Datum) : Prop where
  coerces : witness.coerce datum = .ok converted
  admitted : witness.target.admits converted = true
  reordered : datum.write.Reordered converted.write
  alike : ∀ other : Ty, other.convert? converted = other.convert? datum
  back : witness.coerceBack converted = .ok datum
  composes : ∀ other onward direct, structural witness.target other = .ok onward →
    structural witness.source other = .ok direct → onward.coerce converted = direct.coerce datum

/-- Between equal unambiguous types there is a structural witness, which loses nothing. -/
theorem structural_lossless (source target : Ty) (sourceDistinct : source.LabelsDistinct)
    (targetDistinct : target.LabelsDistinct) (sourceUnambiguous : source.Unambiguous)
    (targetUnambiguous : target.Unambiguous)
    (coherent : Label.Coherent (source.labels ++ target.labels))
    (equal : (source.relate target).equal = true) :
    ∃ witness, structural source target = .ok witness ∧
      ∀ datum, source.admits datum = true → ∃ converted, witness.Lossless datum converted := by
  have types := interchangeable_of_equal sourceDistinct targetDistinct sourceUnambiguous
    targetUnambiguous coherent equal
  refine ⟨_, structural_eq_ok.mpr ⟨equal, rfl⟩, ?_⟩
  intro datum admitted
  rcases types.preserves admitted with ⟨converted, reading, reordered⟩
  have alike := convert?_of_reordered reordered
  have readBack : source.convert? converted = some datum := by
    rw [alike source]
    exact sourceUnambiguous.read?_write sourceDistinct admitted
  refine ⟨converted, ?_⟩
  refine ⟨Conversion.run_reshape.mpr reading, read?_admits reading, reordered, alike,
    Conversion.run_reshape.mpr readBack, ?_⟩
  intro other onward direct isOnward isDirect
  rcases structural_eq_ok.mp isOnward with ⟨_, rfl⟩
  rcases structural_eq_ok.mp isDirect with ⟨_, rfl⟩
  simp only [coerce, Conversion.run, alike other]

/-- A reading with the fields and the sides of the union in another order. -/
def reversedReading : Ty :=
  .record "ReversedReading" [(⟨"note"⟩, .option (.primitive .string)),
    (⟨"value"⟩, .union (.primitive .string) (.primitive .f64)),
    (⟨"sensor"⟩, .primitive (.int ⟨false, .bits32⟩))]

theorem reading_unambiguous : reading.Unambiguous := by
  intro node nodeMem
  simp only [reading, nodes, fieldNodes, List.mem_cons, List.mem_append, List.not_mem_nil,
    or_false] at nodeMem
  rcases nodeMem with rfl | rfl | (rfl | rfl | rfl) | rfl | rfl
  · trivial
  · trivial
  · exact separate_primitive (by decide)
  · trivial
  · trivial
  · exact separate_primitive (by decide)
  · trivial

theorem reversedReading_unambiguous : reversedReading.Unambiguous := by
  intro node nodeMem
  simp only [reversedReading, nodes, fieldNodes, List.mem_cons, List.mem_append,
    List.not_mem_nil, or_false] at nodeMem
  rcases nodeMem with rfl | (rfl | rfl) | (rfl | rfl | rfl) | rfl
  · trivial
  · exact separate_primitive (by decide)
  · trivial
  · exact separate_primitive (by decide)
  · trivial
  · trivial
  · trivial

theorem reading_lossless :
    reading.LabelsDistinct ∧ reversedReading.LabelsDistinct ∧ reading.Unambiguous ∧
      reversedReading.Unambiguous ∧ Label.Coherent (reading.labels ++ reversedReading.labels) ∧
      (reading.relate reversedReading).equal = true ∧
      ∃ witness, structural reading reversedReading = .ok witness ∧
        ∀ datum, reading.admits datum = true → ∃ converted, witness.Lossless datum converted :=
  ⟨by decide, by decide, reading_unambiguous, reversedReading_unambiguous, by decide, by decide,
    structural_lossless reading reversedReading (by decide) (by decide) reading_unambiguous
      reversedReading_unambiguous (by decide) (by decide)⟩

end Witness

end Conform
