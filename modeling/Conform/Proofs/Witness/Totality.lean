import Conform.Proofs.Relation.Partition
import Conform.Proofs.Ty.Soundness
import Conform.Witness.Basic

/-!
# Conversions that never fail

A structural witness is given by the shapes of its ends, which know labels by their spelled ids, and
it converts through values, which keep fields under the names of their labels. A raw identifier and
its plain form have the same id and different names. Between types that use both, a witness exists
and its conversions fail: the name that one record asks for is not in what the other writes.

Nothing else goes wrong. Over labels of which no two have the same id and different names, every
structural witness converts all data of its ends, and over no other labels is this so.
-/

namespace Conform

namespace Ty

/-- A record cannot be read from the data of a record in which one of its names is missing. -/
theorem convert?_record_eq_none {name otherName : String} {fields required : List (Label × Ty)}
    {field : Label × Ty} (fieldMem : field ∈ required)
    (missing : ∀ own ∈ fields, own.1.name ≠ field.1.name) {datum : Datum}
    (admitted : (record name fields).admits datum = true) :
    (record otherName required).convert? datum = none := by
  apply Option.not_isSome_iff_eq_none.mp
  intro reads
  rcases (admits_record_iff name fields datum).mp admitted with ⟨data, rfl, entries⟩
  rcases (reads_record_iff otherName required _).mp reads field fieldMem with ⟨found, looked, _⟩
  rcases exists_entry_of_field? looked with ⟨entry, entryMem, sameName, _⟩
  rcases exists_mem_of_forall₂ entries.flip entry entryMem with ⟨own, ownMem, sameLabel, _⟩
  apply missing own ownMem
  rw [sameLabel]
  exact sameName

/-- A record of one field. -/
def single (name : String) (label : Label) (type : Ty) : Ty := .record name [(label, type)]

theorem single_labelsDistinct (name : String) (label : Label) (type : Primitive) :
    (single name label (.primitive type)).LabelsDistinct := by
  simp [single, LabelsDistinct, Everywhere, nodes, fieldNodes, ownLabels]

theorem single_labels (name : String) (label : Label) (type : Primitive) :
    (single name label (.primitive type)).labels = [label] := by
  simp [single, labels, nodes, fieldNodes, ownLabels]

theorem single_sub {first second : Label} (sameId : first.id = second.id) {type other : Ty}
    (below : type.shape.sub other.shape = true) (name otherName : String) :
    (single name first type).shape.sub (single otherName second other).shape = true := by
  apply (Leaf.shape_sub_iff (.record name [(first, type)]) (.record otherName _)).mpr
  apply (Leaf.record_sub_iff _ _ _ _).mpr
  intro field fieldMem
  rw [List.mem_singleton.mp fieldMem]
  exact ⟨(first, type), List.mem_cons_self, sameId, below⟩

end Ty

open Ty

namespace Witness

/-- Every datum of either end is converted to a datum of the other. -/
structure Total (witness : Witness) : Prop where
  forward : ∀ datum, witness.source.admits datum = true →
    ∃ converted, witness.coerce datum = .ok converted ∧ witness.target.admits converted = true
  backward : ∀ datum, witness.target.admits datum = true →
    ∃ converted, witness.coerceBack datum = .ok converted ∧ witness.source.admits converted = true

theorem total_of_coherent {source target : Ty} (sourceDistinct : source.LabelsDistinct)
    (targetDistinct : target.LabelsDistinct)
    (coherent : Label.Coherent (source.labels ++ target.labels))
    (equal : (source.relate target).equal = true) :
    Total ⟨source, target, .reshape target, .reshape source⟩ := by
  rcases (equal_iff source target).mp equal with ⟨up, down⟩
  constructor
  · intro datum admitted
    rcases exists_converted sourceDistinct coherent up admitted with ⟨converted, reading, own⟩
    exact ⟨converted, Conversion.run_reshape.mpr reading, own⟩
  · intro datum admitted
    have exchanged := coherent.append (List.subset_append_right _ _) (List.subset_append_left _ _)
    rcases exists_converted targetDistinct exchanged down admitted with ⟨converted, reading, own⟩
    exact ⟨converted, Conversion.run_reshape.mpr reading, own⟩

/-- Between records of one field under labels of the same id and different names there is a
structural witness, and it converts nothing. -/
theorem single_does_not_fit {first second : Label} (sameId : first.id = second.id)
    (differ : first.name ≠ second.name) {type other : Ty}
    (equal : (type.relate other).equal = true) (name otherName : String) :
    ∃ witness, structural (single name first type) (single otherName second other) = .ok witness ∧
      ∀ datum, (single name first type).admits datum = true →
        witness.coerce datum = .error .doesNotFit := by
  rcases (equal_iff type other).mp equal with ⟨up, down⟩
  have recordsEqual :
      ((single name first type).relate (single otherName second other)).equal = true :=
    (equal_iff _ _).mpr ⟨single_sub sameId up _ _, single_sub sameId.symm down _ _⟩
  refine ⟨_, structural_eq_ok.mpr ⟨recordsEqual, rfl⟩, ?_⟩
  intro datum admitted
  have unread : (single otherName second other).convert? datum = none := by
    apply convert?_record_eq_none List.mem_cons_self _ admitted
    intro own ownMem
    rw [List.mem_singleton.mp ownMem]
    exact differ
  rw [coerce, Conversion.run, unread]

/-- The labels over which no structural witness fails are those of which no two have the same id and
different names. -/
theorem structural_total_iff_coherent (vocabulary : List Label) :
    (∀ source target : Ty, source.labels ⊆ vocabulary → target.labels ⊆ vocabulary →
        source.LabelsDistinct → target.LabelsDistinct → (source.relate target).equal = true →
          ∃ witness, structural source target = .ok witness ∧ witness.Total) ↔
      Label.Coherent vocabulary := by
  constructor
  · intro total first firstMem second secondMem sameId
    by_contra differ
    let unit := Ty.primitive .unit
    rcases single_does_not_fit sameId differ (equal_refl unit) "First" "Second" with
      ⟨witness, built, fails⟩
    have equal := (structural_eq_ok.mp built).1
    rcases total (single "First" first unit) (single "Second" second unit)
      (by simpa [unit, single_labels] using firstMem)
      (by simpa [unit, single_labels] using secondMem)
      (single_labelsDistinct _ _ _) (single_labelsDistinct _ _ _) equal with
      ⟨other, rebuilt, isTotal⟩
    cases built.symm.trans rebuilt
    rcases structural_eq_ok.mp built with ⟨_, rfl⟩
    have admitted : (single "First" first unit).admits
        (.record [(first, .scalar .unit)]) = true := by
      simp [single, unit, admits, admitsFields, Scalar.primitive]
    rcases isTotal.forward _ admitted with ⟨converted, succeeds, _⟩
    rw [fails _ admitted] at succeeds
    cases succeeds
  · intro coherent source target sourceLabels targetLabels sourceDistinct targetDistinct equal
    refine ⟨_, structural_eq_ok.mpr ⟨equal, rfl⟩, ?_⟩
    have pairCoherent := coherent.append sourceLabels targetLabels
    exact total_of_coherent sourceDistinct targetDistinct pairCoherent equal

theorem person_total_to_passenger :
    Label.Coherent person.labels ∧ passenger.labels ⊆ person.labels ∧ person.LabelsDistinct ∧
      passenger.LabelsDistinct ∧ (person.relate passenger).equal = true ∧
      ∃ witness, structural person passenger = .ok witness ∧ witness.Total := by
  have coherent : Label.Coherent person.labels := by decide
  have contained : passenger.labels ⊆ person.labels := by decide
  have personDistinct : person.LabelsDistinct := by decide
  have passengerDistinct : passenger.LabelsDistinct := by decide
  have equal : (person.relate passenger).equal = true := by decide
  refine ⟨coherent, contained, personDistinct, passengerDistinct, equal, ?_⟩
  exact (structural_total_iff_coherent person.labels).mpr coherent person passenger
    (List.Subset.refl _) contained personDistinct passengerDistinct equal

/-- A count under a raw label. -/
def rawCount : Ty := .record "RawCount" [(⟨"r#a"⟩, .primitive (.int ⟨false, .bits8⟩))]

/-- The same count under the plain form of the label. -/
def plainCount : Ty := .record "PlainCount" [(⟨"a"⟩, .primitive (.int ⟨false, .bits8⟩))]

theorem rawCount_does_not_fit_plainCount :
    rawCount.LabelsDistinct ∧ plainCount.LabelsDistinct ∧
      (rawCount.relate plainCount).equal = true ∧
      ∃ witness datum, structural rawCount plainCount = .ok witness ∧
        rawCount.admits datum = true ∧ witness.coerce datum = .error .doesNotFit :=
  ⟨by decide, by decide, by decide, _,
    .record [(⟨"r#a"⟩, .scalar (.int ⟨false, .bits8⟩ 7 (by decide)))],
    structural_eq_ok.mpr ⟨by decide, rfl⟩, by decide, rfl⟩

end Witness

end Conform
