import Conform.Proofs.Ty.Reading
import Conform.Relation.Verdict

/-!
# Soundness of assignability

Whether a type is assignable to another is decided on their shapes, by the spelled ids of labels
and without any value. What a type reads is decided on a value, by the names of its fields. The
two recursions meet at the branches: a value that the first type reads is read by one of its
branches, the comparison of shapes provides a branch of the second type above it, and the branch
above reads the value too. For records this comes down to their fields, by induction.

The labels have to be coherent, since shapes and values use different keys for them.
-/

namespace Conform

namespace Ty

/-- What a type reads is read by every type it is assignable to. -/
theorem reads_of_shape_sub {source target : Ty}
    (coherent : Label.Coherent (source.labels ++ target.labels))
    (assignable : source.shape.sub target.shape = true) {value : Value}
    (reads : source.Reads value) : target.Reads value := by
  induction source using branchInduction generalizing target value with
  | step source ih =>
      rcases (reads_iff source value).mp reads with ⟨branch, branchMem, branchReads⟩
      rcases (shape_sub_iff source target).mp assignable branch branchMem with
        ⟨other, otherMem, below⟩
      refine (reads_iff target value).mpr ⟨other, otherMem, ?_⟩
      rcases Leaf.sub_inversion below with
        ⟨type, isSource, isTarget⟩ | ⟨name, fields, otherName, required, isSource, isTarget, cover⟩
      · rw [isSource] at branchReads
        rw [isTarget]
        exact branchReads
      · have fieldMem : ∀ own ∈ fields, own ∈ branch.leaf.fields := by
          simp [isSource, Leaf.fields]
        have requiredMem : ∀ field ∈ required, field ∈ other.leaf.fields := by
          simp [isTarget, Leaf.fields]
        rw [isSource] at branchReads
        rw [isTarget]
        apply (reads_record_iff otherName required value).mpr
        intro field isField
        rcases cover field isField with ⟨own, isOwn, sameId, fieldAssignable⟩
        rcases (reads_record_iff name fields value).mp branchReads own isOwn with
          ⟨found, looked, ownReads⟩
        have sameLabel : own.1 = field.1 := by
          apply coherent.eq_of_id _ _ sameId
          · exact List.mem_append_left _ (label_mem_labels branchMem (fieldMem own isOwn))
          · exact List.mem_append_right _ (label_mem_labels otherMem (requiredMem field isField))
        refine ⟨found, sameLabel ▸ looked, ?_⟩
        have fieldCoherent := coherent.append
          (List.subset_append_of_subset_left _
            (field_labels_subset branchMem (fieldMem own isOwn)))
          (List.subset_append_of_subset_right _
            (field_labels_subset otherMem (requiredMem field isField)))
        exact ih branch branchMem own (fieldMem own isOwn) fieldCoherent fieldAssignable ownReads

theorem exists_converted {source target : Ty} (distinct : source.LabelsDistinct)
    (coherent : Label.Coherent (source.labels ++ target.labels))
    (assignable : source.shape.sub target.shape = true) {datum : Datum}
    (admitted : source.admits datum = true) :
    ∃ converted, target.convert? datum = some converted ∧ target.admits converted = true := by
  have reads := reads_of_shape_sub coherent assignable (reads_write distinct admitted)
  rcases Option.isSome_iff_exists.mp reads with ⟨converted, reading⟩
  exact ⟨converted, reading, read?_admits reading⟩

/-- A type that is assignable to another can be converted into it: every value that the first
reads is read by the second, the first reads what its own data are written as, and so each datum
of the first is converted to a datum of the second. -/
theorem conversion_of_subtype (source target : Ty) (distinct : source.LabelsDistinct)
    (coherent : Label.Coherent (source.labels ++ target.labels))
    (subtype : (source.relate target).subtype = true) :
    (∀ value, source.Reads value → target.Reads value) ∧
      (∀ datum, source.admits datum = true → source.Reads datum.write) ∧
      ∀ datum, source.admits datum = true →
        ∃ converted, target.convert? datum = some converted ∧
          target.admits converted = true := by
  refine ⟨?_, ?_, ?_⟩
  · intro value reads
    exact reads_of_shape_sub coherent subtype reads
  · intro datum admitted
    exact reads_write distinct admitted
  · intro datum admitted
    exact exists_converted distinct coherent subtype admitted

/-- A record with a union and an optional field. -/
def reading : Ty :=
  .record "Reading" [(⟨"sensor"⟩, .primitive (.int ⟨false, .bits32⟩)),
    (⟨"value"⟩, .union (.primitive .f64) (.primitive .string)),
    (⟨"note"⟩, .option (.primitive .string))]

/-- A union of which one side asks for two fields of a reading, in another order and at wider
types. -/
def annotated : Ty :=
  .union (.primitive .bool) (.record "Annotated" [(⟨"note"⟩, .option (.primitive .string)),
    (⟨"value"⟩, .option (.union (.primitive .string) (.primitive .f64)))])

theorem conversion_of_reading_to_annotated :
    reading.LabelsDistinct ∧ Label.Coherent (reading.labels ++ annotated.labels) ∧
      (reading.relate annotated).subtype = true ∧
      (∀ value, reading.Reads value → annotated.Reads value) ∧
      (∀ datum, reading.admits datum = true → reading.Reads datum.write) ∧
      ∀ datum, reading.admits datum = true →
        ∃ converted, annotated.convert? datum = some converted ∧
          annotated.admits converted = true :=
  ⟨by decide, by decide, by decide,
    conversion_of_subtype reading annotated (by decide) (by decide) (by decide)⟩

end Ty

end Conform
