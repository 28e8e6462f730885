import Conform.Proofs.Ty.Soundness
import Conform.Proofs.Ty.Unambiguous
import Mathlib.Data.List.Perm.Basic

/-!
# Conversion between interchangeable types

Two unambiguous types that are assignable both ways need not have their fields and the sides of
their unions in the same order. Still, each datum of one is converted into a datum of the other
that is written as the same value up to the order of fields.

The branches of the two types are matched: a branch is assignable to some branch of the other
type, and that one to some branch of the first type again. The last of the three reads what the
first writes, so in an unambiguous type it is the first. Mutually assignable records have the same
labels, since labels are distinct, and their fields are interchangeable again. The fields of the
written record are therefore found by the fields of the other record, in another order.
-/

namespace Conform

theorem Value.exists_arranged {fields : List (String × Value)} {names : List String}
    (sameNames : names.Perm (fields.map Prod.fst)) :
    ∃ matched : List (String × Value),
      List.Forall₂ (fun name field => name = field.1) names matched ∧ matched.Perm fields := by
  apply List.perm_comp_forall₂ sameNames
  apply List.forall₂_map_left_iff.mpr
  exact List.forall₂_same.mpr (fun _ _ => rfl)

namespace Ty

/-- Unambiguous types of coherent and distinct labels that are assignable both ways. -/
structure Interchangeable (source target : Ty) : Prop where
  sourceDistinct : source.LabelsDistinct
  targetDistinct : target.LabelsDistinct
  sourceUnambiguous : source.Unambiguous
  targetUnambiguous : target.Unambiguous
  coherent : Label.Coherent (source.labels ++ target.labels)
  forward : source.shape.sub target.shape = true
  backward : target.shape.sub source.shape = true

namespace Interchangeable

variable {source target : Ty} {branch other : Branch}

/-- A branch that has a datum is matched by a branch of the other type. -/
theorem counterpart (types : Interchangeable source target) (branchMem : branch ∈ source.branches)
    {content : Datum} (own : branch.leaf.type.admits content = true) :
    ∃ other ∈ target.branches, branch.leaf.member.sub other.leaf.member = true ∧
      other.leaf.member.sub branch.leaf.member = true := by
  rcases (shape_sub_iff source target).mp types.forward branch branchMem with
    ⟨other, otherMem, below⟩
  rcases (shape_sub_iff target source).mp types.backward other otherMem with
    ⟨back, backMem, above⟩
  have coherent := types.coherent.append
    (List.subset_append_of_subset_left _ (leaf_labels_subset branchMem))
    (List.subset_append_of_subset_left _ (leaf_labels_subset backMem))
  have assignable : branch.leaf.type.shape.sub back.leaf.type.shape = true :=
    (Leaf.shape_sub_iff _ _).mpr (Member.sub_trans below above)
  have written := reads_write (types.sourceDistinct.of_leaf branchMem) own
  have backReads := reads_of_shape_sub coherent assignable written
  have same : back = branch := types.sourceUnambiguous.eq_of_reads branchMem backMem own backReads
  subst back
  exact ⟨other, otherMem, below, above⟩

section Fields

variable (types : Interchangeable source target) (branchMem : branch ∈ source.branches)
  (otherMem : other ∈ target.branches)
  (below : branch.leaf.member.sub other.leaf.member = true)
  (above : other.leaf.member.sub branch.leaf.member = true)

include types branchMem otherMem

theorem label_eq_of_id {own field : Label × Ty} (ownMem : own ∈ branch.leaf.fields)
    (fieldMem : field ∈ other.leaf.fields) (sameId : own.1.id = field.1.id) :
    own.1 = field.1 := by
  apply types.coherent.eq_of_id _ _ sameId
  · exact List.mem_append_left _ (label_mem_labels branchMem ownMem)
  · exact List.mem_append_right _ (label_mem_labels otherMem fieldMem)

include below above

/-- A field of a matched record has a field of the same label and an interchangeable type. -/
theorem own_field {field : Label × Ty} (fieldMem : field ∈ other.leaf.fields) :
    ∃ own ∈ branch.leaf.fields, own.1 = field.1 ∧ Interchangeable own.2 field.2 := by
  rcases Leaf.fieldsCover_of_sub below field fieldMem with ⟨own, ownMem, sameId, forward⟩
  have sameLabel := label_eq_of_id types branchMem otherMem ownMem fieldMem sameId
  rcases Leaf.fieldsCover_of_sub above own ownMem with ⟨back, backMem, backId, backward⟩
  have backLabel := label_eq_of_id types branchMem otherMem ownMem backMem backId.symm
  -- Labels are distinct, so the way back leads to the field it started from.
  have same : back = field := by
    apply List.inj_on_of_nodup_map (types.targetDistinct.nodup_fields otherMem) backMem fieldMem
    exact backLabel.symm.trans sameLabel
  subst back
  refine ⟨own, ownMem, sameLabel, ?_⟩
  refine ⟨types.sourceDistinct.of_mem_fields branchMem ownMem,
    types.targetDistinct.of_mem_fields otherMem fieldMem,
    types.sourceUnambiguous.of_mem_fields branchMem ownMem,
    types.targetUnambiguous.of_mem_fields otherMem fieldMem, ?_, forward, backward⟩
  exact types.coherent.append
    (List.subset_append_of_subset_left _ (field_labels_subset branchMem ownMem))
    (List.subset_append_of_subset_right _ (field_labels_subset otherMem fieldMem))

theorem labels_perm :
    (other.leaf.fields.map Prod.fst).Perm (branch.leaf.fields.map Prod.fst) := by
  apply (List.perm_ext_iff_of_nodup (types.targetDistinct.nodup_fields otherMem)
    (types.sourceDistinct.nodup_fields branchMem)).mpr
  intro label
  constructor
  · intro labelMem
    rcases List.mem_map.mp labelMem with ⟨field, fieldMem, rfl⟩
    rcases Leaf.fieldsCover_of_sub below field fieldMem with ⟨own, ownMem, sameId, _⟩
    rw [← label_eq_of_id types branchMem otherMem ownMem fieldMem sameId]
    exact List.mem_map_of_mem ownMem
  · intro labelMem
    rcases List.mem_map.mp labelMem with ⟨own, ownMem, rfl⟩
    rcases Leaf.fieldsCover_of_sub above own ownMem with ⟨field, fieldMem, sameId, _⟩
    rw [label_eq_of_id types branchMem otherMem ownMem fieldMem sameId.symm]
    exact List.mem_map_of_mem fieldMem

end Fields

end Interchangeable

/-- The type reads the value as a datum that is written as the value, up to the order of fields. -/
def Preserves (type : Ty) (value : Value) : Prop :=
  ∃ datum, type.read? value = some datum ∧ value.Reordered datum.write

/-- A record reads a value if its fields find values that their types preserve, and its data are
written as these values up to order. -/
theorem exists_data_of_preserves {value : Value} {fields : List (Label × Ty)}
    {matched : List (String × Value)}
    (pairs : List.Forall₂ (fun field found => field.1.name = found.1 ∧
      value.field? found.1 = some found.2 ∧ field.2.Preserves found.2) fields matched) :
    ∃ data, readFields? fields value = some data ∧
      Value.FieldsReordered matched (Datum.writeFields data) := by
  induction pairs with
  | nil => exact ⟨[], rfl, Value.FieldsReordered.nil⟩
  | cons head tail ih =>
      rename_i field found rest others
      rcases field with ⟨label, type⟩
      rcases found with ⟨name, content⟩
      rcases head with ⟨rfl, looked, datum, reading, reordered⟩
      rcases ih with ⟨data, restReading, restReordered⟩
      refine ⟨(label, datum) :: data, ?_, Value.FieldsReordered.cons _ reordered restReordered⟩
      simp only [readFields?, looked, reading, restReading]

/-- A record preserves what a record of the same labels writes, if its fields preserve what the
fields of the same labels write. -/
theorem preserves_record {fields required : List (Label × Ty)} {data : List (Label × Datum)}
    (distinct : (fields.map Prod.fst).Nodup)
    (sameLabels : (required.map Prod.fst).Perm (fields.map Prod.fst))
    (fieldPreserves : ∀ field ∈ required, ∃ own ∈ fields, own.1 = field.1 ∧
      ∀ datum, own.2.admits datum = true → field.2.Preserves datum.write)
    (entries : List.Forall₂ EntryAdmitted fields data) (name : String) :
    (record name required).Preserves (Datum.record data).write := by
  have writtenDistinct := writeFields_distinct distinct entries
  have sameNames : ((required.map Prod.fst).map Label.name).Perm
      ((Datum.writeFields data).map Prod.fst) := by
    rw [written_names entries]
    exact sameLabels.map Label.name
  rcases Value.exists_arranged sameNames with ⟨matched, named, permuted⟩
  rw [List.map_map, List.forall₂_map_left_iff] at named
  have pairs : List.Forall₂ (fun field found => field.1.name = found.1 ∧
      (Datum.record data).write.field? found.1 = some found.2 ∧ field.2.Preserves found.2)
      required matched := by
    apply forall₂_imp_of_mem named
    intro field fieldMem found foundMem sameName
    have looked := (Value.lookup_eq_some_iff writtenDistinct found.1 found.2).mpr
      (permuted.mem_iff.mp foundMem)
    refine ⟨sameName, looked, ?_⟩
    rcases fieldPreserves field fieldMem with ⟨own, ownMem, sameLabel, preserves⟩
    rcases exists_mem_of_forall₂ entries own ownMem with ⟨entry, entryMem, entryLabel, admitted⟩
    -- What the name finds is the written datum of the field with the same label.
    have written := field?_write distinct entries entryMem
    rw [← entryLabel, sameLabel, Function.comp_apply.symm.trans sameName] at written
    rw [show found.2 = entry.2.write from Option.some.inj (looked.symm.trans written)]
    exact preserves entry.2 admitted
  rcases exists_data_of_preserves pairs with ⟨converted, reading, fieldwise⟩
  refine ⟨.record converted, by simp [read?, reading], ?_⟩
  exact Value.Reordered.record (Or.inr ⟨writtenDistinct, permuted.symm⟩) fieldwise

/-- An interchangeable type preserves what the data of a type are written as. -/
theorem Interchangeable.preserves {source target : Ty} (types : Interchangeable source target)
    {datum : Datum} (admitted : source.admits datum = true) : target.Preserves datum.write := by
  induction source using branchInduction generalizing target datum with
  | step source ih =>
      rcases (admits_iff source datum).mp admitted with ⟨branch, branchMem, content, own, rfl⟩
      rcases types.counterpart branchMem own with ⟨other, otherMem, below, above⟩
      rw [write_inject branchMem own]
      have leafPreserves : other.leaf.type.Preserves content.write := by
        have distinct := types.sourceDistinct.nodup_fields branchMem
        have sameLabels := types.labels_perm branchMem otherMem below above
        have fieldPreserves : ∀ field ∈ other.leaf.fields, ∃ own ∈ branch.leaf.fields,
            own.1 = field.1 ∧
              ∀ datum, own.2.admits datum = true → field.2.Preserves datum.write := by
          intro field fieldMem
          rcases types.own_field branchMem otherMem below above fieldMem with
            ⟨own, ownMem, sameLabel, fieldTypes⟩
          exact ⟨own, ownMem, sameLabel, fun datum fieldAdmits =>
            ih branch branchMem own ownMem fieldTypes fieldAdmits⟩
        rcases Leaf.sub_inversion below with
          ⟨type, isSource, isTarget⟩ | ⟨name, fields, otherName, required, isSource, isTarget, _⟩
        · rw [isSource] at own
          rw [isTarget]
          rcases (admits_primitive_iff type content).mp own with ⟨scalar, isPrimitive, rfl⟩
          refine ⟨.scalar scalar, ?_, Value.Reordered.refl _⟩
          simp [Leaf.type, read?, Datum.write, isPrimitive]
        · rw [isSource] at own distinct sameLabels fieldPreserves
          rw [isTarget] at sameLabels fieldPreserves ⊢
          rcases (admits_record_iff name fields content).mp own with ⟨data, rfl, entries⟩
          exact preserves_record distinct sameLabels fieldPreserves entries otherName
      rcases leafPreserves with ⟨converted, reading, reordered⟩
      refine ⟨other.inject converted, ?_, ?_⟩
      · exact types.targetUnambiguous.read?_eq otherMem reading reordered
      · rw [write_inject otherMem (read?_admits reading)]
        exact reordered

end Ty

end Conform
