import Conform.Proofs.Relation.Bounds
import Conform.Proofs.Ty.Reading

/-!
# Exchanged sides and reordered fields

A type can be written in many ways that mean the same: the sides of a union may be exchanged, the
fields of a record reordered and the record renamed, at any depth. All these types are equal, and
they read the same values. They need not read them on the same side, though, because the first side
that reads a value takes it.
-/

namespace Conform

namespace Ty

mutual

/-- The types are the same up to the sides of unions, the order of fields and the names of records,
at any depth. -/
inductive Reordered : Ty → Ty → Prop where
  | primitive (type : Primitive) : Reordered (.primitive type) (.primitive type)
  | never : Reordered .never .never
  | union {left right otherLeft otherRight : Ty} (onLeft : Reordered left otherLeft)
      (onRight : Reordered right otherRight) :
      Reordered (.union left right) (.union otherLeft otherRight)
  | exchange {left right otherLeft otherRight : Ty} (onLeft : Reordered left otherLeft)
      (onRight : Reordered right otherRight) :
      Reordered (.union left right) (.union otherRight otherLeft)
  | option {payload other : Ty} (inside : Reordered payload other) :
      Reordered (.option payload) (.option other)
  | record (name otherName : String) {fields arranged others : List (Label × Ty)}
      (fieldwise : List.Forall₂ FieldReordered fields arranged) (permuted : arranged.Perm others) :
      Reordered (.record name fields) (.record otherName others)

inductive FieldReordered : Label × Ty → Label × Ty → Prop where
  | mk (label : Label) {type other : Ty} (inside : Reordered type other) :
      FieldReordered (label, type) (label, other)

end

theorem fieldReordered_iff (field other : Label × Ty) :
    FieldReordered field other ↔ field.1 = other.1 ∧ field.2.Reordered other.2 := by
  constructor
  · rintro ⟨label, inside⟩
    exact ⟨rfl, inside⟩
  · rcases field with ⟨label, type⟩
    rcases other with ⟨otherLabel, otherType⟩
    rintro ⟨sameLabel, inside⟩
    cases sameLabel
    exact FieldReordered.mk label inside

/-- Fields of reordered records have partners of the same label and a reordered type, from either
side. -/
theorem exists_reordered_partners {fields arranged others : List (Label × Ty)}
    (fieldwise : List.Forall₂ FieldReordered fields arranged) (permuted : arranged.Perm others) :
    (∀ field ∈ fields, ∃ other ∈ others, field.1 = other.1 ∧ field.2.Reordered other.2) ∧
      ∀ other ∈ others, ∃ field ∈ fields, field.1 = other.1 ∧ field.2.Reordered other.2 := by
  simp only [← fieldReordered_iff]
  exact exists_partners fieldwise permuted

theorem Reordered.refl (type : Ty) : type.Reordered type := by
  induction type using inductionOn with
  | primitive type => exact Reordered.primitive type
  | never => exact Reordered.never
  | union left right ihLeft ihRight => exact Reordered.union ihLeft ihRight
  | option payload ih => exact Reordered.option ih
  | record name fields ih =>
      apply Reordered.record name name _ (List.Perm.refl fields)
      apply List.forall₂_same.mpr
      intro field fieldMem
      exact FieldReordered.mk field.1 (ih field fieldMem)

/-- Reordered types are equal. -/
theorem Reordered.below_above {type other : Ty} (reordered : type.Reordered other) :
    type ≤ other ∧ other ≤ type := by
  induction type using inductionOn generalizing other with
  | primitive type =>
      cases reordered
      exact ⟨le_refl _, le_refl _⟩
  | never =>
      cases reordered
      exact ⟨le_refl _, le_refl _⟩
  | union left right ihLeft ihRight =>
      cases reordered with
      | union onLeft onRight =>
          rcases ihLeft onLeft with ⟨leftUp, leftDown⟩
          rcases ihRight onRight with ⟨rightUp, rightDown⟩
          exact ⟨union_mono leftUp rightUp, union_mono leftDown rightDown⟩
      | exchange onLeft onRight =>
          rcases ihLeft onLeft with ⟨leftUp, leftDown⟩
          rcases ihRight onRight with ⟨rightUp, rightDown⟩
          constructor
          · exact le_trans (union_le_swap left right) (union_mono rightUp leftUp)
          · exact le_trans (union_mono rightDown leftDown) (union_le_swap right left)
  | option payload ih =>
      cases reordered with
      | option inside => exact ⟨option_mono (ih inside).1, option_mono (ih inside).2⟩
  | record name fields ih =>
      cases reordered with
      | record _ otherName fieldwise permuted =>
          rcases exists_reordered_partners fieldwise permuted with ⟨partners, otherPartners⟩
          constructor
          · apply (record_le_iff _ _ _ _).mpr
            intro other otherMem
            rcases otherPartners other otherMem with ⟨field, fieldMem, sameLabel, inside⟩
            exact ⟨field, fieldMem, congrArg Label.id sameLabel, (ih field fieldMem inside).1⟩
          · apply (record_le_iff _ _ _ _).mpr
            intro field fieldMem
            rcases partners field fieldMem with ⟨other, otherMem, sameLabel, inside⟩
            exact ⟨other, otherMem, congrArg Label.id sameLabel.symm, (ih field fieldMem inside).2⟩

theorem labels_of_fieldReordered {fields arranged : List (Label × Ty)}
    (fieldwise : List.Forall₂ FieldReordered fields arranged) :
    arranged.map Prod.fst = fields.map Prod.fst := by
  induction fieldwise with
  | nil => rfl
  | cons head tail ih => simp [ih, ((fieldReordered_iff _ _).mp head).1]

section Sides

variable {left right payload : Ty} {value : Value}

theorem reads_union_iff : (left.union right).Reads value ↔ left.Reads value ∨ right.Reads value := by
  unfold Reads
  rw [read?]
  cases left.read? value <;> simp

theorem reads_option_iff : payload.option.Reads value ↔ value = .unit ∨ payload.Reads value := by
  by_cases isUnit : value = .unit
  · subst value
    simp [Reads, read?]
  · simp [Reads, read?_option_of_ne_unit payload isUnit, isUnit]

theorem read?_union_eq_left {datum : Datum} :
    (left.union right).read? value = some (.left datum) ↔ left.read? value = some datum := by
  rw [read?]
  cases left.read? value <;> simp

theorem read?_union_eq_right {datum : Datum} :
    (left.union right).read? value = some (.right datum) ↔
      ¬left.Reads value ∧ right.read? value = some datum := by
  unfold Reads
  rw [read?]
  cases left.read? value <;> simp

theorem read?_option_eq_some {datum : Datum} :
    payload.option.read? value = some (.some datum) ↔
      value ≠ .unit ∧ payload.read? value = some datum := by
  by_cases isUnit : value = .unit
  · subst value
    simp [read?]
  · simp [read?_option_of_ne_unit payload isUnit, isUnit]

end Sides

/-- Reordered types read the same values. -/
theorem Reordered.reads_iff {type other : Ty} (reordered : type.Reordered other) (value : Value) :
    type.Reads value ↔ other.Reads value := by
  induction type using inductionOn generalizing other value with
  | primitive type =>
      cases reordered
      exact Iff.rfl
  | never =>
      cases reordered
      exact Iff.rfl
  | union left right ihLeft ihRight =>
      cases reordered with
      | union onLeft onRight =>
          rw [reads_union_iff, reads_union_iff, ihLeft onLeft, ihRight onRight]
      | exchange onLeft onRight =>
          rw [reads_union_iff, reads_union_iff, ihLeft onLeft, ihRight onRight]
          exact or_comm
  | option payload ih =>
      cases reordered with
      | option inside => rw [reads_option_iff, reads_option_iff, ih inside]
  | record name fields ih =>
      cases reordered with
      | record _ otherName fieldwise permuted =>
          rcases exists_reordered_partners fieldwise permuted with ⟨partners, otherPartners⟩
          rw [reads_record_iff, reads_record_iff]
          constructor
          · intro reads other otherMem
            rcases otherPartners other otherMem with ⟨field, fieldMem, sameLabel, inside⟩
            rcases reads field fieldMem with ⟨found, looked, fieldReads⟩
            exact ⟨found, sameLabel ▸ looked, (ih field fieldMem inside found).mp fieldReads⟩
          · intro reads field fieldMem
            rcases partners field fieldMem with ⟨other, otherMem, sameLabel, inside⟩
            rcases reads other otherMem with ⟨found, looked, otherReads⟩
            exact ⟨found, sameLabel ▸ looked, (ih field fieldMem inside found).mpr otherReads⟩

end Ty

end Conform
