import Conform.Proofs.Value.Projection
import Mathlib.Logic.Relation

/-!
# Enriched values

A writer may move on while its readers stay behind: it adds fields under new names and arranges the
fields of its records anew. Both are changes to the fields of one record, somewhere in the value,
and an enriched value is the result of any number of them.

A change of either kind keeps what names find. Looking a name up in a changed value finds what was
found before, or this with a change inside, and never anything else. So the value is a projection of
the changed one. Where fields were only arranged anew, the two are reordered forms of each other.
-/

namespace Conform

namespace Value

/-- Fields were inserted at any positions, under names that are not among the given ones. -/
inductive Inserted (names : List String) :
    List (String × Value) → List (String × Value) → Prop where
  | nil : Inserted names [] []
  | keep (field : String × Value) {rest others : List (String × Value)}
      (tail : Inserted names rest others) : Inserted names (field :: rest) (field :: others)
  | insert (field : String × Value) {rest others : List (String × Value)}
      (fresh : field.1 ∉ names) (tail : Inserted names rest others) :
      Inserted names rest (field :: others)

/-- The fields of a record gain others under names that do not occur among them. -/
def Inserts (fields others : List (String × Value)) : Prop :=
  Inserted (fields.map Prod.fst) fields others

/-- The fields of a record, whose names are distinct, are put into another order. -/
def Permutes (fields others : List (String × Value)) : Prop :=
  (fields.map Prod.fst).Nodup ∧ fields.Perm others

/-- The fields of a record are put into another order or gain others. -/
def Enriches (fields others : List (String × Value)) : Prop :=
  Permutes fields others ∨ Inserts fields others

/-- The fields of one record in the value, at any depth, are changed in the given way. -/
inductive Step (change : List (String × Value) → List (String × Value) → Prop) :
    Value → Value → Prop where
  | here {fields others : List (String × Value)} (changed : change fields others) :
      Step change (record fields) (record others)
  | inside (before after : List (String × Value)) (name : String) {value other : Value}
      (inner : Step change value other) :
      Step change (record (before ++ (name, value) :: after))
        (record (before ++ (name, other) :: after))

/-- A value and what becomes of it by permuting fields. -/
def Permuted : Value → Value → Prop := Relation.ReflTransGen (Step Permutes)

/-- A value and what becomes of it by permuting and inserting fields. -/
def Enriched : Value → Value → Prop := Relation.ReflTransGen (Step Enriches)

theorem Inserted.lookup {names : List String} {fields others : List (String × Value)}
    (inserted : Inserted names fields others) {name : String} (nameMem : name ∈ names) :
    others.lookup name = fields.lookup name := by
  induction inserted with
  | nil => rfl
  | keep field _ ih => rw [List.lookup_cons, List.lookup_cons, ih]
  | insert field fresh _ ih =>
      have differs : name ≠ field.1 := fun same => fresh (same ▸ nameMem)
      rw [List.lookup_cons, beq_false_of_ne differs]
      exact ih

theorem Inserts.lookup {fields others : List (String × Value)} (inserts : Inserts fields others)
    {name : String} {inner : Value} (looked : fields.lookup name = some inner) :
    others.lookup name = some inner := by
  have nameMem : name ∈ fields.map Prod.fst := List.mem_map_of_mem (mem_of_lookup looked)
  rw [Inserted.lookup inserts nameMem, looked]

/-- What a name finds is still found after an enriching change. -/
theorem Enriches.lookup {fields others : List (String × Value)}
    (changed : Enriches fields others) {name : String} {inner : Value}
    (looked : fields.lookup name = some inner) : others.lookup name = some inner := by
  rcases changed with ⟨distinct, permuted⟩ | inserts
  · rw [← lookup_eq_of_perm distinct permuted, looked]
  · exact inserts.lookup looked

/-- Where the value of one field is replaced, a name finds the same as before, or it found this
value and finds its replacement. -/
theorem lookup_replaced {before after : List (String × Value)} {own name : String}
    {value inner : Value} (looked : (before ++ (own, value) :: after).lookup name = some inner)
    (other : Value) :
    (before ++ (own, other) :: after).lookup name = some inner ∨
      inner = value ∧ (before ++ (own, other) :: after).lookup name = some other := by
  rw [List.lookup_append, List.lookup_cons] at looked ⊢
  cases found : before.lookup name with
  | some earlier =>
      rw [found] at looked
      exact Or.inl looked
  | none =>
      rw [found] at looked
      cases isOwn : name == own with
      | true =>
          rw [isOwn] at looked
          exact Or.inr ⟨(Option.some.inj looked).symm, rfl⟩
      | false =>
          rw [isOwn] at looked
          exact Or.inl looked

namespace Step

section Enriching

variable {value other : Value} (step : Step Enriches value other)

include step

/-- A name finds in the changed value what it found in the value, or this after a change. -/
theorem field? {name : String} {inner : Value} (looked : value.field? name = some inner) :
    ∃ outer, other.field? name = some outer ∧
      (outer = inner ∨ Step Enriches inner outer) := by
  cases step with
  | here changed => exact ⟨inner, changed.lookup looked, Or.inl rfl⟩
  | @inside before after own value other innerStep =>
      rcases lookup_replaced looked other with same | ⟨rfl, replaced⟩
      · exact ⟨inner, same, Or.inl rfl⟩
      · exact ⟨other, replaced, Or.inr innerStep⟩

theorem projectsTo : other.ProjectsTo value := by
  induction step with
  | here changed =>
      apply (ProjectsTo.record_iff _ _).mpr
      intro name inner looked
      exact ⟨inner, changed.lookup looked, ProjectsTo.refl inner⟩
  | @inside before after own value other _ ih =>
      apply (ProjectsTo.record_iff _ _).mpr
      intro name inner looked
      rcases lookup_replaced looked other with same | ⟨rfl, replaced⟩
      · exact ⟨inner, same, ProjectsTo.refl inner⟩
      · exact ⟨other, replaced, ih⟩

end Enriching

end Step

theorem FieldsReordered.inside {value other : Value} (reordered : value.Reordered other)
    (before after : List (String × Value)) (name : String) :
    FieldsReordered (before ++ (name, value) :: after) (before ++ (name, other) :: after) := by
  induction before with
  | nil => exact FieldsReordered.cons name reordered (FieldsReordered.refl after)
  | cons field rest ih => exact FieldsReordered.cons field.1 (Reordered.refl field.2) ih

theorem Step.reordered {value other : Value} (step : Step Permutes value other) :
    value.Reordered other := by
  induction step with
  | here permutes => exact Reordered.record (Or.inr permutes) (FieldsReordered.refl _)
  | inside before after name _ ih =>
      exact Reordered.record (Or.inl rfl) (FieldsReordered.inside ih before after name)

end Value

end Conform
