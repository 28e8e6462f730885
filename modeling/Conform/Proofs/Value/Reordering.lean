import Conform.Value.Basic

/-!
# Reordered values

A record keeps its fields in some order, and a look-up by name finds the first field of that name.
As long as the names of the record are distinct, the order cannot be observed by look-ups. Two
values are reordered forms of each other when they agree up to the order of the fields of such
records, at every depth; where names repeat, the order of the fields is kept.

The main fact is about look-ups: in reordered values a name is found on both sides or on neither,
and what is found is reordered again.
-/

namespace Conform

namespace Value

mutual

/-- Agreement of two values up to the order of fields under distinct names, at every depth. -/
inductive Reordered : Value → Value → Prop where
  | scalar (content : Scalar) : Reordered (scalar content) (scalar content)
  | record {fields matched others : List (String × Value)}
      (permuted : fields = matched ∨ ((fields.map Prod.fst).Nodup ∧ fields.Perm matched))
      (fieldwise : FieldsReordered matched others) : Reordered (record fields) (record others)

/-- Field lists of the same names in the same order, with values that agree up to order. -/
inductive FieldsReordered : List (String × Value) → List (String × Value) → Prop where
  | nil : FieldsReordered [] []
  | cons (name : String) {first second : Value} {rest others : List (String × Value)}
      (head : Reordered first second) (tail : FieldsReordered rest others) :
      FieldsReordered ((name, first) :: rest) ((name, second) :: others)

end

mutual

theorem Reordered.refl : (value : Value) → Reordered value value
  | .scalar content => Reordered.scalar content
  | .record fields => Reordered.record (Or.inl rfl) (FieldsReordered.refl fields)

theorem FieldsReordered.refl : (fields : List (String × Value)) → FieldsReordered fields fields
  | [] => FieldsReordered.nil
  | (name, value) :: rest =>
      FieldsReordered.cons name (Reordered.refl value) (FieldsReordered.refl rest)

end

theorem mem_of_lookup {fields : List (String × Value)} {name : String} {value : Value}
    (found : fields.lookup name = some value) : (name, value) ∈ fields := by
  rcases List.lookup_eq_some_iff.mp found with ⟨before, after, rfl, absent⟩
  simp

theorem lookup_eq_some_iff {fields : List (String × Value)}
    (distinct : (fields.map Prod.fst).Nodup) (name : String) (value : Value) :
    fields.lookup name = some value ↔ (name, value) ∈ fields := by
  constructor
  · exact mem_of_lookup
  · intro fieldMem
    induction fields with
    | nil => simp at fieldMem
    | cons field rest ih =>
        simp only [List.map_cons, List.nodup_cons] at distinct
        rcases List.mem_cons.mp fieldMem with rfl | restMem
        · simp
        · have differs : name ≠ field.1 := by
            intro sameName
            apply distinct.1
            exact List.mem_map.mpr ⟨(name, value), restMem, sameName⟩
          rw [List.lookup_cons, beq_false_of_ne differs]
          exact ih distinct.2 restMem

/-- Under distinct names, look-ups do not observe the order of the fields. -/
theorem lookup_eq_of_perm {fields matched : List (String × Value)}
    (distinct : (fields.map Prod.fst).Nodup) (permuted : fields.Perm matched) (name : String) :
    fields.lookup name = matched.lookup name := by
  have matchedDistinct : (matched.map Prod.fst).Nodup :=
    (permuted.map Prod.fst).nodup_iff.mp distinct
  apply Option.ext
  intro value
  rw [lookup_eq_some_iff distinct, lookup_eq_some_iff matchedDistinct]
  exact permuted.mem_iff

theorem FieldsReordered.lookup {fields others : List (String × Value)}
    (fieldwise : FieldsReordered fields others) (name : String) :
    Option.Rel Reordered (fields.lookup name) (others.lookup name) := by
  induction fields generalizing others with
  | nil =>
      cases fieldwise
      exact Option.Rel.none
  | cons field rest ih =>
      cases fieldwise with
      | cons own head tail =>
          rw [List.lookup_cons, List.lookup_cons]
          cases name == own with
          | true => exact Option.Rel.some head
          | false => exact ih tail

/-- A name is found in both of two reordered values or in neither, and what is found is reordered
again. -/
theorem Reordered.field? {first second : Value} (reordered : Reordered first second)
    (name : String) : Option.Rel Reordered (first.field? name) (second.field? name) := by
  cases reordered with
  | scalar content => exact Option.Rel.none
  | record permuted fieldwise =>
      have found := fieldwise.lookup name
      rcases permuted with rfl | ⟨distinct, permuted⟩
      · exact found
      · rw [← lookup_eq_of_perm distinct permuted name] at found
        exact found

theorem Reordered.eq_unit_iff {first second : Value} (reordered : Reordered first second) :
    first = unit ↔ second = unit := by
  cases reordered with
  | scalar content => rfl
  | record permuted fieldwise => simp

end Value

end Conform
