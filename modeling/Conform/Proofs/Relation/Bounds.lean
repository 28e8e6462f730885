import Conform.Proofs.Relation.Partition
import Conform.Proofs.Ty.Branches
import Mathlib.Order.Bounds.Defs

/-!
# Bounds of shapes and types

In the order of assignability a union is a join: whatever lies above both sides lies above the
union. A record that has the fields of two others is a meet: whatever is assignable to both records
is assignable to it, even where labels repeat, because each required field looks for an own field by
itself. The ends of the order are the empty shape below all others and, among records, the one
without fields above.

The comparison runs over the members of its left side and over the fields of its right side, so both
properties come from splitting a list that the comparison asks everything of.
-/

namespace Conform

namespace Shape

theorem concat_sub_iff (left right target : Shape) :
    (left.concat right).sub target = true ↔
      left.sub target = true ∧ right.sub target = true := by
  rw [sub_iff, sub_iff, sub_iff, concat, List.forall_mem_append]

theorem sub_concat_left (left right : Shape) : left.sub (left.concat right) = true :=
  ((concat_sub_iff left right _).mp (sub_refl _)).1

theorem sub_concat_right (left right : Shape) : right.sub (left.concat right) = true :=
  ((concat_sub_iff left right _).mp (sub_refl _)).2

theorem nil_sub (target : Shape) : sub [] target = true := by
  rw [sub_iff]
  intro member memberMem
  cases memberMem

theorem sub_singleton_iff (shape : Shape) (other : Member) :
    shape.sub [other] = true ↔ ∀ member ∈ shape, member.sub other = true := by
  simp [sub_iff]

end Shape

namespace Member

theorem sub_record_nil (fields : List (Spelling × Shape)) :
    (record fields).sub (record []) = true := by
  rw [record_sub_record]
  intro field fieldMem
  cases fieldMem

theorem sub_record_append_iff (member : Member) (fields others : List (Spelling × Shape)) :
    member.sub (record (fields ++ others)) = true ↔
      member.sub (record fields) = true ∧ member.sub (record others) = true := by
  cases member with
  | kind id => simp
  | record own =>
      rw [record_sub_record, record_sub_record, record_sub_record]
      exact List.forall_mem_append

end Member

namespace Shape

theorem sub_record_append_iff (shape : Shape) (fields others : List (Spelling × Shape)) :
    shape.sub [.record (fields ++ others)] = true ↔
      shape.sub [.record fields] = true ∧ shape.sub [.record others] = true := by
  simp only [sub_singleton_iff, Member.sub_record_append_iff]
  exact forall₂_and

end Shape

namespace Ty

theorem union_le_iff (left right upper : Ty) :
    left.union right ≤ upper ↔ left ≤ upper ∧ right ≤ upper :=
  Shape.concat_sub_iff left.shape right.shape upper.shape

theorem le_union_left (left right : Ty) : left ≤ left.union right :=
  Shape.sub_concat_left left.shape right.shape

theorem le_union_right (left right : Ty) : right ≤ left.union right :=
  Shape.sub_concat_right left.shape right.shape

theorem union_mono {left right otherLeft otherRight : Ty} (leftBelow : left ≤ otherLeft)
    (rightBelow : right ≤ otherRight) : left.union right ≤ otherLeft.union otherRight := by
  apply (union_le_iff _ _ _).mpr
  constructor
  · exact le_trans leftBelow (le_union_left _ _)
  · exact le_trans rightBelow (le_union_right _ _)

theorem union_le_swap (left right : Ty) : left.union right ≤ right.union left := by
  apply (union_le_iff _ _ _).mpr
  exact ⟨le_union_right _ _, le_union_left _ _⟩

/-- An optional type and the union of the unit type with its payload have the same shape. -/
theorem shape_option (payload : Ty) :
    payload.option.shape = ((primitive .unit).union payload).shape := rfl

theorem option_mono {payload other : Ty} (below : payload ≤ other) :
    payload.option ≤ other.option :=
  union_mono (le_refl (primitive .unit)) below

theorem record_le_iff (name otherName : String) (fields required : List (Label × Ty)) :
    record name fields ≤ record otherName required ↔
      ∀ field ∈ required, ∃ own ∈ fields, own.1.id = field.1.id ∧ own.2 ≤ field.2 :=
  (Leaf.shape_sub_iff (.record name fields) (.record otherName required)).trans
    (Leaf.record_sub_iff name otherName fields required)

theorem isLUB_union (left right : Ty) : IsLUB {left, right} (left.union right) := by
  constructor
  · rintro type (rfl | rfl)
    · exact le_union_left _ _
    · exact le_union_right _ _
  · intro upper bound
    apply (union_le_iff left right upper).mpr
    exact ⟨bound (Or.inl rfl), bound (Or.inr rfl)⟩

end Ty

namespace Shape

/-- Unions are joins and merged records are meets, against every competitor. On types this makes a
union the least type above its sides and an optional type the union of its payload with the unit
type. -/
theorem unions_join_records_meet :
    (∀ left right target : Shape, (left.concat right).sub target = true ↔
        left.sub target = true ∧ right.sub target = true) ∧
      (∀ left right : Shape, left.sub (left.concat right) = true ∧
        right.sub (left.concat right) = true) ∧
      (∀ target : Shape, Shape.sub [] target = true) ∧
      (∀ (fields others : List (Spelling × Shape)) (shape : Shape),
        shape.sub [.record (fields ++ others)] = true ↔
          shape.sub [.record fields] = true ∧ shape.sub [.record others] = true) ∧
      (∀ fields : List (Spelling × Shape), Shape.sub [.record fields] [.record []] = true) ∧
      (∀ left right : Ty, IsLUB {left, right} (left.union right)) ∧
      (∀ type : Ty, (Ty.never.relate type).subtype = true) ∧
      ∀ payload : Ty, (payload.option.relate ((Ty.primitive .unit).union payload)).equal = true := by
  refine ⟨concat_sub_iff, ?_, nil_sub, ?_, ?_, Ty.isLUB_union, ?_, ?_⟩
  · intro left right
    exact ⟨sub_concat_left left right, sub_concat_right left right⟩
  · intro fields others shape
    exact sub_record_append_iff shape fields others
  · intro fields
    rw [sub_singleton_iff]
    intro member memberMem
    rw [List.mem_singleton.mp memberMem]
    exact Member.sub_record_nil fields
  · intro type
    exact nil_sub type.shape
  · intro payload
    rw [Ty.equal_iff, Ty.shape_option]
    exact ⟨sub_refl _, sub_refl _⟩

end Shape

end Conform
