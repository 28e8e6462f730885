import Conform.Proofs.Shape.Order

/-!
# Rearranged shapes

A shape stands for a union and a record for a collection of fields, so neither the order nor the
number of occurrences of their entries should matter. The steps that permute and repeat members,
permute and repeat fields, and rearrange the shape of a field generate the rearrangements of a
shape. Each step leads to an equal shape, one that is assignable both ways, and transitivity carries
this over to whole rearrangements. Equal shapes cannot be told apart by any comparison.
-/

namespace Conform

namespace Shape

/-- Two shapes are assignable to each other. -/
def Equal (shape other : Shape) : Prop := shape.sub other = true ∧ other.sub shape = true

instance (shape other : Shape) : Decidable (shape.Equal other) :=
  inferInstanceAs (Decidable (_ ∧ _))

theorem Equal.symm {shape other : Shape} (equal : shape.Equal other) : other.Equal shape :=
  And.symm equal

theorem Equal.trans {first second third : Shape} (lower : first.Equal second)
    (upper : second.Equal third) : first.Equal third :=
  ⟨sub_trans lower.1 upper.1, sub_trans upper.2 lower.2⟩

/-- Equal shapes are assignable to the same shapes, and the same shapes are assignable to them. -/
theorem Equal.sub_congr {shape other : Shape} (equal : shape.Equal other) (third : Shape) :
    shape.sub third = other.sub third ∧ third.sub shape = third.sub other := by
  rcases equal with ⟨up, down⟩
  constructor
  · rw [Bool.eq_iff_iff]
    exact ⟨sub_trans down, sub_trans up⟩
  · rw [Bool.eq_iff_iff]
    exact ⟨fun lower => sub_trans lower up, fun lower => sub_trans lower down⟩

end Shape

namespace Member

/-- Two members are assignable to each other. -/
def Equal (member other : Member) : Prop := member.sub other = true ∧ other.sub member = true

instance : Std.Symm Equal := ⟨fun _ _ equal => ⟨equal.2, equal.1⟩⟩

theorem record_sub_of_subset {fields required : List (Spelling × Shape)}
    (contained : required ⊆ fields) : (record fields).sub (record required) = true := by
  rw [record_sub_record]
  intro field fieldMem
  exact ⟨field, contained fieldMem, rfl, Shape.sub_refl field.2⟩

theorem record_equal_of_mem_iff {fields others : List (Spelling × Shape)}
    (sameFields : ∀ field, field ∈ fields ↔ field ∈ others) :
    (record fields).Equal (record others) := by
  constructor
  · exact record_sub_of_subset (fun field fieldMem => (sameFields field).mpr fieldMem)
  · exact record_sub_of_subset (fun field fieldMem => (sameFields field).mp fieldMem)

theorem record_sub_of_field_sub (label : Spelling) {shape other : Shape}
    (below : shape.sub other = true) (rest : List (Spelling × Shape)) :
    (record ((label, shape) :: rest)).sub (record ((label, other) :: rest)) = true := by
  rw [record_sub_record]
  intro field fieldMem
  rcases List.mem_cons.mp fieldMem with rfl | restMem
  · exact ⟨(label, shape), List.mem_cons_self, rfl, below⟩
  · exact ⟨field, List.mem_cons_of_mem _ restMem, rfl, Shape.sub_refl field.2⟩

end Member

namespace Shape

theorem sub_of_subset {source target : Shape} (contained : source ⊆ target) :
    source.sub target = true := by
  rw [sub_iff]
  intro member memberMem
  exact ⟨member, contained memberMem, Member.sub_refl member⟩

theorem equal_of_mem_iff {shape other : Shape}
    (sameMembers : ∀ member, member ∈ shape ↔ member ∈ other) : shape.Equal other := by
  constructor
  · exact sub_of_subset (fun member memberMem => (sameMembers member).mp memberMem)
  · exact sub_of_subset (fun member memberMem => (sameMembers member).mpr memberMem)

theorem sub_of_head_sub {member other : Member} (below : member.sub other = true) (rest : Shape) :
    sub (member :: rest) (other :: rest) = true := by
  rw [sub_iff]
  intro inner innerMem
  rcases List.mem_cons.mp innerMem with rfl | restMem
  · exact ⟨other, List.mem_cons_self, below⟩
  · exact ⟨inner, List.mem_cons_of_mem _ restMem, Member.sub_refl inner⟩

theorem equal_of_head_equal {member other : Member} (equal : member.Equal other) (rest : Shape) :
    Equal (member :: rest) (other :: rest) :=
  ⟨sub_of_head_sub equal.1 rest, sub_of_head_sub equal.2 rest⟩

/-- The second shape is obtained from the first by permuting and repeating members, and by
permuting and repeating fields of records, at any depth. Since the order is free, the steps other
than permutations only speak about the first member and the first field. -/
inductive Rearranges : Shape → Shape → Prop where
  | permuteMembers {shape other : Shape} (permuted : shape.Perm other) : Rearranges shape other
  | repeatMember (member : Member) (rest : Shape) :
      Rearranges (member :: rest) (member :: member :: rest)
  | permuteFields {fields others : List (Spelling × Shape)} (permuted : fields.Perm others)
      (rest : Shape) : Rearranges (.record fields :: rest) (.record others :: rest)
  | repeatField (field : Spelling × Shape) (fields : List (Spelling × Shape)) (rest : Shape) :
      Rearranges (.record (field :: fields) :: rest) (.record (field :: field :: fields) :: rest)
  | insideField (label : Spelling) {shape other : Shape} (inner : Rearranges shape other)
      (fields : List (Spelling × Shape)) (rest : Shape) :
      Rearranges (.record ((label, shape) :: fields) :: rest)
        (.record ((label, other) :: fields) :: rest)
  | trans {first second third : Shape} (start : Rearranges first second)
      (continued : Rearranges second third) : Rearranges first third

/-- A rearranged shape is equal to the shape it comes from. -/
theorem Rearranges.equal {shape other : Shape} (rearranged : shape.Rearranges other) :
    shape.Equal other := by
  induction rearranged with
  | permuteMembers permuted => exact equal_of_mem_iff (fun member => permuted.mem_iff)
  | repeatMember member rest => exact equal_of_mem_iff (by simp)
  | permuteFields permuted rest =>
      apply equal_of_head_equal
      exact Member.record_equal_of_mem_iff (fun field => permuted.mem_iff)
  | repeatField field fields rest =>
      apply equal_of_head_equal
      exact Member.record_equal_of_mem_iff (by simp)
  | insideField label _ fields rest ih =>
      apply equal_of_head_equal
      constructor
      · exact Member.record_sub_of_field_sub label ih.1 fields
      · exact Member.record_sub_of_field_sub label ih.2 fields
  | trans _ _ ihStart ihContinued => exact ihStart.trans ihContinued

end Shape

end Conform
