import Conform.Proofs.Shape.Order
import Conform.Relation.Verdict

/-!
# Equality of types

Two types are equal if each is assignable to the other. Assignability is a preorder on shapes, so
this is an equivalence between types, of which identity is only the finest case. It does not
identify everything: between primitive types it is identity.
-/

namespace Conform

namespace Ty

theorem equal_iff (left right : Ty) :
    (left.relate right).equal = true ↔
      left.shape.sub right.shape = true ∧ right.shape.sub left.shape = true :=
  Bool.and_eq_true_iff

@[simp]
theorem equal_refl (type : Ty) : (type.relate type).equal = true := by
  simp [equal_iff]

theorem equal_symm {left right : Ty} (equal : (left.relate right).equal = true) :
    (right.relate left).equal = true := by
  rw [equal_iff] at equal ⊢
  exact equal.symm

theorem equal_trans {first second third : Ty} (lower : (first.relate second).equal = true)
    (upper : (second.relate third).equal = true) : (first.relate third).equal = true := by
  rw [equal_iff] at lower upper ⊢
  rcases lower with ⟨up, down⟩
  rcases upper with ⟨upUp, downDown⟩
  exact ⟨Shape.sub_trans up upUp, Shape.sub_trans downDown down⟩

theorem equal_equivalence :
    Equivalence (fun left right : Ty => (left.relate right).equal = true) :=
  ⟨equal_refl, equal_symm, equal_trans⟩

theorem equal_primitive_iff (left right : Primitive) :
    ((primitive left).relate (primitive right)).equal = true ↔ left = right := by
  constructor
  · intro equal
    have assignable := ((equal_iff _ _).mp equal).1
    have sameKind : left.kind = right.kind := by simpa [shape, Shape.sub_iff] using assignable
    exact Primitive.kind_injective sameKind
  · rintro rfl
    exact equal_refl _

end Ty

namespace Shape

/-- Assignability is a preorder on all shapes, so equality, which is assignability both ways, is an
equivalence on all types. It tells any two primitive types apart. -/
theorem assignability_preorder :
    (∀ shape : Shape, shape.sub shape = true) ∧
      (∀ first second third : Shape, first.sub second = true → second.sub third = true →
        first.sub third = true) ∧
      (∀ left right : Ty, (left.relate right).equal = true ↔
        left.shape.sub right.shape = true ∧ right.shape.sub left.shape = true) ∧
      Equivalence (fun left right : Ty => (left.relate right).equal = true) ∧
      ∀ left right : Primitive,
        ((Ty.primitive left).relate (.primitive right)).equal = true ↔ left = right := by
  refine ⟨sub_refl, ?_, Ty.equal_iff, Ty.equal_equivalence, Ty.equal_primitive_iff⟩
  intro first second third lower upper
  exact sub_trans lower upper

/-- A record that repeats a label with different shapes, in a shape that repeats the record. -/
def repeating : Shape :=
  let label := Spelling.ofText "x"
  [.record [(label, [.kind 1]), (label, [.kind 2])],
    .record [(label, [.kind 1]), (label, [.kind 2])]]

def widened : Shape :=
  let label := Spelling.ofText "x"
  [.record [(label, [.kind 2, .kind 0]), (label, [.kind 1])]]

def joined : Shape :=
  let label := Spelling.ofText "x"
  [.kind 5, .record [(label, [.kind 3, .kind 2, .kind 0, .kind 2])]]

theorem repeating_sub_joined :
    repeating.sub widened = true ∧ widened.sub joined = true ∧ repeating.sub joined = true :=
  ⟨by decide, by decide,
    assignability_preorder.2.1 repeating widened joined (by decide) (by decide)⟩

end Shape

end Conform
