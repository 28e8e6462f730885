import Conform.Proofs.Relation.Equality
import Conform.Relation.Proof

/-!
# Typing of proof terms

A proof term is accepted for an identity of truth values by its form: it consists of the laws of
equality. The laws have types of their own, and what their result does not show of these, such as
the middle of transitivity, is free. This file gives the types and shows that they admit the same
terms for such an identity.

Every typed law connects equal types, where equality is identity or, between structural types,
assignability both ways. This bounds the hidden types: what is equal to a truth value is that truth
value. So a law with a truth value at one end has it everywhere, and the structural conversion, with
structural types at its ends, occurs nowhere in it. Conversely a term made of the laws has a type
over any one type, which is put in for all hidden ones.
-/

namespace Conform

/-- A type that a proof term has or speaks about. -/
inductive ProofType where
  | truth (value : Bool)
  | structural (type : Ty)
  /-- Any other type, by its name. -/
  | named (name : String)
  | witness (source target : ProofType)
  | both (left right : ProofType)
  | either (left right : ProofType)

namespace ProofType

/-- The types are identical, or structural and assignable to each other. -/
def Equal (left right : ProofType) : Prop :=
  left = right ∨ ∃ source target : Ty, left = structural source ∧ right = structural target ∧
    (source.relate target).equal = true

theorem Equal.refl (type : ProofType) : type.Equal type := Or.inl rfl

theorem Equal.symm {left right : ProofType} (equal : left.Equal right) : right.Equal left := by
  rcases equal with rfl | ⟨source, target, rfl, rfl, structuralEqual⟩
  · exact Equal.refl left
  · exact Or.inr ⟨target, source, rfl, rfl, Ty.equal_symm structuralEqual⟩

theorem Equal.trans {first second third : ProofType} (lower : first.Equal second)
    (upper : second.Equal third) : first.Equal third := by
  rcases lower with rfl | ⟨source, middle, rfl, rfl, lowerEqual⟩
  · exact upper
  · rcases upper with rfl | ⟨meet, target, sameMiddle, rfl, upperEqual⟩
    · exact Or.inr ⟨source, middle, rfl, rfl, lowerEqual⟩
    · cases sameMiddle
      exact Or.inr ⟨source, target, rfl, rfl, Ty.equal_trans lowerEqual upperEqual⟩

theorem equal_structural_iff (source target : Ty) :
    (structural source).Equal (structural target) ↔ (source.relate target).equal = true := by
  constructor
  · rintro (same | ⟨_, _, sameSource, sameTarget, equal⟩)
    · cases same
      exact Ty.equal_refl source
    · cases sameSource
      cases sameTarget
      exact equal
  · intro equal
    exact Or.inr ⟨source, target, rfl, rfl, equal⟩

/-- Nothing but a truth value itself is equal to it. -/
theorem Equal.eq_truth {value : Bool} {right : ProofType} (equal : (truth value).Equal right) :
    right = truth value := by
  rcases equal with same | ⟨source, target, isStructural, _⟩
  · exact same.symm
  · cases isStructural

end ProofType

namespace ProofTerm

/-- The types that a proof term has. The types that the result does not show are arbitrary. -/
inductive HasType : ProofTerm → ProofType → Prop where
  | refl (type : ProofType) : HasType refl (.witness type type)
  | sym {body : ProofTerm} {left right : ProofType}
      (bodyTyped : HasType body (.witness left right)) : HasType (sym body) (.witness right left)
  | trans {first second : ProofTerm} {left middle right : ProofType}
      (firstTyped : HasType first (.witness left middle))
      (secondTyped : HasType second (.witness middle right)) :
      HasType (trans first second) (.witness left right)
  | sub1 {first second : ProofTerm} {hidden left right : ProofType}
      (firstTyped : HasType first (.witness hidden right))
      (secondTyped : HasType second (.witness hidden left)) :
      HasType (sub1 first second) (.witness left right)
  | sub2 {first second : ProofTerm} {left middle right : ProofType}
      (firstTyped : HasType first (.witness left middle))
      (secondTyped : HasType second (.witness middle right)) :
      HasType (sub2 first second) (.witness left right)
  | structural {source target : Ty} (equal : (source.relate target).equal = true) :
      HasType structural (.witness (.structural source) (.structural target))
  | and {leftTerm rightTerm : ProofTerm} {left right : ProofType}
      (leftTyped : HasType leftTerm left) (rightTyped : HasType rightTerm right) :
      HasType (and leftTerm rightTerm) (.both left right)
  | orLeft {term : ProofTerm} {left right : ProofType} (termTyped : HasType term left) :
      HasType (orLeft term) (.either left right)
  | orRight {term : ProofTerm} {left right : ProofType} (termTyped : HasType term right) :
      HasType (orRight term) (.either left right)

/-- A typed witness connects equal types, whatever types are hidden in it. -/
theorem HasType.connects {term : ProofTerm} {left right : ProofType}
    (typed : term.HasType (.witness left right)) : left.Equal right := by
  induction term generalizing left right with
  | refl =>
      cases typed
      exact .refl left
  | sym body ih =>
      cases typed with
      | sym bodyTyped => exact (ih bodyTyped).symm
  | trans first second ihFirst ihSecond =>
      cases typed with
      | trans firstTyped secondTyped => exact (ihFirst firstTyped).trans (ihSecond secondTyped)
  | sub1 first second ihFirst ihSecond =>
      cases typed with
      | sub1 firstTyped secondTyped =>
          exact (ihSecond secondTyped).symm.trans (ihFirst firstTyped)
  | sub2 first second ihFirst ihSecond =>
      cases typed with
      | sub2 firstTyped secondTyped => exact (ihFirst firstTyped).trans (ihSecond secondTyped)
  | structural =>
      cases typed with
      | structural equal => exact (ProofType.equal_structural_iff _ _).mpr equal
  | and | orLeft | orRight => cases typed

/-- A witness with a truth value at its ends has it at the ends of all its parts, so the laws of
equality are all that it consists of. -/
theorem HasType.isEquational {term : ProofTerm} {value : Bool}
    (typed : term.HasType (.witness (.truth value) (.truth value))) : term.isEquational = true := by
  induction term with
  | refl => rfl
  | sym body ih =>
      cases typed with
      | sym bodyTyped => exact ih bodyTyped
  | trans first second ihFirst ihSecond =>
      cases typed with
      | trans firstTyped secondTyped =>
          -- The hidden middle is equal to the truth value on the left, so it is this truth value.
          cases firstTyped.connects.eq_truth
          exact Bool.and_eq_true_iff.mpr ⟨ihFirst firstTyped, ihSecond secondTyped⟩
  | sub1 first second ihFirst ihSecond =>
      cases typed with
      | sub1 firstTyped secondTyped =>
          cases firstTyped.connects.symm.eq_truth
          exact Bool.and_eq_true_iff.mpr ⟨ihFirst firstTyped, ihSecond secondTyped⟩
  | sub2 first second ihFirst ihSecond =>
      cases typed with
      | sub2 firstTyped secondTyped =>
          cases firstTyped.connects.eq_truth
          exact Bool.and_eq_true_iff.mpr ⟨ihFirst firstTyped, ihSecond secondTyped⟩
  | structural | and | orLeft | orRight => cases typed

/-- A term made of the laws of equality proves the identity of every type with itself. -/
theorem hasType_of_isEquational {term : ProofTerm} (equational : term.isEquational = true)
    (type : ProofType) : term.HasType (.witness type type) := by
  -- The given type is chosen for every hidden one.
  induction term with
  | refl => exact .refl type
  | sym body ih => exact .sym (ih equational)
  | trans first second ihFirst ihSecond =>
      rcases Bool.and_eq_true_iff.mp equational with ⟨firstEquational, secondEquational⟩
      exact .trans (ihFirst firstEquational) (ihSecond secondEquational)
  | sub1 first second ihFirst ihSecond =>
      rcases Bool.and_eq_true_iff.mp equational with ⟨firstEquational, secondEquational⟩
      exact .sub1 (ihFirst firstEquational) (ihSecond secondEquational)
  | sub2 first second ihFirst ihSecond =>
      rcases Bool.and_eq_true_iff.mp equational with ⟨firstEquational, secondEquational⟩
      exact .sub2 (ihFirst firstEquational) (ihSecond secondEquational)
  | structural | and | orLeft | orRight => cases equational

theorem hasType_truth_iff (term : ProofTerm) (computed expected : Bool) :
    term.HasType (.witness (.truth computed) (.truth expected)) ↔
      computed = expected ∧ term.isEquational = true := by
  constructor
  · intro typed
    cases typed.connects.eq_truth
    exact ⟨rfl, typed.isEquational⟩
  · rintro ⟨rfl, equational⟩
    exact hasType_of_isEquational equational (.truth computed)

end ProofTerm

namespace Goal

/-- The type whose terms prove the goal. -/
def type : Goal → ProofType
  | same computed expected => .witness (.truth computed) (.truth expected)
  | both left right => .both left.type right.type
  | either left right => .either left.type right.type
  | witness source target => .witness (.structural source) (.structural target)

theorem hasType_same_iff (computed expected : Bool) (term : ProofTerm) :
    term.HasType (same computed expected).type ↔ (same computed expected).accepts term = true := by
  rw [type, ProofTerm.hasType_truth_iff, accepts, Bool.and_eq_true, Truth.same_iff]

end Goal

end Conform
