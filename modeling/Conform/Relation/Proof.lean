import Conform.Relation.Basic

/-!
# Proof terms

A goal is proved by a term over the laws of equality and the introductions of conjunction and
disjunction. An identity of truth values has the proofs made of reflexivity, symmetry,
transitivity and the two substitutions, and only if the values are the same. A conjunction is
proved by a pair, a disjunction by one of its sides. A witness between two types is given by
reflexivity if the types are identical, and by the structural conversion if they are equal.
-/

namespace Conform

inductive ProofTerm where
  | refl
  | sym (body : ProofTerm)
  | trans (first second : ProofTerm)
  | sub1 (first second : ProofTerm)
  | sub2 (first second : ProofTerm)
  | structural
  | and (left right : ProofTerm)
  | orLeft (left : ProofTerm)
  | orRight (right : ProofTerm)
deriving DecidableEq, Repr

namespace ProofTerm

/-- The term is made of the laws of equality only. -/
def isEquational : ProofTerm → Bool
  | refl => true
  | sym body => body.isEquational
  | trans first second => first.isEquational && second.isEquational
  | sub1 first second => first.isEquational && second.isEquational
  | sub2 first second => first.isEquational && second.isEquational
  | structural => false
  | and _ _ => false
  | orLeft _ => false
  | orRight _ => false

end ProofTerm

namespace Goal

def accepts : Goal → ProofTerm → Bool
  | same computed expected, term => Truth.same computed expected && term.isEquational
  | both left right, .and leftTerm rightTerm => left.accepts leftTerm && right.accepts rightTerm
  | both _ _, _ => false
  | either left _, .orLeft term => left.accepts term
  | either _ right, .orRight term => right.accepts term
  | either _ _, _ => false
  | witness source target, .refl => decide (source = target)
  | witness source target, .structural => (source.relate target).equal
  | witness _ _, _ => false

/-- Some term proves the goal. -/
def Provable (goal : Goal) : Prop := ∃ term, goal.accepts term

end Goal

end Conform
