/-!
# Truth values and truth expressions

Every comparison of the library ends in one of the two truth values. This module gives the
sameness of two of them, the choice between two outcomes, and the closed expressions built from
constants, connectives, sameness and choice. Evaluation is total: an expression has exactly one
value.
-/

namespace Conform

namespace Truth

/-- Two truth values are the same value. -/
def same : Bool → Bool → Bool
  | true, other => other
  | false, other => !other

/-- The first outcome under a true condition, the second under a false one. -/
def choose {Outcome : Type} : Bool → Outcome → Outcome → Outcome
  | true, yes, _ => yes
  | false, _, no => no

/-- A closed expression over truth values. -/
inductive Expr where
  | constant (value : Bool)
  | not (body : Expr)
  | and (left right : Expr)
  | or (left right : Expr)
  | same (left right : Expr)
  | choose (condition yes no : Expr)
deriving DecidableEq, Repr

def Expr.value : Expr → Bool
  | constant value => value
  | not body => !body.value
  | and left right => left.value && right.value
  | or left right => left.value || right.value
  | same left right => Truth.same left.value right.value
  | choose condition yes no => Truth.choose condition.value yes.value no.value

@[simp]
theorem same_iff (left right : Bool) : same left right = true ↔ left = right := by
  cases left <;> cases right <;> simp [same]

end Truth

end Conform
