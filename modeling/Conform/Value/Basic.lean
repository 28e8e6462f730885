import Conform.Scalar.Basic

/-!
# Values

A value is what a typed value is written as and read from: a scalar tagged with its kind, or a
record that keeps its fields under names. Names of a record may repeat; a look-up finds the first.
-/

namespace Conform

/-- A value tagged with its kind. -/
inductive Value where
  | scalar (content : Scalar)
  | record (fields : List (String × Value))

namespace Value

/-- The value without content. -/
abbrev unit : Value := scalar .unit

/-- The first field of a given name, if the value is a record that has one. -/
def field? (name : String) : Value → Option Value
  | scalar _ => none
  | record fields => fields.lookup name

mutual

/-- Equality of values: the same kind and equal scalars, or records that agree field by field in
their order. -/
def equal : Value → Value → Bool
  | scalar left, scalar right => left.equal right
  | record left, record right => fieldsEqual left right
  | _, _ => false

def fieldsEqual : List (String × Value) → List (String × Value) → Bool
  | [], [] => true
  | (name₁, value₁) :: rest₁, (name₂, value₂) :: rest₂ =>
      decide (name₁ = name₂) && value₁.equal value₂ && fieldsEqual rest₁ rest₂
  | _, _ => false

end

end Value

end Conform
