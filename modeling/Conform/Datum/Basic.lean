import Conform.Scalar.Basic
import Conform.Ty.Basic
import Conform.Value.Basic

/-!
# Data

A datum is a typed value: it records the side taken at every union and optional type, which its
written form leaves out. `Ty.Admits` says which data belong to a type, `Datum.write` forgets the
sides, and `Datum.equal` compares two data of one type.
-/

namespace Conform

/-- A typed value. -/
inductive Datum where
  | scalar (content : Scalar)
  | left (datum : Datum)
  | right (datum : Datum)
  | none
  | some (datum : Datum)
  | record (fields : List (Label × Datum))

namespace Datum

mutual

/-- The value that a datum is written as. Fields go under the names of their labels, and the sides
of unions and optional types are left out. -/
def write : Datum → Value
  | scalar content => .scalar content
  | left datum => datum.write
  | right datum => datum.write
  | none => Value.unit
  | some datum => datum.write
  | record fields => .record (writeFields fields)

def writeFields : List (Label × Datum) → List (String × Value)
  | [] => []
  | (label, datum) :: rest => (label.name, datum.write) :: writeFields rest

end

mutual

/-- Equality of data: the same sides throughout and equal scalars. -/
def equal : Datum → Datum → Bool
  | scalar first, scalar second => first.equal second
  | left first, left second => first.equal second
  | right first, right second => first.equal second
  | none, none => true
  | some first, some second => first.equal second
  | record first, record second => fieldsEqual first second
  | _, _ => false

def fieldsEqual : List (Label × Datum) → List (Label × Datum) → Bool
  | [], [] => true
  | (label₁, datum₁) :: rest₁, (label₂, datum₂) :: rest₂ =>
      decide (label₁ = label₂) && datum₁.equal datum₂ && fieldsEqual rest₁ rest₂
  | _, _ => false

end

end Datum

namespace Ty

mutual

def admits : Ty → Datum → Bool
  | primitive type, .scalar content => decide (content.primitive = type)
  | union left _, .left datum => left.admits datum
  | union _ right, .right datum => right.admits datum
  | option _, .none => true
  | option payload, .some datum => payload.admits datum
  | record _ fields, .record data => admitsFields fields data
  | _, _ => false

/-- The data of a record: exactly its fields in the declared order. -/
def admitsFields : List (Label × Ty) → List (Label × Datum) → Bool
  | [], [] => true
  | (label, type) :: fields, (other, datum) :: data =>
      decide (label = other) && type.admits datum && admitsFields fields data
  | _, _ => false

end

end Ty

end Conform
