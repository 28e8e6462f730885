import Conform.Datum.Basic

/-!
# Reading values

A type reads a value by looking at its kind. A union tries its left side before its right one, an
optional type takes the value without content as absence before its payload sees it, and a record
looks its fields up by name: it ignores all others, so a record without fields reads every value.
The empty type reads nothing.
-/

namespace Conform

namespace Ty

mutual

/-- The datum that a type reads from a value, if it reads the value at all. -/
def read? : Ty → Value → Option Datum
  | primitive type, .scalar content =>
      if content.primitive = type then some (.scalar content) else none
  | primitive _, .record _ => none
  | never, _ => none
  | union left right, value =>
      match left.read? value with
      | some datum => some (.left datum)
      | none => (right.read? value).map .right
  | option payload, value =>
      match value with
      | .scalar .unit => some .none
      | _ => (payload.read? value).map .some
  | record _ fields, value => (readFields? fields value).map .record

/-- The data that fields read from the fields of a value with their names. -/
def readFields? : List (Label × Ty) → Value → Option (List (Label × Datum))
  | [], _ => some []
  | (label, type) :: rest, value =>
      match value.field? label.name with
      | none => none
      | some found =>
          match type.read? found, readFields? rest value with
          | some datum, some data => some ((label, datum) :: data)
          | _, _ => none

end

def Reads (type : Ty) (value : Value) : Prop := (type.read? value).isSome

/-- Writing a datum and reading the result as another type. -/
def convert? (target : Ty) (datum : Datum) : Option Datum := target.read? datum.write

/-- A chain of conversions. Each type reads the written form of the latest datum that was read; a
type that cannot read it leaves the datum as it is. -/
def chain (datum : Datum) : List Ty → List (Option Datum)
  | [] => []
  | target :: rest =>
      match target.convert? datum with
      | some next => some next :: chain next rest
      | none => none :: chain datum rest

end Ty

end Conform
