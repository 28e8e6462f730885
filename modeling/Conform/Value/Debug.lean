import Conform.Number.Layout
import Conform.Text.Quoted
import Conform.Value.Basic

/-!
# Text of values

A value is shown as its tag with its content in parentheses. Strings and characters are quoted,
floating-point numbers are written by their shortest decimals, and a record is shown as the list
of its names and values.
-/

namespace Conform

/-- Magnitudes from a ten-thousandth up to ten to the sixteenth are written positionally. -/
def Scalar.layout : Decimal.Layout where
  leastPoint := -3
  greatestPoint := 16

namespace Scalar

/-- The text of the content of a scalar, if it has any. -/
def content? : Scalar → Option String
  | unit => none
  | bool value => some (if value then "true" else "false")
  | char character => some (Quoted.render '\'' [character])
  | int _ number _ => some (toString number)
  | f32 word => some (Binary.Format.single.render layout word.toNat)
  | f64 word => some (Binary.Format.double.render layout word.toNat)
  | staticStr text => some (Quoted.render '"' text.toList)
  | string text => some (Quoted.render '"' text.toList)

def debug (scalar : Scalar) : String :=
  match scalar.content? with
  | none => scalar.primitive.tag
  | some content => scalar.primitive.tag ++ "(" ++ content ++ ")"

end Scalar

namespace Value

mutual

def debug : Value → String
  | scalar content => content.debug
  | record fields => "Record([" ++ ", ".intercalate (debugFields fields) ++ "])"

def debugFields : List (String × Value) → List String
  | [] => []
  | (name, value) :: rest =>
      ("(" ++ Quoted.render '"' name.toList ++ ", " ++ value.debug ++ ")") :: debugFields rest

end

end Value

end Conform
