import Conform.Number.Digits
import Conform.Scalar.Basic

/-!
# Text of scalars

Scalars other than the unit and the truth values have a text. Integers are written in decimal,
floating-point words in lowercase hexadecimal behind `0x` with all their digits, a character as a
text of one character, and strings as they are. `Scalar.ofText?` reads that text at a given type.
-/

namespace Conform

/-- A number of an integer type: decimal digits behind an optional plus sign, or behind a minus
sign where the type has negative numbers. -/
def IntKind.number? (kind : IntKind) : List Char → Option Int
  | '-' :: digits => if kind.signed then (Digits.decimal? digits).map (-·) else none
  | '+' :: digits => (Digits.decimal? digits).map (·)
  | digits => (Digits.decimal? digits).map (·)

namespace Scalar

/-- The scalar of a primitive type with a given text. -/
def ofText? : Primitive → String → Option Scalar
  | .unit, _ => none
  | .bool, _ => none
  | .char, text =>
      match text.toList with
      | [character] => some (char character)
      | _ => none
  | .int kind, text => (kind.number? text.toList).bind (ofInt? kind)
  | .f32, text => (Digits.hex? 8 text.toList).map (fun word => f32 (UInt32.ofNat word))
  | .f64, text => (Digits.hex? 16 text.toList).map (fun word => f64 (UInt64.ofNat word))
  | .staticStr, text => some (staticStr text)
  | .string, text => some (string text)

/-- The text of a scalar, if it has one. -/
def text? : Scalar → Option String
  | unit => none
  | bool _ => none
  | char character => some (String.singleton character)
  | int _ number _ => some (toString number)
  | f32 word => some (Digits.hex 8 word.toNat)
  | f64 word => some (Digits.hex 16 word.toNat)
  | staticStr text => some text
  | string text => some text

end Scalar

end Conform
