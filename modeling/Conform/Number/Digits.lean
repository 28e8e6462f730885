/-!
# Numbers in digits

Reading natural numbers from decimal and hexadecimal digits, and writing hexadecimal words with
all their digits.
-/

namespace Conform

namespace Digits

def decimalValue? (digit : Char) : Option Nat :=
  if '0' ≤ digit ∧ digit ≤ '9' then some (digit.toNat - '0'.toNat) else none

/-- The value of a hexadecimal digit in lower case. -/
def lowerValue? (digit : Char) : Option Nat :=
  if 'a' ≤ digit ∧ digit ≤ 'f' then some (digit.toNat - 'a'.toNat + 10) else decimalValue? digit

/-- The value of a hexadecimal digit of either case. -/
def hexValue? (digit : Char) : Option Nat := lowerValue? digit.toLower

/-- The number that digits stand for in a base, each read by `value?`. -/
def number? (base : Nat) (value? : Char → Option Nat) (digits : List Char) : Option Nat :=
  digits.foldlM (fun number digit => (value? digit).map (base * number + ·)) 0

/-- A number with at least one decimal digit. -/
def decimal? (digits : List Char) : Option Nat :=
  if digits.isEmpty then none else number? 10 decimalValue? digits

/-- A number with exactly `count` hexadecimal digits in lower case, behind `0x`. -/
def hex? (count : Nat) : List Char → Option Nat
  | '0' :: 'x' :: digits => if digits.length = count then number? 16 lowerValue? digits else none
  | _ => none

/-- The hexadecimal text of a number, padded to `count` digits and behind `0x`. -/
def hex (count number : Nat) : String :=
  let digits := Nat.toDigits 16 number
  String.ofList (['0', 'x'] ++ List.replicate (count - digits.length) '0' ++ digits)

end Digits

end Conform
