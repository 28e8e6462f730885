import Conform.Number.Shortest

/-!
# Layout of decimals

How a decimal is put into text. A layout fixes the magnitudes that are written positionally; all
others get an exponent. Positional text always has a digit on either side of the point.
-/

namespace Conform

namespace Decimal

/-- The digits of the coefficient without trailing zeros. -/
def digits (decimal : Decimal) : List Char :=
  ((Nat.toDigits 10 decimal.coefficient).reverse.dropWhile (· == '0')).reverse

/-- The position of the decimal point behind the first digit of the coefficient. -/
def point (decimal : Decimal) : Int :=
  (Nat.toDigits 10 decimal.coefficient).length + decimal.exponent

/-- The magnitudes that are written positionally. -/
structure Layout where
  leastPoint : Int
  greatestPoint : Int
deriving DecidableEq, Repr

/-- Digits with the decimal point at a position that may lie outside them. -/
def positional (digits : List Char) (point : Int) : List Char :=
  if point ≤ 0 then
    ['0', '.'] ++ List.replicate (-point).toNat '0' ++ digits
  else
    let padded := digits ++ List.replicate (point.toNat - digits.length) '0'
    let fraction := padded.drop point.toNat
    padded.take point.toNat ++ ['.'] ++ (if fraction.isEmpty then ['0'] else fraction)

/-- Digits with the decimal point behind the first of them, and the power of ten that restores the
magnitude. -/
def scientific (digits : List Char) (point : Int) : List Char :=
  let fraction := digits.drop 1
  digits.take 1 ++ (if fraction.isEmpty then [] else '.' :: fraction)
    ++ ['e'] ++ (toString (point - 1)).toList

/-- The text of a decimal other than zero. -/
def render (layout : Layout) (decimal : Decimal) : List Char :=
  if layout.leastPoint ≤ decimal.point ∧ decimal.point ≤ layout.greatestPoint then
    positional decimal.digits decimal.point
  else
    scientific decimal.digits decimal.point

end Decimal

/-- Text of a floating-point word: the shortest decimal in the given layout, with the sign of zero
kept and the sign of a NaN left out. -/
def Binary.Format.render (format : Format) (layout : Decimal.Layout) (word : Nat) : String :=
  if format.isNaN word then "NaN"
  else
    let magnitude :=
      if format.isInfinite word then ['i', 'n', 'f']
      else if format.isZero word then ['0', '.', '0']
      else (format.shortest word).render layout
    String.ofList (if format.negative word then '-' :: magnitude else magnitude)

end Conform
