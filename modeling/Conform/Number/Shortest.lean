import Conform.Number.Binary

/-!
# Shortest decimals

A finite word is written by the decimal with the fewest digits among those that round to the word,
and by the nearest of these. A tie between two nearest ones goes to the larger.

The reals that round to a word are an interval around its value, with both ends in it exactly when
the significand is even. If a decimal grid has a point in that interval then it has one next to
the value, so it is enough to test the two neighbours of the value on ever finer grids. All of it
is exact arithmetic on natural numbers.
-/

namespace Conform

/-- A nonnegative decimal: a coefficient times a power of ten. -/
structure Decimal where
  coefficient : Nat
  exponent : Int
deriving DecidableEq, Repr

namespace Binary

/-- The reals that round to a word, as fractions of one unit. -/
structure Interval where
  lower : Nat
  /-- The numerator of the value of the word. -/
  value : Nat
  upper : Nat
  /-- The common denominator. -/
  unit : Nat
  /-- Whether the ends themselves round to the word. -/
  closed : Bool
deriving DecidableEq, Repr

/-- The interval of a finite word other than zero. Numerators count quarters of the last place of
the significand, so that half a gap is a whole number of them also where the gap below is halved.
-/
def Format.interval (format : Format) (word : Nat) : Interval :=
  let quarter := format.scale word - 2
  let factor := Nat.pow 2 quarter.toNat
  let middle := 4 * format.significand word
  { lower := (middle - if format.isStep word then 1 else 2) * factor
    value := middle * factor
    upper := (middle + 2) * factor
    unit := Nat.pow 2 (-quarter).toNat
    closed := format.significand word % 2 == 0 }

namespace Interval

/-- The interval with the power of ten `exponent` as its unit. -/
def onGrid (interval : Interval) (exponent : Int) : Interval :=
  let factor := Nat.pow 10 (-exponent).toNat
  { lower := interval.lower * factor
    value := interval.value * factor
    upper := interval.upper * factor
    unit := interval.unit * Nat.pow 10 exponent.toNat
    closed := interval.closed }

/-- A whole number of units lies in the interval. -/
def contains (interval : Interval) (coefficient : Nat) : Bool :=
  let point := coefficient * interval.unit
  if interval.closed then decide (interval.lower ≤ point) && decide (point ≤ interval.upper)
  else decide (interval.lower < point) && decide (point < interval.upper)

/-- Of the two whole numbers of units around the value, the one nearer to it that lies in the
interval. -/
def nearest? (interval : Interval) : Option Nat :=
  let below := interval.value / interval.unit
  let above := below + 1
  match interval.contains below, interval.contains above with
  | true, true =>
      some (if 2 * interval.value < (below + above) * interval.unit then below else above)
  | true, false => some below
  | false, true => some above
  | false, false => none

/-- The power of ten that is the first above the value. -/
def decade (interval : Interval) : Int :=
  let places := Nat.log2 interval.unit + 1
  (Nat.toDigits 10 (interval.value * Nat.pow 10 places / interval.unit)).length - (places : Int)

/-- The first grid that has a point in the interval, from the grid of `exponent` on and over at
most `finer` further ones; the last one gives the number of units at or below the value. -/
def onFirstGrid (interval : Interval) : Nat → Int → Decimal
  | 0, exponent =>
      let grid := interval.onGrid exponent
      ⟨grid.value / grid.unit, exponent⟩
  | finer + 1, exponent =>
      match (interval.onGrid exponent).nearest? with
      | some coefficient => ⟨coefficient, exponent⟩
      | none => interval.onFirstGrid finer (exponent - 1)

end Interval

/-- Seventeen digits tell all words of the 64-bit format apart. -/
def significantDigits : Nat := 17

/-- The shortest decimal that rounds to a finite word other than zero. -/
def Format.shortest (format : Format) (word : Nat) : Decimal :=
  let interval := format.interval word
  interval.onFirstGrid significantDigits (interval.decade - 1)

end Binary

end Conform
