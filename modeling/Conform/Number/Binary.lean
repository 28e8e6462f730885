/-!
# Binary floating-point words

A floating-point number is held as the word of its binary interchange format: a sign bit, the
biased exponent and the fraction. This module takes such a word apart. `Format.equal` is numeric
equality: a NaN equals nothing, itself included, and the two zeros are equal.
-/

namespace Conform

namespace Binary

/-- The widths of the fields of a binary interchange format. -/
structure Format where
  exponentWidth : Nat
  /-- The number of stored fraction bits. -/
  fractionWidth : Nat
deriving DecidableEq, Repr

namespace Format

def single : Format := ⟨8, 23⟩

def double : Format := ⟨11, 52⟩

variable (format : Format)

def fraction (word : Nat) : Nat := word % Nat.pow 2 format.fractionWidth

def exponent (word : Nat) : Nat :=
  word / Nat.pow 2 format.fractionWidth % Nat.pow 2 format.exponentWidth

def negative (word : Nat) : Bool :=
  word.testBit (format.fractionWidth + format.exponentWidth)

/-- The biased exponent reserved for infinities and NaNs. -/
def reserved : Nat := Nat.pow 2 format.exponentWidth - 1

/-- What the biased exponent exceeds the exponent by. -/
def bias : Nat := Nat.pow 2 (format.exponentWidth - 1) - 1

def isNaN (word : Nat) : Bool :=
  format.exponent word == format.reserved && format.fraction word != 0

def isInfinite (word : Nat) : Bool :=
  format.exponent word == format.reserved && format.fraction word == 0

def isZero (word : Nat) : Bool :=
  format.exponent word == 0 && format.fraction word == 0

def equal (left right : Nat) : Bool :=
  !format.isNaN left && !format.isNaN right
    && (left == right || (format.isZero left && format.isZero right))

/-- The significand of a finite word: the fraction, with the leading one that normal words leave
out. -/
def significand (word : Nat) : Nat :=
  if format.exponent word = 0 then format.fraction word
  else Nat.pow 2 format.fractionWidth + format.fraction word

/-- The power of two that one unit of the significand of a finite word stands for. -/
def scale (word : Nat) : Int :=
  (max (format.exponent word) 1 : Nat) - (format.bias + format.fractionWidth : Nat)

/-- The word has a shorter gap below it than above it: it is a power of two, and not the least
normal one, whose gaps are both those of the subnormal words. -/
def isStep (word : Nat) : Bool :=
  format.fraction word == 0 && decide (1 < format.exponent word)

end Format

end Binary

end Conform
