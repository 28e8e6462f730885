import Conform.Truth

/-!
# Spelled labels

A label is compared by its spelling: the bytes of its UTF-8 text, each written out as eight bits
with the most significant first. Two spellings are the same exactly when they have the same length
and agree bit by bit, so the comparison depends on the text alone.
-/

namespace Conform

/-- One byte of a spelling, from its most significant to its least significant bit. -/
structure Octet where
  bit7 : Bool
  bit6 : Bool
  bit5 : Bool
  bit4 : Bool
  bit3 : Bool
  bit2 : Bool
  bit1 : Bool
  bit0 : Bool
deriving DecidableEq, Repr

namespace Octet

def ofByte (byte : UInt8) : Octet where
  bit7 := byte.toNat.testBit 7
  bit6 := byte.toNat.testBit 6
  bit5 := byte.toNat.testBit 5
  bit4 := byte.toNat.testBit 4
  bit3 := byte.toNat.testBit 3
  bit2 := byte.toNat.testBit 2
  bit1 := byte.toNat.testBit 1
  bit0 := byte.toNat.testBit 0

/-- The bits from the most significant one down. -/
def bits (octet : Octet) : List Bool :=
  [octet.bit7, octet.bit6, octet.bit5, octet.bit4, octet.bit3, octet.bit2, octet.bit1, octet.bit0]

/-- The byte that is written with the given bits. -/
def byteOfBits (bits : List Bool) : UInt8 :=
  UInt8.ofNat (bits.foldl (fun number bit => 2 * number + bit.toNat) 0)

def toByte (octet : Octet) : UInt8 := byteOfBits octet.bits

/-- Two bytes agree in every bit. -/
def same (left right : Octet) : Bool :=
  ((Truth.same left.bit7 right.bit7 && Truth.same left.bit6 right.bit6)
      && (Truth.same left.bit5 right.bit5 && Truth.same left.bit4 right.bit4))
    && ((Truth.same left.bit3 right.bit3 && Truth.same left.bit2 right.bit2)
      && (Truth.same left.bit1 right.bit1 && Truth.same left.bit0 right.bit0))

@[simp]
theorem same_iff (left right : Octet) : left.same right = true ↔ left = right := by
  cases left
  cases right
  simp [same, and_assoc]

end Octet

abbrev Spelling := List Octet

namespace Spelling

def ofText (text : String) : Spelling :=
  text.toUTF8.data.toList.map Octet.ofByte

/-- The text with a given spelling. Bytes that are no UTF-8 have none and give the empty text. -/
def text (spelling : Spelling) : String :=
  (String.fromUTF8? ⟨(spelling.map Octet.toByte).toArray⟩).getD ""

/-- Two spellings end together and agree byte by byte. -/
def same : Spelling → Spelling → Bool
  | [], [] => true
  | left :: restLeft, right :: restRight => left.same right && same restLeft restRight
  | _, _ => false

@[simp]
theorem same_iff (left right : Spelling) : same left right = true ↔ left = right := by
  induction left generalizing right with
  | nil => cases right <;> simp [same]
  | cons octet rest ih => cases right <;> simp [same, ih]

end Spelling

end Conform
