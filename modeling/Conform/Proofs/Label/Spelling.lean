import Conform.Label.Spelling
import Mathlib.Logic.Function.Basic
import Mathlib.Tactic.Ring

/-!
# Spellings determine their texts

A spelling writes out the bytes of a text bit by bit. Eight bits determine their byte, the bytes
determine the text, since UTF-8 is injective, and so a spelled text can be read back. No two texts
share a spelling.
-/

namespace Conform

namespace Octet

/-- The bits of a number from a position down, read behind a number that is given. -/
theorem foldl_testBit (number count start : Nat) :
    ((List.range count).reverse.map number.testBit).foldl
        (fun value bit => 2 * value + bit.toNat) start =
      start * 2 ^ count + number % 2 ^ count := by
  induction count generalizing start with
  | zero => simp [Nat.mod_one]
  | succ count ih =>
      -- The most significant bit comes first, so the induction takes it into the start value.
      rw [List.range_succ, List.reverse_append, List.map_append, List.foldl_append]
      simp only [List.reverse_singleton, List.map_cons, List.map_nil, List.foldl_cons,
        List.foldl_nil]
      rw [ih, Nat.toNat_testBit, Nat.mod_pow_succ]
      ring

theorem bits_ofByte (byte : UInt8) :
    (ofByte byte).bits = (List.range 8).reverse.map byte.toNat.testBit := rfl

theorem toByte_ofByte (byte : UInt8) : (ofByte byte).toByte = byte := by
  have small : byte.toNat < 2 ^ 8 := byte.toNat_lt
  rw [toByte, byteOfBits, bits_ofByte, foldl_testBit, Nat.mod_eq_of_lt small, Nat.zero_mul, Nat.zero_add]
  exact UInt8.ofNat_toNat

end Octet

namespace Spelling

theorem map_toByte_ofText (text : String) :
    (ofText text).map Octet.toByte = text.toUTF8.data.toList := by
  rw [ofText, List.map_map]
  apply List.map_id''
  intro byte
  exact Octet.toByte_ofByte byte

/-- A text is read back from its spelling. -/
theorem text_ofText (text : String) : (ofText text).text = text := by
  rw [Spelling.text, map_toByte_ofText, Array.toArray_toList]
  simp only [String.fromUTF8?, String.toUTF8_eq_toByteArray, dif_pos text.isValidUTF8]
  rfl

end Spelling

end Conform
