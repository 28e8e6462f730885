import Conform.Text.CharClass

/-!
# Blank characters

The characters that separate tokens: those with the Unicode property White_Space and the two marks
that set the direction of the text around them.
-/

namespace Conform

namespace CharClass

/-- The characters with the property White_Space. -/
def whiteSpace : CharClass := ⟨[
  (0x9, 0xD), (0x20, 0x20), (0x85, 0x85), (0xA0, 0xA0), (0x1680, 0x1680), (0x2000, 0x200A),
  (0x2028, 0x2029), (0x202F, 0x202F), (0x205F, 0x205F), (0x3000, 0x3000)]⟩

/-- The left-to-right mark and the right-to-left mark. -/
def directionMark : CharClass := ⟨[(0x200E, 0x200F)]⟩

/-- The character separates tokens. -/
def isBlank (character : Char) : Bool :=
  whiteSpace.contains character || directionMark.contains character

end CharClass

end Conform
