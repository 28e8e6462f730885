import Conform.Text.Unshown

/-!
# Quoted text

Text between quotes. A backslash stands before the quote itself, before a backslash, and before
the letters of the null character, the tab and the two line ends. Every other character without a
glyph of its own is written as its code point in hexadecimal.
-/

namespace Conform

namespace Quoted

def codePoint (character : Char) : List Char :=
  ['\\', 'u', '\x7b'] ++ Nat.toDigits 16 character.toNat ++ ['\x7d']

/-- A character inside a given kind of quotes. -/
def escape (quote character : Char) : List Char :=
  if character == '\x00' then ['\\', '0']
  else if character == '\t' then ['\\', 't']
  else if character == '\r' then ['\\', 'r']
  else if character == '\n' then ['\\', 'n']
  else if character == '\\' || character == quote then ['\\', character]
  else if CharClass.unshown.contains character then codePoint character
  else [character]

/-- Characters between a given kind of quotes. -/
def render (quote : Char) (characters : List Char) : String :=
  String.ofList (quote :: characters.flatMap (escape quote) ++ [quote])

end Quoted

end Conform
