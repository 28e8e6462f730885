import Conform.Label.Identifier
import Conform.Label.Spelling

/-!
# Spelling labels in source text

A label is spelled as source text that names its id as a type. The request is a path, a semicolon
and the label; the answer is the list of the bytes of the label, written from the end backwards,
with eight truth values for each byte and the path in front of every name. A raw identifier is
spelled without its mark.

The request is cut at its first semicolon outside of groups. What stands in front of it is taken
as the path without looking at it, so only the tokens behind it decide whether the request is well
formed. They are left to a parser of identifiers.
-/

namespace Conform

namespace Label

/-- The path and the tokens behind the first semicolon. -/
def splitRequest (tokens : List TokenTree) : List TokenTree × List TokenTree :=
  (tokens.takeWhile (!·.isSemicolon), (tokens.dropWhile (!·.isSemicolon)).drop 1)

/-- The two colons between the parts of a path. -/
def pathSeparator : List TokenTree := [.punctuation ':' .joint, .punctuation ':' .alone]

def qualified (path : List TokenTree) (module name : String) : List TokenTree :=
  path ++ pathSeparator ++ [.identifier module false] ++ pathSeparator ++ [.identifier name false]

/-- A punctuation character that stands alone. -/
def sign (symbol : Char) : TokenTree := .punctuation symbol .alone

def spellBit (path : List TokenTree) (bit : Bool) : List TokenTree :=
  qualified path "logic" (if bit then "True" else "False")

def spellOctet (path : List TokenTree) (octet : Octet) : List TokenTree :=
  qualified path "id" "Byte" ++ [sign '<']
    ++ [sign ','].intercalate (octet.bits.map (spellBit path)) ++ [sign '>']

/-- The list of the bytes of a spelling. -/
def spell (path : List TokenTree) : Spelling → List TokenTree
  | [] => qualified path "id" "End"
  | octet :: rest =>
      qualified path "id" "Chars" ++ [sign '<'] ++ spellOctet path octet ++ [sign ',']
        ++ spell path rest ++ [sign '>']

/-- Answers a request for a spelling, or reports what the parser finds wrong with the label. -/
def expand {Error : Type} (parser : IdentifierParser Error) (tokens : List TokenTree) :
    Except Error (List TokenTree) :=
  let (path, rest) := splitRequest tokens
  (parser.parse rest).map (fun label => spell path (Spelling.ofText label.name))

end Label

end Conform
