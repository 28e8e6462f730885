import Conform.Text.Quoted
import Conform.Token.Basic
import Conform.Token.Reader

/-!
# Comments

Comments run to the end of their line or between marks that nest. Most are dropped. Those that
document the item behind them or around them are kept as attributes: a number sign, an exclamation
mark in the second case, and in brackets the text of the comment as a string.
-/

namespace Conform

namespace Comment

/-- A line without its end, and the input from the line feed on. -/
def line : List Char → List Char × List Char
  | [] => ([], [])
  | '\n' :: rest => ([], '\n' :: rest)
  | '\r' :: '\n' :: rest => ([], '\n' :: rest)
  | character :: rest =>
      let (text, after) := line rest
      (character :: text, after)

/-- Nested comments up to the mark that closes the outermost one. -/
def block : (depth : Nat) → Reader
  | _, [] => none
  | depth, '/' :: '*' :: rest => block (depth + 1) rest
  | depth, '*' :: '/' :: rest => if depth ≤ 1 then some rest else block (depth - 1) rest
  | depth, _ :: rest => block depth rest

def startsWith (input : List Char) (text : String) : Bool := text.toList.isPrefixOf input

/-- The rest of the input behind a comment that is dropped. -/
def dropped? (input : List Char) : Option (List Char) :=
  let starts := startsWith input
  if starts "//" && (!starts "///" || starts "////") && !starts "//!" then some (line input).2
  else if starts "/**/" then some (input.drop 4)
  else if starts "/*" && (!starts "/**" || starts "/***") && !starts "/*!" then block 0 input
  else none

/-- The text of a comment that documents an item, whether it stands inside the item, and the rest
of the input. -/
def documentation? (input : List Char) : Option (List Char × Bool × List Char) :=
  let starts := startsWith input
  let lined (inner : Bool) :=
    let (text, rest) := line (input.drop 3)
    some (text, inner, rest)
  let blocked (inner : Bool) :=
    (block 0 input).map fun rest =>
      (((input.take (input.length - rest.length)).drop 3).dropLast.dropLast, inner, rest)
  if starts "//!" then lined true
  else if starts "/*!" then blocked true
  else if starts "////" then none
  else if starts "///" then lined false
  else if starts "/***" then none
  else if starts "/**" then blocked false
  else none

/-- Every carriage return is followed by a line feed. -/
def hasWholeLineEnds : List Char → Bool
  | [] => true
  | '\r' :: '\n' :: rest => hasWholeLineEnds rest
  | '\r' :: _ => false
  | _ :: rest => hasWholeLineEnds rest

/-- The characters of a string literal. A null character is written with two digits in front of an
octal digit, which would otherwise seem to belong to it. -/
def escape : List Char → List Char
  | [] => []
  | '\x00' :: rest =>
      (if rest.head?.any (fun next => decide ('0' ≤ next ∧ next ≤ '7')) then ['\\', 'x', '0', '0']
        else ['\\', '0']) ++ escape rest
  | character :: rest => Quoted.escape '"' character ++ escape rest

/-- The attribute that keeps the text of a comment. -/
def asAttribute (text : List Char) (inner : Bool) : List TokenTree :=
  [.punctuation '#' .alone] ++ (if inner then [.punctuation '!' .alone] else []) ++
    [.group .bracket [
      .identifier "doc" false,
      .punctuation '=' .alone,
      .literal (String.ofList (['"'] ++ escape text ++ ['"']))]]

end Comment

end Conform
