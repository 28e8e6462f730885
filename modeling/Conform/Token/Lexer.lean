import Conform.Text.Blank
import Conform.Token.Comment
import Conform.Token.Literal

/-!
# From text to token trees

Text is first cut into lexemes, which are brackets and single tokens, and the lexemes are then
nested by their brackets. Either stage fails on text that is not made of tokens. At every place a
literal is tried before punctuation, and punctuation before an identifier.
-/

namespace Conform

inductive Lexeme where
  | opening (delimiter : Delimiter)
  | closing (delimiter : Delimiter)
  | token (tree : TokenTree)

namespace Lexeme

def bracket? : Char → Option Lexeme
  | '(' => some (opening .parenthesis)
  | ')' => some (closing .parenthesis)
  | '[' => some (opening .bracket)
  | ']' => some (closing .bracket)
  | '\x7b' => some (opening .brace)
  | '\x7d' => some (closing .brace)
  | _ => none

def punctuationMarks : List Char := "~!@#$%^&*-=+|;:,<.>/?'".toList

/-- The punctuation character at the front of the input. The slash in front of a comment is none.
-/
def mark? : List Char → Option Char
  | '/' :: '/' :: _ => none
  | '/' :: '*' :: _ => none
  | character :: _ => if punctuationMarks.contains character then some character else none
  | [] => none

/-- The names that may not be written as raw identifiers. -/
def neverRaw : List String := ["_", "super", "self", "Self", "crate"]

/-- An identifier, raw or not, and the rest of the input. -/
def anyIdentifier? (input : List Char) : Option (TokenTree × List Char) :=
  match Reader.exactly "r#" input with
  | some marked => do
      let (name, rest) ← Reader.name? marked
      let name := String.ofList name
      if neverRaw.contains name then none else some (.identifier name true, rest)
  | none => do
      let (name, rest) ← Reader.name? input
      some (.identifier (String.ofList name) false, rest)

/-- Beginnings that announce a literal, so that no identifier starts there. -/
def literalMarks : List String :=
  ["r\"", "r#\"", "r##", "b\"", "b'", "br\"", "br#", "c\"", "cr\"", "cr#"]

/-- An identifier where no literal is announced. -/
def identifier? (input : List Char) : Option (TokenTree × List Char) :=
  if literalMarks.any (Comment.startsWith input) then none else anyIdentifier? input

/-- A quotation mark in front of a lifetime: an identifier follows it, and no second mark. -/
def startsLifetime (input : List Char) : Bool :=
  match anyIdentifier? input with
  | none => false
  | some (_, '\'' :: _) => false
  | some (_, '#' :: _) => Comment.startsWith input "r#"
  | some _ => true

def punctuation? (input : List Char) : Option (TokenTree × List Char) :=
  match mark? input with
  | none => none
  | some mark =>
      let rest := input.drop 1
      if mark == '\'' then
        if startsLifetime rest then some (.punctuation mark .joint, rest) else none
      else
        some (.punctuation mark (if (mark? rest).isSome then .joint else .alone), rest)

def literal? (input : List Char) : Option (TokenTree × List Char) :=
  (Literal.read input).map fun rest => (.literal (Reader.recognised input rest), rest)

/-- The text that stands for an expression that is in error. It is one literal. -/
def errorMark : String := "(/*ERROR*/)"

/-- The lexemes at the front of the input, none for blanks and dropped comments, and the rest. -/
def next? (input : List Char) : Option (List Lexeme × List Char) :=
  match input with
  | [] => none
  | character :: rest =>
      if CharClass.isBlank character then some ([], rest)
      else
        match Comment.dropped? input with
        | some after => some ([], after)
        | none =>
            match Comment.documentation? input with
            | some (text, inner, after) =>
                if Comment.hasWholeLineEnds text then
                  some ((Comment.asAttribute text inner).map token, after)
                else none
            | none =>
                match Reader.exactly errorMark input, bracket? character with
                | some after, _ => some ([token (.literal errorMark)], after)
                | none, some bracket => some ([bracket], rest)
                | none, none =>
                    [literal?, punctuation?, identifier?].findSome? (fun read => read input)
                      |>.map (fun (tree, after) => ([token tree], after))

def scan? (input : List Char) : Option (List Lexeme) :=
  if input.isEmpty then some []
  else
    match next? input with
    | none => none
    | some (lexemes, rest) =>
        if _shorter : rest.length < input.length then (scan? rest).map (lexemes ++ ·) else none
termination_by input.length

/-- Nests lexemes by their brackets. The open brackets are kept with the trees in front of them,
and all trees are collected in reverse. -/
def nest? : List Lexeme → List (Delimiter × List TokenTree) → List TokenTree →
    Option (List TokenTree)
  | [], [], trees => some trees.reverse
  | [], _ :: _, _ => none
  | token tree :: rest, outer, trees => nest? rest outer (tree :: trees)
  | opening delimiter :: rest, outer, trees => nest? rest ((delimiter, trees) :: outer) []
  | closing _ :: _, [], _ => none
  | closing delimiter :: rest, (opened, before) :: outer, trees =>
      if opened = delimiter then nest? rest outer (.group delimiter trees.reverse :: before)
      else none

end Lexeme

/-- The mark that may stand at the front of a text to give its byte order. -/
def Lexeme.byteOrderMark : Char := '\ufeff'

/-- The token trees of a text. -/
def TokenTree.ofText? (text : String) : Option (List TokenTree) :=
  let characters :=
    match text.toList with
    | first :: rest => if first == Lexeme.byteOrderMark then rest else first :: rest
    | [] => []
  (Lexeme.scan? characters).bind (fun lexemes => Lexeme.nest? lexemes [] [])

end Conform
