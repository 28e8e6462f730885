import Conform.Text.Identifier

/-!
# Readers

A reader recognises text at the front of its input and gives the rest of the input, or nothing if
the text is not there. The readers of this module are those that all tokens share.
-/

namespace Conform

/-- The rest of the input behind the text that is recognised. -/
abbrev Reader := List Char → Option (List Char)

namespace Reader

def exactly (expected : String) : Reader := fun input =>
  if expected.toList.isPrefixOf input then some (input.drop expected.length) else none

/-- Recognises what the first successful reader does. -/
def firstOf (readers : List Reader) : Reader := fun input =>
  readers.findSome? (fun reader => reader input)

def andThen (first second : Reader) : Reader := fun input => (first input).bind second

/-- The text that was recognised, if `rest` is what is left of the input. -/
def recognised (input rest : List Char) : String :=
  String.ofList (input.take (input.length - rest.length))

end Reader

/-- An identifier without a mark at the front of the input, and the rest. -/
def Reader.name? : List Char → Option (List Char × List Char)
  | first :: rest =>
      if CharClass.startsIdentifier first then
        some (first :: rest.takeWhile CharClass.continuesIdentifier,
          rest.dropWhile CharClass.continuesIdentifier)
      else none
  | [] => none

namespace Reader

/-- Drops an identifier that directly follows a literal. -/
def dropSuffix (input : List Char) : List Char :=
  match name? input with
  | some (_, rest) => rest
  | none => input

/-- Recognises nothing, and only where no identifier goes on. -/
def wordEnd : Reader
  | character :: rest =>
      if CharClass.continuesIdentifier character then none else some (character :: rest)
  | [] => some []

end Reader

end Conform
