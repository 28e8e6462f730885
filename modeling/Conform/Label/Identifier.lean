import Conform.Token.Basic

/-!
# Parsers of identifiers

The label of a request is found by a parser that comes from elsewhere. All that is known about it is
what it accepts: one identifier that is raw or no keyword, and nothing else. Which names are
keywords, and what the parser reports about tokens that it does not accept, is its own affair.
-/

namespace Conform

/-- An identifier by its name, which does not have the mark of a raw one. -/
structure Identifier where
  name : String
  raw : Bool
deriving DecidableEq, Repr

def Identifier.token (identifier : Identifier) : TokenTree :=
  .identifier identifier.name identifier.raw

/-- A parser for token sequences that are one identifier. -/
structure IdentifierParser (Error : Type) where
  /-- The name is left to raw identifiers. -/
  Keyword : String → Prop
  parse : List TokenTree → Except Error Identifier
  parse_eq_ok_iff : ∀ tokens identifier, parse tokens = .ok identifier ↔
    tokens = [identifier.token] ∧ (identifier.raw = true ∨ ¬Keyword identifier.name)

end Conform
