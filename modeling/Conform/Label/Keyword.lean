import Conform.Label.Identifier

/-!
# Keywords

The identifiers of the language are those of its editions together: a name that is a keyword in one
of them is an identifier only if it is raw. The parser of this module looks at the tokens from left
to right and reports the first fault, so that a keyword is found before the tokens behind it.
-/

namespace Conform

namespace Label

/-- Why tokens are no identifier. -/
inductive RequestError where
  | missing
  | keyword (name : String)
  | notIdentifier
  /-- More follows behind the identifier. -/
  | surplus
deriving DecidableEq, Repr

def RequestError.message : RequestError → String
  | missing => "unexpected end of input, expected identifier"
  | keyword name => "expected identifier, found keyword `" ++ name ++ "`"
  | notIdentifier => "expected identifier"
  | surplus => "unexpected token"

/-- The names that are keywords in some edition of the language. -/
def keywords : List String := [
  "_", "abstract", "as", "async", "await", "become", "box", "break", "const", "continue",
  "crate", "do", "dyn", "else", "enum", "extern", "false", "final", "fn", "for", "if", "impl",
  "in", "let", "loop", "macro", "match", "mod", "move", "mut", "override", "priv", "pub", "ref",
  "return", "Self", "self", "static", "struct", "super", "trait", "true", "try", "type",
  "typeof", "unsafe", "unsized", "use", "virtual", "where", "while", "yield"]

def parseIdentifier : List TokenTree → Except RequestError Identifier
  | [] => .error .missing
  | .identifier name raw :: rest =>
      if !raw && keywords.contains name then .error (.keyword name)
      else if rest.isEmpty then .ok ⟨name, raw⟩
      else .error .surplus
  | _ :: _ => .error .notIdentifier

theorem parseIdentifier_of_accepted {name : String} {raw : Bool}
    (accepted : raw = true ∨ name ∉ keywords) (rest : List TokenTree) :
    parseIdentifier (.identifier name raw :: rest) =
      if rest.isEmpty then .ok ⟨name, raw⟩ else .error .surplus := by
  rcases accepted with rfl | notKeyword
  · simp [parseIdentifier]
  · simp [parseIdentifier, notKeyword]

theorem parseIdentifier_of_keyword {name : String} (isKeyword : name ∈ keywords)
    (rest : List TokenTree) :
    parseIdentifier (.identifier name false :: rest) = .error (.keyword name) := by
  simp [parseIdentifier, isKeyword]

theorem parseIdentifier_eq_ok_iff (tokens : List TokenTree) (identifier : Identifier) :
    parseIdentifier tokens = .ok identifier ↔
      tokens = [identifier.token] ∧ (identifier.raw = true ∨ identifier.name ∉ keywords) := by
  constructor
  · intro parsed
    cases tokens with
    | nil => cases parsed
    | cons token rest =>
        cases token with
        | identifier name raw =>
            by_cases accepted : raw = true ∨ name ∉ keywords
            · rw [parseIdentifier_of_accepted accepted] at parsed
              cases rest with
              | nil =>
                  cases parsed
                  exact ⟨rfl, accepted⟩
              | cons next others => cases parsed
            · rw [not_or, Classical.not_not, Bool.not_eq_true] at accepted
              rcases accepted with ⟨rfl, isKeyword⟩
              rw [parseIdentifier_of_keyword isKeyword] at parsed
              cases parsed
        | _ => cases parsed
  · rintro ⟨rfl, accepted⟩
    exact parseIdentifier_of_accepted accepted []

/-- The parser of the language. -/
def parser : IdentifierParser RequestError where
  Keyword name := name ∈ keywords
  parse := parseIdentifier
  parse_eq_ok_iff := parseIdentifier_eq_ok_iff

end Label

end Conform
