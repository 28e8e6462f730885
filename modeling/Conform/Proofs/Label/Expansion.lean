import Conform.Kind
import Conform.Label.Basic
import Conform.Label.Expansion
import Conform.Label.Keyword
import Conform.Proofs.Label.Spelling

/-!
# Requests for spellings

A well-formed request is a path without semicolons, a semicolon, and an identifier that is raw or no
keyword to the parser. It is answered by the spelling of the identifier, so that a label is spelled
by its id whatever the path and the parser are. Ids are compared bit by bit, and since a spelling
determines its text the comparison finds out exactly whether two labels are written with the same
identifier.
-/

namespace Conform

namespace Label

variable {Error : Type} {parser : IdentifierParser Error}

theorem splitRequest_append {path : List TokenTree}
    (pathOpen : ∀ token ∈ path, token.isSemicolon = false) (spacing : Spacing)
    (rest : List TokenTree) :
    splitRequest (path ++ .punctuation ';' spacing :: rest) = (path, rest) := by
  have closed : ∀ token ∈ path, (!token.isSemicolon) = true := by
    intro token tokenMem
    rw [pathOpen token tokenMem]
    rfl
  rw [splitRequest, List.takeWhile_append_of_pos closed, List.dropWhile_append_of_pos closed]
  simp [TokenTree.isSemicolon]

/-- Behind an open path only the tokens after the semicolon decide whether there is an answer. -/
theorem expand_append {path : List TokenTree}
    (pathOpen : ∀ token ∈ path, token.isSemicolon = false) (spacing : Spacing)
    (rest : List TokenTree) :
    expand parser (path ++ .punctuation ';' spacing :: rest) =
      (parser.parse rest).map (fun label => spell path (Spelling.ofText label.name)) := by
  rw [expand, splitRequest_append pathOpen]

/-- A request for the spelling of an identifier that the parser accepts. -/
structure Request (parser : IdentifierParser Error) where
  path : List TokenTree
  spacing : Spacing
  identifier : Identifier
  /-- The semicolon behind the path is the first one outside of groups. -/
  pathOpen : ∀ token ∈ path, token.isSemicolon = false
  accepted : identifier.raw = true ∨ ¬parser.Keyword identifier.name

namespace Request

def tokens (request : Request parser) : List TokenTree :=
  request.path ++ [.punctuation ';' request.spacing, request.identifier.token]

theorem expand_tokens (request : Request parser) :
    expand parser request.tokens =
      .ok (spell request.path (Spelling.ofText request.identifier.name)) := by
  have parsed := (parser.parse_eq_ok_iff _ _).mpr ⟨rfl, request.accepted⟩
  rw [tokens, expand_append request.pathOpen, parsed]
  rfl

end Request

def isRaw (label : Label) : Bool :=
  match label.written.toList with
  | 'r' :: '#' :: _ => true
  | _ => false

def identifier (label : Label) : Identifier := ⟨label.plain, label.isRaw⟩

end Label

end Conform
