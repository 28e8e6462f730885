import Conform.Proofs.Label.Expansion
import Mathlib.Data.List.TakeWhile

/-!
# The grammar of requests

A request for a spelling is answered exactly if it is well formed, and then it has one reading only:
a path, a semicolon and an identifier. The path ends at the first semicolon outside of groups, so
groups in the path may contain any number of them.

Where no answer is given, the fault lies behind the first semicolon. What stands there is no
identifier that the parser accepts, in one of four ways, and the error is what the parser reports
about these tokens. Neither the path nor its length has a part in this.
-/

namespace Conform

theorem TokenTree.isSemicolon_iff (token : TokenTree) :
    token.isSemicolon = true ↔ ∃ spacing, token = .punctuation ';' spacing := by
  cases token <;> simp [isSemicolon]

namespace Label

/-- The tokens are cut into a path without semicolons and the rest behind the semicolon that
follows it. Without a semicolon all of them are the path. -/
inductive Cut : List TokenTree → List TokenTree → List TokenTree → Prop where
  | uncut {path : List TokenTree} (pathOpen : ∀ token ∈ path, token.isSemicolon = false) :
      Cut path path []
  | semicolon {path : List TokenTree} (pathOpen : ∀ token ∈ path, token.isSemicolon = false)
      (spacing : Spacing) (rest : List TokenTree) :
      Cut (path ++ .punctuation ';' spacing :: rest) path rest

theorem Cut.cons {token : TokenTree} {tokens path rest : List TokenTree}
    (tokenOpen : token.isSemicolon = false) (cut : Cut tokens path rest) :
    Cut (token :: tokens) (token :: path) rest := by
  cases cut with
  | uncut pathOpen => exact .uncut (List.forall_mem_cons.mpr ⟨tokenOpen, pathOpen⟩)
  | semicolon pathOpen spacing =>
      exact .semicolon (List.forall_mem_cons.mpr ⟨tokenOpen, pathOpen⟩) spacing rest

theorem cut_splitRequest (tokens : List TokenTree) :
    Cut tokens (splitRequest tokens).1 (splitRequest tokens).2 := by
  induction tokens with
  | nil => exact .uncut (List.forall_mem_nil _)
  | cons token rest ih =>
      cases isSemicolon : token.isSemicolon with
      | true =>
          rcases token.isSemicolon_iff.mp isSemicolon with ⟨spacing, rfl⟩
          exact .semicolon (List.forall_mem_nil _) spacing rest
      | false =>
          have kept : splitRequest (token :: rest) =
              (token :: (splitRequest rest).1, (splitRequest rest).2) := by
            simp [splitRequest, isSemicolon]
          rw [kept]
          exact ih.cons isSemicolon

theorem Cut.splitRequest_eq {tokens path rest : List TokenTree} (cut : Cut tokens path rest) :
    splitRequest tokens = (path, rest) := by
  cases cut with
  | uncut tokensOpen =>
      have closed : ∀ token ∈ tokens, (!token.isSemicolon) = true := by simpa using tokensOpen
      rw [splitRequest, List.takeWhile_eq_self_iff.mpr closed, List.dropWhile_eq_nil_iff.mpr closed]
      rfl
  | semicolon pathOpen spacing => exact splitRequest_append pathOpen spacing rest

end Label

namespace IdentifierParser

variable {Error : Type} (parser : IdentifierParser Error)

/-- The ways in which tokens are no identifier that the parser accepts. -/
inductive Refuses : List TokenTree → Prop where
  | missing : Refuses []
  | keyword {name : String} (isKeyword : parser.Keyword name) (more : List TokenTree) :
      Refuses (.identifier name false :: more)
  | notIdentifier {token : TokenTree} (isOther : ∀ name raw, token ≠ .identifier name raw)
      (more : List TokenTree) : Refuses (token :: more)
  | surplus {name : String} {raw : Bool} {more : List TokenTree}
      (accepted : raw = true ∨ ¬parser.Keyword name) (isMore : more ≠ []) :
      Refuses (.identifier name raw :: more)

variable {parser}

theorem Refuses.not_accepted {tokens : List TokenTree} (refuses : parser.Refuses tokens)
    {identifier : Identifier} (accepted : identifier.raw = true ∨ ¬parser.Keyword identifier.name) :
    tokens ≠ [identifier.token] := by
  intro isIdentifier
  cases refuses with
  | missing => cases isIdentifier
  | keyword isKeyword more =>
      rcases identifier with ⟨name, raw⟩
      cases isIdentifier
      rcases accepted with isRaw | notKeyword
      · cases isRaw
      · exact notKeyword isKeyword
  | notIdentifier isOther more => exact isOther _ _ (List.cons.inj isIdentifier).1
  | surplus _ isMore => exact isMore (List.cons.inj isIdentifier).2

/-- Tokens are refused if they are no identifier that is accepted, and there is no fifth way for
this to be so. -/
theorem refuses_of_not_accepted {tokens : List TokenTree}
    (unaccepted : ∀ identifier : Identifier, tokens = [identifier.token] →
      ¬(identifier.raw = true ∨ ¬parser.Keyword identifier.name)) : parser.Refuses tokens := by
  cases tokens with
  | nil => exact .missing
  | cons token more =>
      cases token with
      | identifier name raw =>
          by_cases accepted : raw = true ∨ ¬parser.Keyword name
          · apply Refuses.surplus accepted
            rintro rfl
            exact unaccepted ⟨name, raw⟩ rfl accepted
          · rw [not_or, not_not, Bool.not_eq_true] at accepted
            rcases accepted with ⟨rfl, isKeyword⟩
            exact .keyword isKeyword more
      | punctuation symbol spacing => exact .notIdentifier (by simp) more
      | literal text => exact .notIdentifier (by simp) more
      | group delimiter body => exact .notIdentifier (by simp) more

theorem exists_error_iff (tokens : List TokenTree) :
    (∃ error, parser.parse tokens = .error error) ↔ parser.Refuses tokens := by
  constructor
  · rintro ⟨error, failed⟩
    apply refuses_of_not_accepted
    intro identifier isIdentifier accepted
    rw [(parser.parse_eq_ok_iff tokens identifier).mpr ⟨isIdentifier, accepted⟩] at failed
    cases failed
  · intro refuses
    cases parsed : parser.parse tokens with
    | error error => exact ⟨error, rfl⟩
    | ok identifier =>
        rcases (parser.parse_eq_ok_iff tokens identifier).mp parsed with ⟨isIdentifier, accepted⟩
        exact absurd isIdentifier (refuses.not_accepted accepted)

end IdentifierParser

namespace Label

variable {Error : Type} {parser : IdentifierParser Error}

/-- The path goes into an answer, but the tokens behind it decide whether there is one. -/
theorem Cut.expand_eq {tokens path rest : List TokenTree} (cut : Cut tokens path rest) :
    expand parser tokens =
      (parser.parse rest).map (fun label => spell path (Spelling.ofText label.name)) := by
  rw [expand, cut.splitRequest_eq]

/-- An error is what the parser reports about the tokens behind the path. -/
theorem Cut.expand_eq_error_iff {tokens path rest : List TokenTree} (cut : Cut tokens path rest)
    (error : Error) : expand parser tokens = .error error ↔ parser.parse rest = .error error := by
  rw [cut.expand_eq]
  cases parser.parse rest <;> simp [Except.map]

namespace Request

theorem tokens_injective : Function.Injective (tokens : Request parser → List TokenTree) := by
  rintro ⟨path, spacing, ⟨name, raw⟩, _, _⟩ ⟨otherPath, otherSpacing, ⟨otherName, otherRaw⟩, _, _⟩
    sameTokens
  rcases List.append_inj' sameTokens rfl with ⟨samePath, sameEnd⟩
  simp only [Identifier.token, List.cons.injEq, TokenTree.punctuation.injEq,
    TokenTree.identifier.injEq] at samePath sameEnd
  rcases sameEnd with ⟨⟨_, rfl⟩, ⟨rfl, rfl⟩, _⟩
  subst samePath
  rfl

theorem exists_of_expand {tokens answer : List TokenTree}
    (answered : expand parser tokens = .ok answer) :
    ∃ request : Request parser, request.tokens = tokens := by
  have cut := cut_splitRequest tokens
  generalize (splitRequest tokens).1 = path at cut
  generalize (splitRequest tokens).2 = rest at cut
  rw [cut.expand_eq] at answered
  cases parsed : parser.parse rest with
  | error error =>
      rw [parsed] at answered
      cases answered
  | ok identifier =>
      rcases (parser.parse_eq_ok_iff rest identifier).mp parsed with ⟨rfl, accepted⟩
      -- Without a semicolon there would be no identifier behind it.
      cases cut with
      | semicolon pathOpen spacing =>
          exact ⟨⟨path, spacing, identifier, pathOpen, accepted⟩, rfl⟩

/-- The request that is answered is the only one with its tokens. -/
theorem exists_answer_iff (tokens : List TokenTree) :
    (∃ answer, expand parser tokens = .ok answer) ↔
      ∃! request : Request parser, request.tokens = tokens := by
  constructor
  · rintro ⟨answer, answered⟩
    rcases exists_of_expand answered with ⟨request, sameTokens⟩
    refine ⟨request, sameTokens, ?_⟩
    intro other otherTokens
    exact tokens_injective (otherTokens.trans sameTokens.symm)
  · rintro ⟨request, rfl, _⟩
    exact ⟨_, request.expand_tokens⟩

end Request

/-- Requests are answered by their grammar, whatever parser is asked for the identifier. There is an
answer exactly if the tokens are a path, a semicolon and one identifier that is raw or no keyword,
they are so in one way only, and the answer is the spelling of the identifier. All tokens are cut in
one way into a path and a rest behind the first semicolon. There is an error exactly if the rest is
missing, starts with a keyword or with no identifier, or goes on behind an identifier, and the error
is what the parser reports about the rest, whatever the path is. -/
theorem expand_accepts_grammar (parser : IdentifierParser Error) :
    (∀ tokens, (∃ answer, expand parser tokens = .ok answer) ↔
      ∃! request : Request parser, request.tokens = tokens) ∧
      (∀ request : Request parser, expand parser request.tokens =
        .ok (spell request.path (Spelling.ofText request.identifier.name))) ∧
      (∀ tokens, ∃! cut : List TokenTree × List TokenTree, Cut tokens cut.1 cut.2) ∧
      (∀ tokens path rest, Cut tokens path rest →
        ((∃ error, expand parser tokens = .error error) ↔ parser.Refuses rest) ∧
        ∀ error, expand parser tokens = .error error ↔ parser.parse rest = .error error) ∧
      ∀ first firstPath second secondPath rest, Cut first firstPath rest →
        Cut second secondPath rest → ∀ error,
          expand parser first = .error error ↔ expand parser second = .error error := by
  refine ⟨Request.exists_answer_iff, Request.expand_tokens, ?_, ?_, ?_⟩
  · intro tokens
    refine ⟨splitRequest tokens, cut_splitRequest tokens, ?_⟩
    intro other cut
    exact cut.splitRequest_eq.symm
  · intro tokens path rest cut
    refine ⟨?_, cut.expand_eq_error_iff⟩
    rw [← IdentifierParser.exists_error_iff]
    exact exists_congr cut.expand_eq_error_iff
  · intro first firstPath second secondPath rest firstCut secondCut error
    rw [firstCut.expand_eq_error_iff, secondCut.expand_eq_error_iff]

/-- A path in which groups have semicolons of their own. -/
def blockPath : List TokenTree :=
  [.group .brace [sign ';', .identifier "k" false, sign ';'], .punctuation ':' .joint,
    .group .invisible [sign ';']]

/-- A keyword behind this path and the same keyword behind none. -/
theorem keyword_refused_behind_blockPath :
    Cut (blockPath ++ sign ';' :: [.identifier "fn" false, sign ';']) blockPath
        [.identifier "fn" false, sign ';'] ∧
      Cut [sign ';', .identifier "fn" false, sign ';'] [] [.identifier "fn" false, sign ';'] ∧
      expand Label.parser (blockPath ++ sign ';' :: [.identifier "fn" false, sign ';']) =
        .error (.keyword "fn") ∧
      expand Label.parser [sign ';', .identifier "fn" false, sign ';'] =
        .error (.keyword "fn") := by
  rcases expand_accepts_grammar Label.parser with ⟨_, _, _, errors, samePath⟩
  have blockCut : Cut (blockPath ++ sign ';' :: [.identifier "fn" false, sign ';']) blockPath
      [.identifier "fn" false, sign ';'] := .semicolon (by decide) .alone _
  have bareCut : Cut [sign ';', .identifier "fn" false, sign ';'] []
      [.identifier "fn" false, sign ';'] := .semicolon (List.forall_mem_nil _) .alone _
  have refused : expand Label.parser [sign ';', .identifier "fn" false, sign ';'] =
      .error (.keyword "fn") := ((errors _ _ _ bareCut).2 _).mpr rfl
  exact ⟨blockCut, bareCut, (samePath _ _ _ _ _ blockCut bareCut _).mpr refused, refused⟩

end Label

end Conform
