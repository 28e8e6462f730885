import Conform.Proofs.Label.Expansion
import Mathlib.Tactic.Ring

/-!
# Reading spelled labels back

The path in front of the names of a spelled label is arbitrary. It may look like any part of the
label, so a reader must not search for names or brackets in it. What the path cannot change is the
end of the spelling, which has one closing sign for each byte behind the name of the empty list, and
the length, which depends on the number of bytes and the length of the path only. The reader counts
the closing signs, finds the length of the path, and then knows where each truth value stands.
-/

namespace Conform

namespace Label

def isClosing : TokenTree → Bool
  | .punctuation symbol _ => symbol == '>'
  | _ => false

def startsTrue : List TokenTree → Bool
  | .identifier name _ :: _ => name == "True"
  | _ => false

/-- Truth values behind a path of the given length, each followed by one sign. -/
def readBits (width : Nat) : Nat → List TokenTree → List Bool
  | 0, _ => []
  | count + 1, tokens =>
      startsTrue (tokens.drop (width + 5)) :: readBits width count (tokens.drop (width + 7))

/-- The bytes of a list of the given length that is spelled with a path of the given length. -/
def readBytes (width : Nat) : Nat → List TokenTree → List UInt8
  | 0, _ => []
  | count + 1, tokens =>
      Octet.byteOfBits (readBits width 8 (tokens.drop (2 * (width + 7)))) ::
        readBytes width count (tokens.drop (10 * (width + 7) + 1))

def byteCount (tokens : List TokenTree) : Nat := (tokens.reverse.takeWhile isClosing).length

/-- The length of the path, from the number of tokens that `length_spell` gives. -/
def pathLength (tokens : List TokenTree) : Nat :=
  (tokens.length - (72 * byteCount tokens + 6)) / (10 * byteCount tokens + 1)

def unspell (tokens : List TokenTree) : List TokenTree × List UInt8 :=
  (tokens.take (pathLength tokens), readBytes (pathLength tokens) (byteCount tokens) tokens)

section Lengths

variable (path : List TokenTree)

@[simp]
theorem length_qualified (module name : String) :
    (qualified path module name).length = path.length + 6 := by
  simp [qualified, pathSeparator]

@[simp]
theorem length_spellBit (bit : Bool) : (spellBit path bit).length = path.length + 6 := by
  simp [spellBit]

/-- What a spelled list has in front of its rest. -/
def spellFront (octet : Octet) : List TokenTree :=
  qualified path "id" "Chars" ++ [sign '<'] ++ spellOctet path octet ++ [sign ',']

theorem spell_cons (octet : Octet) (rest : Spelling) :
    spell path (octet :: rest) = spellFront path octet ++ spell path rest ++ [sign '>'] := by
  simp [spell, spellFront]

@[simp]
theorem length_spellFront (octet : Octet) :
    (spellFront path octet).length = 10 * (path.length + 7) + 1 := by
  simp [spellFront, spellOctet, Octet.bits, List.intercalate]
  ring

theorem length_spell (spelling : Spelling) :
    (spell path spelling).length =
      path.length * (10 * spelling.length + 1) + (72 * spelling.length + 6) := by
  induction spelling with
  | nil => simp [spell]
  | cons octet rest ih =>
      simp only [spell_cons, List.length_append, length_spellFront, ih, List.length_cons,
        List.length_nil]
      ring

end Lengths

theorem startsTrue_spellBit (path : List TokenTree) (bit : Bool) (rest : List TokenTree) :
    startsTrue ((spellBit path bit ++ rest).drop (path.length + 5)) = bit := by
  have atName : spellBit path bit ++ rest =
      (path ++ pathSeparator ++ [.identifier "logic" false] ++ pathSeparator) ++
        .identifier (if bit then "True" else "False") false :: rest := by
    simp [spellBit, qualified]
  rw [atName, List.drop_left' (by simp [pathSeparator])]
  cases bit <;> rfl

theorem readBits_cons (path : List TokenTree) (bit : Bool) (mark : Char) (rest : List TokenTree)
    (count : Nat) :
    readBits path.length (count + 1) (spellBit path bit ++ sign mark :: rest) =
      bit :: readBits path.length count rest := by
  have behind : (spellBit path bit ++ sign mark :: rest).drop (path.length + 7) = rest := by
    rw [List.append_cons]
    exact List.drop_left' (by simp)
  rw [readBits, startsTrue_spellBit, behind]

theorem readBits_spelled (path : List TokenTree) (bits : List Bool) (rest : List TokenTree) :
    readBits path.length bits.length
      ([sign ','].intercalate (bits.map (spellBit path)) ++ sign '>' :: rest) = bits := by
  induction bits with
  | nil => rfl
  | cons bit more ih =>
      -- A comma stands behind each truth value but the last, which the closing sign follows.
      cases more with
      | nil => simp [readBits_cons, readBits]
      | cons next others =>
          rw [List.map_cons, List.map_cons, List.intercalate_cons_cons, ← List.map_cons]
          simp only [List.append_assoc, List.cons_append, List.nil_append, List.length_cons]
          rw [readBits_cons]
          exact congrArg (bit :: ·) ih

/-- The bytes of a spelled list are read whatever follows the list. -/
theorem readBytes_spell (path : List TokenTree) (spelling : Spelling) (after : List TokenTree) :
    readBytes path.length spelling.length (spell path spelling ++ after) =
      spelling.map Octet.toByte := by
  induction spelling generalizing after with
  | nil => rfl
  | cons octet rest ih =>
      let remaining := spell path rest ++ sign '>' :: after
      have atRest : spell path (octet :: rest) ++ after = spellFront path octet ++ remaining := by
        simp [spell_cons, remaining]
      have atBits : spellFront path octet ++ remaining =
          (qualified path "id" "Chars" ++ [sign '<'] ++ qualified path "id" "Byte" ++ [sign '<']) ++
            ([sign ','].intercalate (octet.bits.map (spellBit path)) ++
              sign '>' :: sign ',' :: remaining) := by
        simp [spellFront, spellOctet]
      have bits : readBits path.length 8
          ((spellFront path octet ++ remaining).drop (2 * (path.length + 7))) = octet.bits := by
        rw [atBits, List.drop_left' (by simp; omega)]
        exact readBits_spelled path octet.bits _
      rw [atRest, List.length_cons, readBytes, bits, List.drop_left' (length_spellFront path octet),
        ih]
      rfl

/-- A spelled list ends with one closing sign for each byte, whatever stands in front of it. -/
theorem closing_spell (path : List TokenTree) (spelling : Spelling) (before : List TokenTree) :
    (((spell path spelling).reverse ++ before).takeWhile isClosing).length = spelling.length := by
  induction spelling generalizing before with
  | nil => simp [spell, qualified, isClosing]
  | cons octet rest ih =>
      have atEnd : (spell path (octet :: rest)).reverse ++ before = sign '>' ::
          ((spell path rest).reverse ++ ((spellFront path octet).reverse ++ before)) := by
        simp [spell_cons]
      rw [atEnd, List.takeWhile_cons_of_pos rfl, List.length_cons, ih, List.length_cons]

theorem byteCount_spell (path : List TokenTree) (spelling : Spelling) :
    byteCount (spell path spelling) = spelling.length := by
  have closing := closing_spell path spelling []
  rwa [List.append_nil] at closing

theorem pathLength_spell (path : List TokenTree) (spelling : Spelling) :
    pathLength (spell path spelling) = path.length := by
  rw [pathLength, byteCount_spell, length_spell, Nat.add_sub_cancel]
  exact Nat.mul_div_cancel _ (by omega)

theorem take_spell (path : List TokenTree) (spelling : Spelling) :
    (spell path spelling).take path.length = path := by
  cases spelling with
  | nil => simp [spell, qualified]
  | cons octet rest => simp [spell, qualified]

theorem unspell_spell (path : List TokenTree) (spelling : Spelling) :
    unspell (spell path spelling) = (path, spelling.map Octet.toByte) := by
  rw [unspell, byteCount_spell, pathLength_spell, take_spell]
  have bytes := readBytes_spell path spelling []
  rw [List.append_nil] at bytes
  rw [bytes]

theorem unspell_spell_ofText (path : List TokenTree) (name : String) :
    unspell (spell path (Spelling.ofText name)) = (path, name.toUTF8.data.toList) := by
  rw [unspell_spell, Spelling.map_toByte_ofText]

/-- The answers to requests can be decoded: one function reads the path and the bytes of the
identifier back from every answer, whatever parser has accepted the identifier. So two requests have
the same answer exactly if they agree in the path and in the identifier, up to the mark of raw
ones. -/
theorem answers_decodable {Error : Type} (parser : IdentifierParser Error) :
    (∀ first second : Request parser,
      expand parser first.tokens = expand parser second.tokens ↔
        first.path = second.path ∧ first.identifier.name = second.identifier.name) ∧
      ∀ request : Request parser, ∃ answer, expand parser request.tokens = .ok answer ∧
        unspell answer = (request.path, request.identifier.name.toUTF8.data.toList) := by
  constructor
  · intro first second
    rw [first.expand_tokens, second.expand_tokens, Except.ok.injEq]
    constructor
    · intro sameAnswer
      have decoded := congrArg unspell sameAnswer
      rw [unspell_spell, unspell_spell, Prod.mk.injEq] at decoded
      have sameText : (Spelling.ofText first.identifier.name).text =
          (Spelling.ofText second.identifier.name).text := by
        rw [Spelling.text, Spelling.text, decoded.2]
      rw [Spelling.text_ofText, Spelling.text_ofText] at sameText
      exact ⟨decoded.1, sameText⟩
    · rintro ⟨samePath, sameName⟩
      rw [samePath, sameName]
  · intro request
    exact ⟨_, request.expand_tokens, unspell_spell_ofText request.path request.identifier.name⟩

end Label

end Conform
