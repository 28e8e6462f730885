import Conform.Number.Digits
import Conform.Token.Reader

/-!
# Literals

Readers for strings, byte strings and null-terminated strings in their escaped and raw forms, for
characters and bytes, and for numbers. An identifier that directly follows a literal belongs to
it.

Escaped text is read by an automaton over its characters, whose modes say what has to come next.
The three kinds of string differ only in what they admit: `TextForm` lists the differences.
-/

namespace Conform

namespace Literal

/-- What a kind of text admits between its quotes. -/
structure TextForm where
  /-- Characters outside ASCII may stand for themselves. -/
  wide : Bool
  /-- Hexadecimal escapes reach beyond ASCII. -/
  anyByte : Bool
  /-- Characters may be given by their code points. -/
  codePoints : Bool
  null : Bool
deriving DecidableEq, Repr

/-- Strings and characters. -/
def TextForm.text : TextForm := ⟨true, false, true, true⟩

/-- Byte strings and bytes. -/
def TextForm.bytes : TextForm := ⟨false, true, false, true⟩

/-- Strings that end with a null character. -/
def TextForm.terminated : TextForm := ⟨true, true, true, false⟩

/-- The character may stand for itself. -/
def TextForm.admits (form : TextForm) (character : Char) : Bool :=
  (form.wide || decide (character.toNat < 128)) && (form.null || character != '\x00')

/-- What has to come next in escaped text. -/
inductive Mode where
  /-- Anything that the text admits. -/
  | plain
  /-- The line feed behind a carriage return. -/
  | lineFeed
  | escape
  | hex
  | hexAfter (high : Nat)
  /-- The brace in front of a code point. -/
  | brace
  /-- The digits of a code point, of which some have been read. -/
  | codePoint (digits value : Nat)
  /-- Blanks at the start of a continued line. -/
  | blank
  /-- The line feed behind a carriage return among such blanks. -/
  | blankLineFeed
  /-- Nothing: the closing quote has been read. -/
  | closed
deriving DecidableEq, Repr

/-- The mode behind an unescaped character of a text. -/
def Mode.afterPlain (form : TextForm) (character : Char) : Option Mode :=
  if character == '"' then some closed
  else if character == '\\' then some escape
  else if character == '\r' then some lineFeed
  else if form.admits character then some plain
  else none

/-- The mode behind the character that a backslash escapes. -/
def Mode.afterBackslash (form : TextForm) (character : Char) : Option Mode :=
  if character == 'x' then some hex
  else if character == 'u' then if form.codePoints then some brace else none
  else if character == '0' then if form.null then some plain else none
  else if character == '\n' then some blank
  else if character == '\r' then some blankLineFeed
  else if ['n', 'r', 't', '\\', '\'', '"'].contains character then some plain
  else none

def Mode.next (form : TextForm) : Mode → Char → Option Mode
  | plain, character => afterPlain form character
  | lineFeed, character => if character == '\n' then some plain else none
  | escape, character => afterBackslash form character
  | hex, character =>
      match Digits.hexValue? character with
      | some high => if form.anyByte || decide (high < 8) then some (hexAfter high) else none
      | none => none
  | hexAfter high, character =>
      match Digits.hexValue? character with
      | some low => if form.null || 16 * high + low != 0 then some plain else none
      | none => none
  | brace, character => if character == '\x7b' then some (codePoint 0 0) else none
  | codePoint digits value, character =>
      match Digits.hexValue? character with
      | some digit =>
          if digits < 6 then some (codePoint (digits + 1) (16 * value + digit)) else none
      | none =>
          if digits = 0 then none
          else if character == '_' then some (codePoint digits value)
          else if character == '\x7d' && decide value.isValidChar && (form.null || value != 0) then
            some plain
          else none
  | blank, character =>
      if character == ' ' || character == '\t' || character == '\n' then some blank
      else if character == '\r' then some blankLineFeed
      else afterPlain form character
  | blankLineFeed, character => if character == '\n' then some blank else none
  | closed, _ => none

/-- Reads on from a mode until another mode is reached. -/
def readUntil (form : TextForm) (goal : Mode) : Mode → Reader
  | mode, [] => if mode = goal then some [] else none
  | mode, character :: rest =>
      if mode = goal then some (character :: rest)
      else (mode.next form character).bind (fun next => readUntil form goal next rest)

/-- Escaped text up to its closing quote, and an identifier behind it. -/
def quoted (form : TextForm) : Reader := fun input =>
  (readUntil form .closed .plain input).map Reader.dropSuffix

/-- Raw text up to a quote followed by as many number signs as stood in front of the text. -/
def rawBody (form : TextForm) (signs : Nat) : Reader
  | [] => none
  | '"' :: rest =>
      if rest.take signs = List.replicate signs '#' then some (rest.drop signs)
      else rawBody form signs rest
  | '\r' :: '\n' :: rest => rawBody form signs rest
  | '\r' :: _ => none
  | character :: rest => if form.admits character then rawBody form signs rest else none

/-- The most number signs that raw text may have on either side. -/
def maximalSigns : Nat := 255

/-- Raw text with the number signs and the quotes around it, and an identifier behind it. -/
def raw (form : TextForm) : Reader := fun input =>
  let signs := (input.takeWhile (· == '#')).length
  match input.drop signs with
  | '"' :: rest =>
      if signs ≤ maximalSigns then (rawBody form signs rest).map Reader.dropSuffix else none
  | _ => none

/-- One character, escaped or not, up to its closing quote, and an identifier behind it. -/
def single (form : TextForm) : Reader := fun input =>
  let body :=
    match input with
    | '\\' :: character :: rest =>
        if character == '\n' || character == '\r' then none
        else ((Mode.afterBackslash form character).bind
          (fun mode => readUntil form .plain mode rest))
    | character :: rest => if character != '\\' && form.admits character then some rest else none
    | [] => none
  (body.bind (Reader.exactly "'")).map Reader.dropSuffix

/-- The exponent of a number behind its letter: digits, behind an optional sign. -/
def exponent : (signed valued : Bool) → Reader
  | _, valued, [] => if valued then some [] else none
  | signed, valued, character :: rest =>
      if (Digits.decimalValue? character).isSome then exponent signed true rest
      else if character == '_' then exponent signed valued rest
      else if valued then some (character :: rest)
      else if (character == '+' || character == '-') && !signed then exponent true false rest
      else none

/-- A number with a point or an exponent. A point followed by another one or by an identifier is
not part of a number, and an exponent without digits is left to the identifier behind the number.
-/
def fraction : (pointed : Bool) → Reader
  | pointed, [] => if pointed then some [] else none
  | pointed, character :: rest =>
      if (Digits.decimalValue? character).isSome || character == '_' then fraction pointed rest
      else if character == '.' && !pointed then
        if rest.head?.any (fun next => next == '.' || CharClass.startsIdentifier next) then none
        else fraction true rest
      else if character == 'e' || character == 'E' then
        match exponent false false rest with
        | some after => some after
        | none => if pointed then some (character :: rest) else none
      else if pointed then some (character :: rest)
      else none

/-- A floating-point number without what follows it. -/
def floatDigits : Reader
  | [] => none
  | first :: rest => if (Digits.decimalValue? first).isSome then fraction false rest else none

/-- Digits of a base with underscores between them. -/
def digits (base : Nat) : (empty : Bool) → Reader
  | empty, [] => if empty then none else some []
  | empty, character :: rest =>
      if character == '_' then
        if empty && base == 10 then none else digits base empty rest
      else
        match Digits.hexValue? character with
        | some digit =>
            if digit < base then digits base false rest
            else if digit < 10 || empty then none
            else some (character :: rest)
        | none => if empty then none else some (character :: rest)

/-- A whole number without what follows it, in one of four bases. -/
def wholeDigits : Reader
  | '0' :: 'x' :: rest => digits 16 true rest
  | '0' :: 'o' :: rest => digits 8 true rest
  | '0' :: 'b' :: rest => digits 2 true rest
  | input => digits 10 true input

/-- A number followed by an optional identifier. -/
def number (digits : Reader) : Reader := fun input =>
  (digits input).bind (fun rest => Reader.wordEnd (Reader.dropSuffix rest))

def read : Reader :=
  Reader.firstOf [
    Reader.andThen (Reader.exactly "\"") (quoted .text),
    Reader.andThen (Reader.exactly "r") (raw .text),
    Reader.andThen (Reader.exactly "b\"") (quoted .bytes),
    Reader.andThen (Reader.exactly "br") (raw .bytes),
    Reader.andThen (Reader.exactly "c\"") (quoted .terminated),
    Reader.andThen (Reader.exactly "cr") (raw .terminated),
    Reader.andThen (Reader.exactly "b'") (single .bytes),
    Reader.andThen (Reader.exactly "'") (single .text),
    number floatDigits,
    number wholeDigits]

end Literal

end Conform
