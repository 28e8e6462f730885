/-!
# Token trees

Source text is a sequence of token trees: identifiers, punctuation characters, literals, and
groups of token trees between brackets. A punctuation character is joint when another one follows
it directly, which is how operators of several characters are kept together.

`TokenTree.printAll` writes a sequence with one space between neighbours, and none behind a joint
character.
-/

namespace Conform

/-- Whether a punctuation character is followed directly by another one. -/
inductive Spacing where
  | alone
  | joint
deriving DecidableEq, Repr

/-- A pair of brackets. -/
inductive Delimiter where
  | parenthesis
  | bracket
  | brace
  /-- Brackets that are not written. They keep tokens together that were put in as one. -/
  | invisible
deriving DecidableEq, Repr

inductive TokenTree where
  | identifier (name : String) (raw : Bool)
  | punctuation (symbol : Char) (spacing : Spacing)
  | literal (text : String)
  | group (delimiter : Delimiter) (body : List TokenTree)

namespace Delimiter

def opening : Delimiter → String
  | parenthesis => "("
  | bracket => "["
  | brace => "\x7b "
  | invisible => ""

/-- The text behind the body of a group. Braces keep a space on either side of a body. -/
def closing (delimiter : Delimiter) (emptyBody : Bool) : String :=
  match delimiter, emptyBody with
  | parenthesis, _ => ")"
  | bracket, _ => "]"
  | brace, true => "\x7d"
  | brace, false => " \x7d"
  | invisible, _ => ""

end Delimiter

namespace TokenTree

/-- The token sticks to the one behind it. -/
def isJoint : TokenTree → Bool
  | punctuation _ .joint => true
  | _ => false

mutual

def print : TokenTree → String
  | identifier name raw => if raw then "r#" ++ name else name
  | punctuation symbol _ => String.singleton symbol
  | literal text => text
  | group delimiter body =>
      delimiter.opening ++ printAll body ++ delimiter.closing body.isEmpty

def printAll : List TokenTree → String
  | [] => ""
  | tree :: rest =>
      if rest.isEmpty then tree.print
      else tree.print ++ (if tree.isJoint then "" else " ") ++ printAll rest

end

/-- The token is a semicolon that stands for itself. -/
def isSemicolon : TokenTree → Bool
  | punctuation symbol _ => symbol == ';'
  | _ => false

end TokenTree

end Conform
