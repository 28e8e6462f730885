import Conform.Kind

/-!
# Primitive types

The nineteen primitive types with their names, the tags of their written values and their kind
ids. The integer types differ in signedness and width; a machine word has 64 bits. `Primitive.all`
lists the types in the order of their ids, and an id is the position of its type in that list.
-/

namespace Conform

inductive Width where
  | bits8
  | bits16
  | bits32
  | bits64
  | bits128
  | word
deriving DecidableEq, Repr

namespace Width

def bits : Width → Nat
  | bits8 => 8
  | bits16 => 16
  | bits32 => 32
  | bits64 => 64
  | bits128 => 128
  | word => 64

/-- How the width is written behind the letter of the signedness. -/
def name : Width → String
  | bits8 => "8"
  | bits16 => "16"
  | bits32 => "32"
  | bits64 => "64"
  | bits128 => "128"
  | word => "size"

/-- The widths from the narrowest to the machine word. -/
def all : List Width := [bits8, bits16, bits32, bits64, bits128, word]

/-- The position of a width in `Width.all`. -/
def rank : Width → Nat
  | bits8 => 0
  | bits16 => 1
  | bits32 => 2
  | bits64 => 3
  | bits128 => 4
  | word => 5

end Width

/-- An integer type. -/
structure IntKind where
  signed : Bool
  width : Width
deriving DecidableEq, Repr

namespace IntKind

/-- The first number above those of the type. -/
def bound (kind : IntKind) : Nat :=
  Nat.pow 2 (if kind.signed then kind.width.bits - 1 else kind.width.bits)

def least (kind : IntKind) : Int := if kind.signed then -kind.bound else 0

def greatest (kind : IntKind) : Int := kind.bound - 1

/-- The numbers of the type. -/
def Contains (kind : IntKind) (number : Int) : Prop :=
  kind.least ≤ number ∧ number ≤ kind.greatest

instance (kind : IntKind) (number : Int) : Decidable (kind.Contains number) :=
  inferInstanceAs (Decidable (_ ∧ _))

def name (kind : IntKind) : String :=
  (if kind.signed then "i" else "u") ++ kind.width.name

/-- The tag of the type in written values. -/
def tag (kind : IntKind) : String :=
  if kind.width = .word then (if kind.signed then "Isize" else "Usize")
  else (if kind.signed then "I" else "U") ++ kind.width.name

end IntKind

inductive Primitive where
  | unit
  | bool
  | char
  | int (kind : IntKind)
  | f32
  | f64
  | staticStr
  | string
deriving DecidableEq, Repr

namespace Primitive

/-- The primitive types in the order of their kind ids. -/
def all : List Primitive :=
  [unit, bool, char]
    ++ Width.all.map (fun width => int ⟨true, width⟩)
    ++ Width.all.map (fun width => int ⟨false, width⟩)
    ++ [f32, f64, staticStr, string]

def kind : Primitive → Kind
  | unit => 0
  | bool => 1
  | char => 2
  | int ⟨true, width⟩ => 3 + width.rank
  | int ⟨false, width⟩ => 9 + width.rank
  | f32 => 15
  | f64 => 16
  | staticStr => 17
  | string => 18

def name : Primitive → String
  | unit => "()"
  | bool => "bool"
  | char => "char"
  | int kind => kind.name
  | f32 => "f32"
  | f64 => "f64"
  | staticStr => "&str"
  | string => "String"

def ofName? (name : String) : Option Primitive :=
  all.find? (fun primitive => primitive.name == name)

/-- The tag that a written value of the type carries. -/
def tag : Primitive → String
  | unit => "Unit"
  | bool => "Bool"
  | char => "Char"
  | int kind => kind.tag
  | f32 => "F32"
  | f64 => "F64"
  | staticStr => "StaticStr"
  | string => "String"

def ofTag? (tag : String) : Option Primitive :=
  all.find? (fun primitive => primitive.tag == tag)

theorem kind_injective {left right : Primitive} (sameKind : left.kind = right.kind) :
    left = right := by
  rcases left with _ | _ | _ | ⟨_ | _, _ | _⟩ | _ | _ | _ | _ <;>
    rcases right with _ | _ | _ | ⟨_ | _, _ | _⟩ | _ | _ | _ | _ <;>
    first | rfl | simp [kind, Width.rank] at sameKind

end Primitive

end Conform
