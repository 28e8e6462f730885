import Conform.Number.Binary
import Conform.Primitive

/-!
# Scalars

A scalar is a value of a primitive type. Integers carry the proof that their type contains them,
and floating-point numbers are kept as words. `Scalar.equal` is equality as a program sees it:
numeric on floating-point numbers and identity on everything else.
-/

namespace Conform

/-- A value of a primitive type. -/
inductive Scalar where
  | unit
  | bool (value : Bool)
  | char (value : Char)
  | int (kind : IntKind) (number : Int) (contained : kind.Contains number)
  | f32 (word : UInt32)
  | f64 (word : UInt64)
  | staticStr (text : String)
  | string (text : String)
deriving DecidableEq

namespace Scalar

def primitive : Scalar → Primitive
  | unit => .unit
  | bool _ => .bool
  | char _ => .char
  | int kind _ _ => .int kind
  | f32 _ => .f32
  | f64 _ => .f64
  | staticStr _ => .staticStr
  | string _ => .string

/-- The number as a scalar of the type, if the type contains it. -/
def ofInt? (kind : IntKind) (number : Int) : Option Scalar :=
  if contained : kind.Contains number then some (int kind number contained) else none

/-- Equality of scalars, numeric on floating-point numbers. -/
def equal : Scalar → Scalar → Bool
  | f32 left, f32 right => Binary.Format.single.equal left.toNat right.toNat
  | f64 left, f64 right => Binary.Format.double.equal left.toNat right.toNat
  | left, right => decide (left = right)

end Scalar

end Conform
