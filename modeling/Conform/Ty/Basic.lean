import Conform.Label.Basic
import Conform.Primitive
import Conform.Shape.Basic

/-!
# Structural types

The types that take part in relation checking: primitives, the empty type, unions, optional types
and records. A record has a name of its own, so two types are identical only if their records have
the same names, and labels written in the same way; their shapes may be equal all the same.

The shape of a union is the union of the shapes, an optional type is the union of the unit type
and its payload, and a record is a single member.
-/

namespace Conform

inductive Ty where
  | primitive (type : Primitive)
  | never
  | union (left right : Ty)
  | option (payload : Ty)
  | record (name : String) (fields : List (Label × Ty))

namespace Ty

mutual

def decEq : (left right : Ty) → Decidable (left = right)
  | primitive left, primitive right =>
      if same : left = right then isTrue (same ▸ rfl) else isFalse (by simp [same])
  | never, never => isTrue rfl
  | union left₁ right₁, union left₂ right₂ =>
      match decEq left₁ left₂, decEq right₁ right₂ with
      | isTrue left, isTrue right => isTrue (left ▸ right ▸ rfl)
      | isFalse left, _ => isFalse (by simp [left])
      | _, isFalse right => isFalse (by simp [right])
  | option left, option right =>
      match decEq left right with
      | isTrue same => isTrue (same ▸ rfl)
      | isFalse differ => isFalse (by simp [differ])
  | record name₁ fields₁, record name₂ fields₂ =>
      if name : name₁ = name₂ then
        match decEqFields fields₁ fields₂ with
        | isTrue fields => isTrue (name ▸ fields ▸ rfl)
        | isFalse fields => isFalse (by simp [fields])
      else isFalse (by simp [name])
  | primitive _, never | primitive _, union _ _ | primitive _, option _ | primitive _, record _ _
  | never, primitive _ | never, union _ _ | never, option _ | never, record _ _
  | union _ _, primitive _ | union _ _, never | union _ _, option _ | union _ _, record _ _
  | option _, primitive _ | option _, never | option _, union _ _ | option _, record _ _
  | record _ _, primitive _ | record _ _, never | record _ _, union _ _ | record _ _, option _ =>
      isFalse (by simp)

def decEqFields : (left right : List (Label × Ty)) → Decidable (left = right)
  | [], [] => isTrue rfl
  | [], _ :: _ => isFalse (by simp)
  | _ :: _, [] => isFalse (by simp)
  | (label₁, type₁) :: rest₁, (label₂, type₂) :: rest₂ =>
      if label : label₁ = label₂ then
        match decEq type₁ type₂, decEqFields rest₁ rest₂ with
        | isTrue type, isTrue rest => isTrue (label ▸ type ▸ rest ▸ rfl)
        | isFalse type, _ => isFalse (by simp [type])
        | _, isFalse rest => isFalse (by simp [rest])
      else isFalse (by simp [label])

end

instance : DecidableEq Ty := decEq

mutual

def shape : Ty → Shape
  | primitive type => [.kind type.kind]
  | never => []
  | union left right => left.shape.concat right.shape
  | option payload => Shape.concat [.kind Primitive.unit.kind] payload.shape
  | record _ fields => [.record (fieldShapes fields)]

/-- The ids and the shapes of the fields of a record, in their order. -/
def fieldShapes : List (Label × Ty) → List (Spelling × Shape)
  | [] => []
  | (label, type) :: rest => (label.id, type.shape) :: fieldShapes rest

end

/-- The name of a type, as a witness shows it. A record goes by its own name. -/
def typeName : Ty → String
  | primitive .string => "alloc::string::String"
  | primitive type => type.name
  | never => "core::convert::Infallible"
  | union left right => "typerel::shape::Union<" ++ left.typeName ++ ", " ++ right.typeName ++ ">"
  | option payload => "core::option::Option<" ++ payload.typeName ++ ">"
  | record name _ => name

end Ty

end Conform
