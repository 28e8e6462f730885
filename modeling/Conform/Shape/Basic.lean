import Conform.Kind
import Conform.Label.Spelling

/-!
# Shapes

A shape is a list of members read as their union: the empty list has no values, and the order and
the number of occurrences of members are kept. A member is a primitive kind or a record, and a
record lists its fields with a spelled label and a shape each.

One shape is assignable to another when every member of the first is assignable to some member of
the second. Kinds are assignable when they are the same. A record is assignable to another when
for every field of the second it has a field with the same label and an assignable shape: surplus
fields and the order of fields do not matter.
-/

namespace Conform

/-- A member of a shape. -/
inductive Member where
  | kind (id : Kind)
  | record (fields : List (Spelling × List Member))

/-- A union of members. -/
abbrev Shape := List Member

mutual

/-- Every member of the first shape is assignable to some member of the second. -/
def Shape.sub : Shape → Shape → Bool
  | [], _ => true
  | member :: rest, target =>
      target.any (fun other => Member.sub member other) && Shape.sub rest target

/-- The first member is assignable to the second. -/
def Member.sub : Member → Member → Bool
  | .kind left, .kind right => Kind.same left right
  | .record fields, .record required =>
      required.all (fun field => Fields.accepts fields field.1 field.2)
  | _, _ => false

/-- Some field has the given label and a shape that is assignable to the given one. -/
def Fields.accepts : List (Spelling × Shape) → Spelling → Shape → Bool
  | [], _, _ => false
  | (spelling, shape) :: rest, label, target =>
      (Spelling.same spelling label && Shape.sub shape target) || Fields.accepts rest label target

end

namespace Shape

/-- The union of two shapes: the members of the first and then those of the second. -/
def concat (left right : Shape) : Shape := left ++ right

end Shape

end Conform
