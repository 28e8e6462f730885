import Conform.Label.Spelling

/-!
# Labels

A record field is named by a label. A label may be written as a raw identifier, behind `r#`: the
mark is part of its name, under which written values keep the field, and no part of its id, by
which shapes compare fields.
-/

namespace Conform

/-- A field label as it is written. -/
structure Label where
  /-- The identifier, with the mark of a raw one. -/
  written : String
deriving DecidableEq, Repr

namespace Label

/-- The name under which a written record keeps the field: the label as it is written. -/
def name (label : Label) : String := label.written

/-- The identifier without the mark of a raw one. -/
def plain (label : Label) : String :=
  match label.written.toList with
  | 'r' :: '#' :: rest => String.ofList rest
  | _ => label.written

/-- What shapes compare: the spelling of the identifier. -/
def id (label : Label) : Spelling := Spelling.ofText label.plain

end Label

end Conform
