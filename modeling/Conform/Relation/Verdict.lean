import Conform.Ty.Basic

/-!
# Verdicts

Relating two types takes two runs of the shape comparison, one in each direction. The verdict
keeps both answers; equality and disjointness are derived from them, so a verdict never leaves a
question open.
-/

namespace Conform

/-- The two facts about a pair of types from which every relation between them is computed. -/
structure Verdict where
  /-- The first type is assignable to the second. -/
  subtype : Bool
  /-- The second type is assignable to the first. -/
  supertype : Bool
deriving DecidableEq, Repr

namespace Verdict

/-- Assignable both ways. -/
def equal (verdict : Verdict) : Bool := verdict.subtype && verdict.supertype

/-- Assignable neither way. -/
def disjoint (verdict : Verdict) : Bool := !verdict.subtype && !verdict.supertype

/-- The outcomes picked by the four questions subtype, supertype, equal and disjoint, when each
picks one of two given outcomes. -/
def outcomes {Outcome : Type} (verdict : Verdict) (yes no : Outcome) : List Outcome :=
  [verdict.subtype, verdict.supertype, verdict.equal, verdict.disjoint].map
    (fun answer => Truth.choose answer yes no)

end Verdict

def Ty.relate (left right : Ty) : Verdict where
  subtype := left.shape.sub right.shape
  supertype := right.shape.sub left.shape

end Conform
