import Conform.Relation.Proof

/-!
# Checks

A check asks whether a proof term proves a relation between two types, in its canonical or in its
composed form. It may carry a label, which only serves its readers. Grouped checks are handed over
in a thunk, and handing a thunk over never runs it.
-/

namespace Conform

/-- A proof term offered for a relation. -/
structure Check where
  relation : Relation
  /-- Whether the composed form of the relation is meant. -/
  composed : Bool
  /-- A remark for readers. -/
  label : Option String
  proof : ProofTerm
deriving DecidableEq, Repr

namespace Check

def goal (check : Check) (left right : Ty) : Goal :=
  if check.composed then check.relation.composed left right
  else check.relation.canonical left right

def passes (check : Check) (left right : Ty) : Bool :=
  (check.goal left right).accepts check.proof

/-- Hands a thunk over to be checked. The thunk is not run, so no effect of it is seen. -/
def hold {State Result : Type} (_thunk : StateM State Result) : StateM State Unit :=
  pure ()

end Check

end Conform
