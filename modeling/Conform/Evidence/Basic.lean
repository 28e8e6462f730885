import Conform.Value.Basic

/-!
# Evidence

Evidence for a proposition built with conjunction and disjunction: a value at the leaves, both
parts of a conjunction, one side of a disjunction. Evidence is taken apart by the two projections
of a conjunction and by case analysis on a disjunction.
-/

namespace Conform

/-- Evidence for a proposition. -/
inductive Evidence where
  | fact (value : Value)
  | both (first second : Evidence)
  | left (side : Evidence)
  | right (side : Evidence)

namespace Evidence

def parts? : Evidence → Option (Evidence × Evidence)
  | both first second => some (first, second)
  | _ => none

/-- Case analysis: what follows from either side of a disjunction follows from the disjunction. -/
def cases? {Result : Type} (onLeft onRight : Evidence → Result) : Evidence → Option Result
  | left side => some (onLeft side)
  | right side => some (onRight side)
  | _ => none

end Evidence

end Conform
