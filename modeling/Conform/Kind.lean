/-!
# Kinds

The primitive members of a shape are told apart by a kind id. Ids are counted in unary, so two of
them are compared by taking one step off both until one is exhausted.
-/

namespace Conform

/-- The id of a primitive kind: how many kinds are numbered before it. -/
abbrev Kind := Nat

namespace Kind

/-- Two ids are exhausted after the same number of steps. -/
def same : Kind → Kind → Bool
  | 0, 0 => true
  | left + 1, right + 1 => same left right
  | _, _ => false

@[simp]
theorem same_iff (left right : Kind) : same left right = true ↔ left = right := by
  induction left generalizing right with
  | zero => cases right <;> simp [same]
  | succ left ih => cases right <;> simp [same, ih]

end Kind

end Conform
