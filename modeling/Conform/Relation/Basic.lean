import Conform.Relation.Verdict

/-!
# Relations and their goals

There are seven relations between two types, each with its negation. A relation is stated as a
goal in one of two ways. The canonical goal is a single identity of truth values: the computed
answer and the expected one. The composed goal builds relations from each other with conjunctions
and disjunctions of canonical goals, takes an equality witness between the types themselves for
equality, and obtains the relations upwards from those downwards by exchanging the types.
-/

namespace Conform

/-- What a proof has to be a proof of. -/
inductive Goal where
  /-- Two truth values are the same. -/
  | same (computed expected : Bool)
  | both (left right : Goal)
  | either (left right : Goal)
  /-- There is an equality witness between two types. -/
  | witness (source target : Ty)

/-- A relation between two types that is not a negation. -/
inductive BaseRelation where
  | eq
  | sub
  | super
  | strictSub
  | strictSuper
  | related
  | disjoint
deriving DecidableEq, Repr

namespace BaseRelation

/-- The relations in the order of their declaration. -/
def all : List BaseRelation := [eq, sub, super, strictSub, strictSuper, related, disjoint]

def name : BaseRelation → String
  | eq => "Eq"
  | sub => "Sub"
  | super => "Super"
  | strictSub => "StrictSub"
  | strictSuper => "StrictSuper"
  | related => "Related"
  | disjoint => "Disjoint"

/-- The answer to a relation that is computed from a verdict. -/
def answer (verdict : Verdict) : BaseRelation → Bool
  | eq => verdict.equal
  | sub => verdict.subtype
  | super => verdict.supertype
  | strictSub => verdict.subtype && !verdict.equal
  | strictSuper => verdict.supertype && !verdict.equal
  | related => verdict.subtype || verdict.supertype
  | disjoint => verdict.disjoint

end BaseRelation

/-- A relation between two types or the negation of one. -/
structure Relation where
  /-- The relation that is asserted or denied. -/
  base : BaseRelation
  negated : Bool
deriving DecidableEq, Repr

namespace Relation

def name (relation : Relation) : String :=
  (if relation.negated then "Not" else "") ++ relation.base.name

def all : List Relation :=
  BaseRelation.all.flatMap (fun base => [⟨base, false⟩, ⟨base, true⟩])

def ofName? (name : String) : Option Relation :=
  all.find? (fun relation => relation.name == name)

def canonical (relation : Relation) (left right : Ty) : Goal :=
  .same (relation.base.answer (left.relate right)) (!relation.negated)

/-- The first type is assignable to the second. -/
def subGoal (left right : Ty) : Goal := canonical ⟨.sub, false⟩ left right

def notSubGoal (left right : Ty) : Goal := canonical ⟨.sub, true⟩ left right

def notEqGoal (left right : Ty) : Goal := canonical ⟨.eq, true⟩ left right

def disjointGoal (left right : Ty) : Goal := .both (notSubGoal left right) (notSubGoal right left)

def relatedGoal (left right : Ty) : Goal := .either (subGoal left right) (subGoal right left)

def composed (relation : Relation) (left right : Ty) : Goal :=
  match relation.base, relation.negated with
  | .eq, false => .witness left right
  | .eq, true => notEqGoal left right
  | .sub, false => subGoal left right
  | .sub, true => notSubGoal left right
  | .super, false => subGoal right left
  | .super, true => notSubGoal right left
  | .strictSub, false => .both (subGoal left right) (notEqGoal left right)
  | .strictSub, true => .either (subGoal right left) (disjointGoal left right)
  | .strictSuper, false => .both (subGoal right left) (notEqGoal left right)
  | .strictSuper, true => .either (subGoal left right) (disjointGoal left right)
  | .related, false => relatedGoal left right
  | .related, true => disjointGoal left right
  | .disjoint, false => disjointGoal left right
  | .disjoint, true => relatedGoal left right

end Relation

end Conform
