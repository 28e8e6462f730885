import Conform.Proofs.Relation.Agreement
import Mathlib.Logic.ExistsUnique
import Mathlib.Order.Defs.PartialOrder

/-!
# The partition of pairs into classes

Types are preordered by assignability, and each relation between two types is a condition on the
two comparisons in this order. Four of the relations are exclusive and leave nothing out: the two
strict parts of the order, its equivalence, and incomparability. The laws of these classes are
therefore the laws of a preorder, once the goal of a relation is known to be provable exactly where
the relation holds.
-/

namespace Conform

namespace Ty

instance : Preorder Ty where
  le left right := left.shape.sub right.shape = true
  le_refl type := Shape.sub_refl type.shape
  le_trans _ _ _ lower upper := Shape.sub_trans lower upper

end Ty

/-- The relation that says most about a pair of types with the given verdict. -/
def Verdict.strictest : Verdict → BaseRelation
  | ⟨true, true⟩ => .eq
  | ⟨true, false⟩ => .strictSub
  | ⟨false, true⟩ => .strictSuper
  | ⟨false, false⟩ => .disjoint

namespace BaseRelation

/-- The relations of which exactly one holds between any two types. -/
def classes : List BaseRelation := [strictSub, strictSuper, eq, disjoint]

def converse : BaseRelation → BaseRelation
  | eq => eq
  | sub => super
  | super => sub
  | strictSub => strictSuper
  | strictSuper => strictSub
  | related => related
  | disjoint => disjoint

theorem holds_converse (base : BaseRelation) (below above : Prop) :
    base.converse.Holds below above ↔ base.Holds above below := by
  cases base with
  | eq => exact and_comm
  | related => exact or_comm
  | disjoint => exact and_comm
  | _ => exact Iff.rfl

theorem strictest_mem_classes (verdict : Verdict) : verdict.strictest ∈ classes := by
  rcases verdict with ⟨_ | _, _ | _⟩ <;> simp [classes, Verdict.strictest]

/-- Of the classes, the strictest relation is the only one that a verdict confirms. -/
theorem answer_eq_decide {base : BaseRelation} (isClass : base ∈ classes) (verdict : Verdict) :
    base.answer verdict = decide (base = verdict.strictest) := by
  simp only [classes, List.mem_cons, List.not_mem_nil, or_false] at isClass
  rcases isClass with rfl | rfl | rfl | rfl <;> rcases verdict with ⟨_ | _, _ | _⟩ <;> rfl

/-- Some term proves the canonical goal of the relation between the two types. -/
def Relates (base : BaseRelation) (left right : Ty) : Prop :=
  (Relation.canonical ⟨base, false⟩ left right).Provable

theorem relates_iff_answer (base : BaseRelation) (left right : Ty) :
    base.Relates left right ↔ base.answer (left.relate right) = true :=
  Goal.provable_iff _

theorem relates_iff (base : BaseRelation) (left right : Ty) :
    base.Relates left right ↔ base.Holds (left ≤ right) (right ≤ left) :=
  (relates_iff_answer base left right).trans (base.answer_eq_true (left.relate right))

theorem relates_sub_iff (left right : Ty) : sub.Relates left right ↔ left ≤ right :=
  relates_iff sub left right

theorem relates_strictSub_iff (left right : Ty) : strictSub.Relates left right ↔ left < right :=
  (relates_iff strictSub left right).trans lt_iff_le_not_ge.symm

theorem relates_converse (base : BaseRelation) (left right : Ty) :
    base.Relates right left ↔ base.converse.Relates left right := by
  rw [relates_iff, relates_iff, holds_converse]

/-- Equal types are related to the same types in the same ways. -/
theorem relates_congr {first second : Ty} (equal : eq.Relates first second) (base : BaseRelation)
    (other : Ty) : base.Relates first other ↔ base.Relates second other := by
  rcases (relates_iff eq first second).mp equal with ⟨up, down⟩
  have below : first ≤ other ↔ second ≤ other := ⟨le_trans down, le_trans up⟩
  have above : other ≤ first ↔ other ≤ second :=
    ⟨fun lower => le_trans lower up, fun lower => le_trans lower down⟩
  rw [relates_iff, relates_iff, below, above]

/-- Every pair of types is in exactly one of the four classes. Exchanging the types exchanges the
strict classes and keeps the other two, the strict relation is a strict order that composes with
assignability, and equal types are in the same class with every type. -/
theorem classes_partition :
    (∀ left right : Ty, ∃! base, base ∈ classes ∧ base.Relates left right) ∧
      (∀ (base : BaseRelation) (left right : Ty),
        base.Relates right left ↔ base.converse.Relates left right) ∧
      (∀ type : Ty, ¬strictSub.Relates type type) ∧
      (∀ first second third : Ty, strictSub.Relates first second →
        strictSub.Relates second third → strictSub.Relates first third) ∧
      (∀ first second third : Ty, strictSub.Relates first second →
        sub.Relates second third → strictSub.Relates first third) ∧
      (∀ first second third : Ty, sub.Relates first second →
        strictSub.Relates second third → strictSub.Relates first third) ∧
      ∀ first second : Ty, eq.Relates first second → ∀ (base : BaseRelation) (other : Ty),
        (base.Relates first other ↔ base.Relates second other) ∧
          (base.Relates other first ↔ base.Relates other second) := by
  simp only [relates_strictSub_iff, relates_sub_iff]
  refine ⟨?_, relates_converse, lt_irrefl, ?_, ?_, ?_, ?_⟩
  · intro left right
    have isClass := strictest_mem_classes (left.relate right)
    refine ⟨(left.relate right).strictest, ⟨isClass, ?_⟩, ?_⟩
    · rw [relates_iff_answer, answer_eq_decide isClass]
      exact decide_eq_true rfl
    · rintro base ⟨baseClass, related⟩
      rw [relates_iff_answer, answer_eq_decide baseClass] at related
      exact of_decide_eq_true related
  · intro first second third lower upper
    exact lt_trans lower upper
  · intro first second third lower upper
    exact lt_of_lt_of_le lower upper
  · intro first second third lower upper
    exact lt_of_le_of_lt lower upper
  · intro first second equal base other
    refine ⟨relates_congr equal base other, ?_⟩
    rw [relates_converse base first other, relates_converse base second other]
    exact relates_congr equal base.converse other

end BaseRelation

namespace Ty

open BaseRelation

def named : Ty := .record "Named" [(⟨"name"⟩, .primitive .string)]

def person : Ty :=
  .record "Person" [(⟨"name"⟩, .primitive .string), (⟨"age"⟩, .primitive (.int ⟨false, .bits8⟩))]

/-- A person with the fields in another order. -/
def passenger : Ty :=
  .record "Passenger" [(⟨"age"⟩, .primitive (.int ⟨false, .bits8⟩)), (⟨"name"⟩, .primitive .string)]

theorem person_strictly_below_named :
    strictSub.Relates person named ∧ strictSub.Relates named named.option ∧
      sub.Relates named.option named.option.option ∧ sub.Relates passenger person ∧
      eq.Relates person passenger ∧ strictSub.Relates person named.option ∧
      strictSub.Relates named named.option.option ∧ strictSub.Relates passenger named ∧
      strictSuper.Relates named passenger := by
  have lower : strictSub.Relates person named := ⟨.refl, by decide⟩
  have upper : strictSub.Relates named named.option := ⟨.refl, by decide⟩
  have nested : sub.Relates named.option named.option.option := ⟨.refl, by decide⟩
  have reordered : sub.Relates passenger person := ⟨.refl, by decide⟩
  have equal : eq.Relates person passenger := ⟨.refl, by decide⟩
  rcases classes_partition with ⟨_, exchanged, _, strictTrans, strictThenSub, subThenStrict, congr⟩
  refine ⟨lower, upper, nested, reordered, equal, ?_, ?_, ?_, ?_⟩
  · exact strictTrans person named named.option lower upper
  · exact strictThenSub named named.option named.option.option upper nested
  · exact subThenStrict passenger person named reordered lower
  · apply (exchanged strictSuper passenger named).mpr
    exact (congr person passenger equal strictSub named).1.mp lower

end Ty

end Conform
