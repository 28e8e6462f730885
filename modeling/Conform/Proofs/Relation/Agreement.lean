import Conform.Proofs.Relation.Typing
import Mathlib.Tactic.Tauto

/-!
# Agreement of the two forms of relations

A goal has a meaning of its own, in which no proof term occurs, and it is provable exactly if it
holds in this meaning. An accepted term has the type of the goal, and a term of this type proves
nothing false, so typing proves no more than acceptance. The meanings of the canonical and the
composed goal of a relation are then compared with the relation itself, taken between the two facts
that each type is assignable to the other.

Equality is the case in which the forms differ most. Its composed goal asks for a witness between
the types, and a proof by reflexivity of identical types says that they are equal only because
assignability is reflexive.
-/

namespace Conform

namespace Goal

/-- What a goal says. -/
def Holds : Goal → Prop
  | same computed expected => computed = expected
  | both left right => left.Holds ∧ right.Holds
  | either left right => left.Holds ∨ right.Holds
  | witness source target => (source.relate target).equal = true

theorem witness_accepts (source target : Ty) (term : ProofTerm) :
    (witness source target).accepts term = true ↔
      term = .refl ∧ source = target ∨
        term = .structural ∧ (source.relate target).equal = true := by
  cases term <;> simp [accepts]

theorem hasType_of_accepts {goal : Goal} {term : ProofTerm} (accepted : goal.accepts term = true) :
    term.HasType goal.type := by
  induction goal generalizing term with
  | same computed expected => exact (hasType_same_iff computed expected term).mpr accepted
  | both left right ihLeft ihRight =>
      cases term with
      | and leftTerm rightTerm =>
          rw [accepts, Bool.and_eq_true] at accepted
          exact .and (ihLeft accepted.1) (ihRight accepted.2)
      | _ => cases accepted
  | either left right ihLeft ihRight =>
      cases term with
      | orLeft leftTerm => exact .orLeft (ihLeft accepted)
      | orRight rightTerm => exact .orRight (ihRight accepted)
      | _ => cases accepted
  | witness source target =>
      rcases (witness_accepts source target term).mp accepted with ⟨rfl, rfl⟩ | ⟨rfl, equal⟩
      · exact .refl (.structural source)
      · exact .structural equal

/-- Typed terms prove nothing false. -/
theorem holds_of_hasType {goal : Goal} {term : ProofTerm} (typed : term.HasType goal.type) :
    goal.Holds := by
  induction goal generalizing term with
  | same computed expected =>
      exact ((ProofTerm.hasType_truth_iff term computed expected).mp typed).1
  | both left right ihLeft ihRight =>
      cases typed with
      | and leftTyped rightTyped => exact ⟨ihLeft leftTyped, ihRight rightTyped⟩
  | either left right ihLeft ihRight =>
      cases typed with
      | orLeft leftTyped => exact Or.inl (ihLeft leftTyped)
      | orRight rightTyped => exact Or.inr (ihRight rightTyped)
  | witness source target =>
      exact (ProofType.equal_structural_iff source target).mp typed.connects

/-- Proof terms are sound. -/
theorem holds_of_accepts {goal : Goal} {term : ProofTerm} (accepted : goal.accepts term = true) :
    goal.Holds :=
  holds_of_hasType (hasType_of_accepts accepted)

/-- Proof terms are complete. -/
theorem provable_of_holds {goal : Goal} (holds : goal.Holds) : goal.Provable := by
  induction goal with
  | same computed expected =>
      refine ⟨.refl, ?_⟩
      simp only [accepts, ProofTerm.isEquational, Bool.and_true]
      exact (Truth.same_iff computed expected).mpr holds
  | both left right ihLeft ihRight =>
      rcases ihLeft holds.1 with ⟨leftTerm, leftAccepted⟩
      rcases ihRight holds.2 with ⟨rightTerm, rightAccepted⟩
      refine ⟨.and leftTerm rightTerm, ?_⟩
      rw [accepts, leftAccepted, rightAccepted]
      rfl
  | either left right ihLeft ihRight =>
      rcases holds with leftHolds | rightHolds
      · rcases ihLeft leftHolds with ⟨term, accepted⟩
        exact ⟨.orLeft term, accepted⟩
      · rcases ihRight rightHolds with ⟨term, accepted⟩
        exact ⟨.orRight term, accepted⟩
  | witness source target => exact ⟨.structural, holds⟩

theorem provable_iff (goal : Goal) : goal.Provable ↔ goal.Holds := by
  constructor
  · rintro ⟨term, accepted⟩
    exact holds_of_accepts accepted
  · exact provable_of_holds

/-- Typing admits more terms than acceptance and proves the same goals. -/
theorem exists_hasType_iff (goal : Goal) :
    (∃ term : ProofTerm, term.HasType goal.type) ↔ goal.Holds := by
  constructor
  · rintro ⟨term, typed⟩
    exact holds_of_hasType typed
  · intro holds
    rcases provable_of_holds holds with ⟨term, accepted⟩
    exact ⟨term, hasType_of_accepts accepted⟩

end Goal

/-- A relation between two types, given whether each is assignable to the other. -/
def BaseRelation.Holds (base : BaseRelation) (below above : Prop) : Prop :=
  match base with
  | eq => below ∧ above
  | sub => below
  | super => above
  | strictSub => below ∧ ¬above
  | strictSuper => above ∧ ¬below
  | related => below ∨ above
  | disjoint => ¬below ∧ ¬above

theorem BaseRelation.answer_eq_true (base : BaseRelation) (verdict : Verdict) :
    base.answer verdict = true ↔
      base.Holds (verdict.subtype = true) (verdict.supertype = true) := by
  rcases verdict with ⟨subtype, supertype⟩
  cases base <;> cases subtype <;> cases supertype <;>
    simp [answer, Holds, Verdict.equal, Verdict.disjoint]

namespace Relation

/-- A relation or its negation, given whether each type is assignable to the other. -/
def Holds (relation : Relation) (below above : Prop) : Prop :=
  if relation.negated then ¬relation.base.Holds below above else relation.base.Holds below above

/-- The relation between two types, stated of their shapes. -/
def Between (relation : Relation) (left right : Ty) : Prop :=
  relation.Holds (left.shape.sub right.shape = true) (right.shape.sub left.shape = true)

theorem canonical_holds (relation : Relation) (left right : Ty) :
    (relation.canonical left right).Holds ↔ relation.Between left right := by
  rcases relation with ⟨base, negated⟩
  have answered := base.answer_eq_true (left.relate right)
  cases negated with
  | false => exact answered
  | true =>
      refine Iff.trans ?_ (not_congr answered)
      exact Bool.eq_false_iff

theorem subGoal_holds (left right : Ty) :
    (subGoal left right).Holds ↔ left.shape.sub right.shape = true :=
  canonical_holds ⟨.sub, false⟩ left right

theorem notSubGoal_holds (left right : Ty) :
    (notSubGoal left right).Holds ↔ ¬left.shape.sub right.shape = true :=
  canonical_holds ⟨.sub, true⟩ left right

theorem notEqGoal_holds (left right : Ty) :
    (notEqGoal left right).Holds ↔
      ¬(left.shape.sub right.shape = true ∧ right.shape.sub left.shape = true) :=
  canonical_holds ⟨.eq, true⟩ left right

theorem disjointGoal_holds (left right : Ty) :
    (disjointGoal left right).Holds ↔
      ¬left.shape.sub right.shape = true ∧ ¬right.shape.sub left.shape = true :=
  and_congr (notSubGoal_holds left right) (notSubGoal_holds right left)

theorem relatedGoal_holds (left right : Ty) :
    (relatedGoal left right).Holds ↔
      left.shape.sub right.shape = true ∨ right.shape.sub left.shape = true :=
  or_congr (subGoal_holds left right) (subGoal_holds right left)

theorem composed_holds (relation : Relation) (left right : Ty) :
    (relation.composed left right).Holds ↔ relation.Between left right := by
  rcases relation with ⟨base, negated⟩
  unfold Between
  cases base <;> cases negated <;>
    simp only [composed, Goal.Holds, Ty.equal_iff, subGoal_holds, notSubGoal_holds,
      notEqGoal_holds, disjointGoal_holds, relatedGoal_holds, Relation.Holds, BaseRelation.Holds,
      Bool.false_eq_true, if_false, if_true] <;>
    tauto

/-- The canonical and the composed goal of a relation are provable for the pairs of types between
which the relation holds, and so for the same pairs. The same is so if the terms are not those that
are accepted, but all those that have the type of the goal. These are more where the goal is an
equality witness: what is accepted there is reflexivity and the structural conversion, and these
have the type, but so have terms that combine them by the laws of equality. -/
theorem forms_agree (relation : Relation) (left right : Ty) :
    ((relation.canonical left right).Provable ↔ relation.Between left right) ∧
      ((relation.composed left right).Provable ↔ relation.Between left right) ∧
      ((relation.canonical left right).Provable ↔ (relation.composed left right).Provable) ∧
      ((∃ term : ProofTerm, term.HasType (relation.canonical left right).type) ↔
        relation.Between left right) ∧
      ((∃ term : ProofTerm, term.HasType (relation.composed left right).type) ↔
        relation.Between left right) ∧
      (∀ term, (relation.composed left right).accepts term = true →
        term.HasType (relation.composed left right).type) ∧
      (∀ term, (composed ⟨.eq, false⟩ left right).accepts term = true ↔
        term = .refl ∧ left = right ∨
          term = .structural ∧ (left.relate right).equal = true) ∧
      ∀ negated, composed ⟨.super, negated⟩ left right = composed ⟨.sub, negated⟩ right left := by
  have canonicalProvable := ((relation.canonical left right).provable_iff).trans
    (canonical_holds relation left right)
  have composedProvable := ((relation.composed left right).provable_iff).trans
    (composed_holds relation left right)
  have canonicalTyped := ((relation.canonical left right).exists_hasType_iff).trans
    (canonical_holds relation left right)
  have composedTyped := ((relation.composed left right).exists_hasType_iff).trans
    (composed_holds relation left right)
  refine ⟨canonicalProvable, composedProvable, canonicalProvable.trans composedProvable.symm,
    canonicalTyped, composedTyped, fun _ => Goal.hasType_of_accepts, ?_, ?_⟩
  · exact Goal.witness_accepts left right
  · intro negated
    cases negated <;> rfl

def unitOrTruth : Ty := .union (.primitive .unit) (.primitive .bool)

def truthOrUnit : Ty := .union (.primitive .bool) (.primitive .unit)

/-- The structural conversion is accepted for the equality of these types. Turned round twice it has
the same type, and is not accepted. -/
theorem structural_typed_for_unitOrTruth :
    (composed ⟨.eq, false⟩ unitOrTruth truthOrUnit).accepts .structural = true ∧
      ProofTerm.structural.HasType (composed ⟨.eq, false⟩ unitOrTruth truthOrUnit).type ∧
      (ProofTerm.sym (.sym .structural)).HasType
        (composed ⟨.eq, false⟩ unitOrTruth truthOrUnit).type ∧
      (composed ⟨.eq, false⟩ unitOrTruth truthOrUnit).accepts (.sym (.sym .structural)) = false := by
  rcases forms_agree ⟨.eq, false⟩ unitOrTruth truthOrUnit with ⟨_, _, _, _, _, typed, _, _⟩
  have accepted :
      (composed ⟨.eq, false⟩ unitOrTruth truthOrUnit).accepts .structural = true := by decide
  have structuralTyped := typed .structural accepted
  exact ⟨accepted, structuralTyped, .sym (.sym structuralTyped), rfl⟩

end Relation

namespace ProofTerm

/-- A term has the type of a witness between two truth values exactly if they are the same and it
consists of the laws of equality only. So a canonical relation is proved by the same terms of this
kind wherever it holds and by none where it does not, these are the terms that are accepted, and for
no goal at all does typing prove more than acceptance. -/
theorem equational_terms_prove_identity :
    (∀ (term : ProofTerm) (computed expected : Bool),
      term.HasType (.witness (.truth computed) (.truth expected)) ↔
        computed = expected ∧ term.isEquational = true) ∧
      (∀ (relation : Relation) (left right : Ty) (term : ProofTerm),
        (term.HasType (relation.canonical left right).type ↔
          relation.Between left right ∧ term.isEquational = true) ∧
        (term.HasType (relation.canonical left right).type ↔
          (relation.canonical left right).accepts term = true)) ∧
      ∀ goal : Goal, (∃ term : ProofTerm, term.HasType goal.type) ↔ goal.Provable := by
  refine ⟨hasType_truth_iff, ?_, ?_⟩
  · intro relation left right term
    constructor
    · rw [← Relation.canonical_holds]
      exact hasType_truth_iff term _ _
    · exact Goal.hasType_same_iff _ _ term
  · intro goal
    exact goal.exists_hasType_iff.trans goal.provable_iff.symm

end ProofTerm

end Conform
