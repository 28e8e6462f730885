import Conform.Proofs.Shape.Order
import Mathlib.Order.FixedPoints

/-!
# The comparison decides assignability

Assignability is given by a rule that mentions it again: a record is below another one if the
shapes of its fields are below the required ones. It is the least relation that is closed under
this rule. The rule looks at smaller shapes only, so a comparison that follows it comes to an end.

The comparison itself is a cascade of questions: about shapes, about one member and a shape, about
two members, about the fields of two records, and about one required field. Every question has its
own rule of evaluation, and a rule asks for all answers it combines, whatever the first of them is.
Evaluation gives each question exactly one answer, and a question about shapes is answered by
whether the first is assignable to the second: a comparison that fails ends in a definite false.
-/

namespace Conform

/-- The first member is below the second, if the shapes of fields are compared by a relation. -/
def Member.Below (below : Shape → Shape → Prop) : Member → Member → Prop
  | .kind left, .kind right => left = right
  | .record fields, .record required =>
      ∀ field ∈ required, ∃ own ∈ fields, own.1 = field.1 ∧ below own.2 field.2
  | _, _ => False

theorem Member.Below.mono {first second : Shape → Shape → Prop} (implied : first ≤ second)
    {member other : Member} (below : member.Below first other) : member.Below second other := by
  cases member with
  | kind left =>
      cases other with
      | kind right => exact below
      | record required => exact below
  | record fields =>
      cases other with
      | kind right => exact below
      | record required =>
          intro field fieldMem
          rcases below field fieldMem with ⟨own, ownMem, sameLabel, ownBelow⟩
          exact ⟨own, ownMem, sameLabel, implied own.2 field.2 ownBelow⟩

theorem Member.sub_iff_below (member other : Member) :
    member.sub other = true ↔
      member.Below (fun source target => source.sub target = true) other := by
  cases member with
  | kind left =>
      cases other with
      | kind right => exact kind_sub_kind left right
      | record required => simp [Below]
  | record fields =>
      cases other with
      | kind right => simp [Below]
      | record required => exact record_sub_record fields required

namespace Shape

/-- The rule of assignability: every member of the first shape has a member of the second above
it. -/
def assignabilityRule : (Shape → Shape → Prop) →o (Shape → Shape → Prop) where
  toFun below source target := ∀ member ∈ source, ∃ other ∈ target, member.Below below other
  monotone' := by
    intro first second implied source target related member memberMem
    rcases related member memberMem with ⟨other, otherMem, below⟩
    exact ⟨other, otherMem, below.mono implied⟩

/-- Assignability: the least relation that is closed under its rule. -/
def Assignable : Shape → Shape → Prop := OrderHom.lfp assignabilityRule

theorem assignable_iff (source target : Shape) :
    source.Assignable target ↔
      ∀ member ∈ source, ∃ other ∈ target, member.Below Assignable other := by
  have fixed : assignabilityRule Assignable = Assignable := OrderHom.map_lfp assignabilityRule
  exact iff_of_eq (congrFun₂ fixed source target).symm

theorem sub_of_assignable {source target : Shape} (assignable : source.Assignable target) :
    source.sub target = true := by
  have least : Assignable ≤ fun source target => source.sub target = true := by
    apply OrderHom.lfp_le
    intro source target related
    rw [sub_iff]
    intro member memberMem
    rcases related member memberMem with ⟨other, otherMem, below⟩
    exact ⟨other, otherMem, (Member.sub_iff_below member other).mpr below⟩
  exact least source target assignable

theorem below_of_member_sub {member other : Member} (compared : member.sub other = true) :
    member.Below Assignable other := by
  induction member using Member.inductionOn generalizing other with
  | kind id =>
      cases other with
      | kind right => exact (Member.kind_sub_kind id right).mp compared
      | record required => simp at compared
  | record fields ih =>
      cases other with
      | kind right => simp at compared
      | record required =>
          rw [Member.record_sub_record] at compared
          intro field fieldMem
          rcases compared field fieldMem with ⟨own, ownMem, sameLabel, ownSub⟩
          refine ⟨own, ownMem, sameLabel, ?_⟩
          -- The induction is on members, so the shapes of the fields are taken apart once more.
          rw [sub_iff] at ownSub
          rw [assignable_iff]
          intro inner innerMem
          rcases ownSub inner innerMem with ⟨outer, outerMem, innerSub⟩
          exact ⟨outer, outerMem, ih own ownMem inner innerMem innerSub⟩

theorem assignable_of_sub {source target : Shape} (compared : source.sub target = true) :
    source.Assignable target := by
  rw [sub_iff] at compared
  rw [assignable_iff]
  intro member memberMem
  rcases compared member memberMem with ⟨other, otherMem, memberSub⟩
  exact ⟨other, otherMem, below_of_member_sub memberSub⟩

theorem sub_iff_assignable (source target : Shape) :
    source.sub target = true ↔ source.Assignable target :=
  ⟨assignable_of_sub, sub_of_assignable⟩

end Shape

/-- A question that a comparison asks on its way. -/
inductive Question where
  /-- Is every member of the source below some member of the target? -/
  | shapes (source target : Shape)
  /-- Is the member below some member of the target? -/
  | anyOf (member : Member) (target : Shape)
  | members (member other : Member)
  /-- Is every required field accepted by the fields of a record? -/
  | records (fields required : List (Spelling × Shape))
  /-- Has some field the label and a shape below the given one? -/
  | field (fields : List (Spelling × Shape)) (label : Spelling) (shape : Shape)

namespace Question

/-- Evaluation of a question, with one rule for each form that it can take. -/
inductive Evaluates : Question → Bool → Prop where
  | noMember (target : Shape) : Evaluates (shapes [] target) true
  | eachMember {member : Member} {rest target : Shape} {first others : Bool}
      (firstAnswered : Evaluates (anyOf member target) first)
      (othersAnswered : Evaluates (shapes rest target) others) :
      Evaluates (shapes (member :: rest) target) (first && others)
  | noOther (member : Member) : Evaluates (anyOf member []) false
  | someOther {member other : Member} {rest : Shape} {first others : Bool}
      (firstAnswered : Evaluates (members member other) first)
      (othersAnswered : Evaluates (anyOf member rest) others) :
      Evaluates (anyOf member (other :: rest)) (first || others)
  | kinds (left right : Kind) :
      Evaluates (members (.kind left) (.kind right)) (Kind.same left right)
  | kindAgainstRecord (left : Kind) (required : List (Spelling × Shape)) :
      Evaluates (members (.kind left) (.record required)) false
  | recordAgainstKind (fields : List (Spelling × Shape)) (right : Kind) :
      Evaluates (members (.record fields) (.kind right)) false
  | recordAgainstRecord {fields required : List (Spelling × Shape)} {answer : Bool}
      (answered : Evaluates (records fields required) answer) :
      Evaluates (members (.record fields) (.record required)) answer
  | noRequired (fields : List (Spelling × Shape)) : Evaluates (records fields []) true
  | eachRequired {fields rest : List (Spelling × Shape)} {label : Spelling} {shape : Shape}
      {first others : Bool} (firstAnswered : Evaluates (field fields label shape) first)
      (othersAnswered : Evaluates (records fields rest) others) :
      Evaluates (records fields ((label, shape) :: rest)) (first && others)
  | noField (label : Spelling) (shape : Shape) : Evaluates (field [] label shape) false
  | someField {spelling label : Spelling} {own shape : Shape} {rest : List (Spelling × Shape)}
      {inner others : Bool} (innerAnswered : Evaluates (shapes own shape) inner)
      (othersAnswered : Evaluates (field rest label shape) others) :
      Evaluates (field ((spelling, own) :: rest) label shape)
        ((Spelling.same spelling label && inner) || others)

/-- The answer that the comparison computes. -/
def answer : Question → Bool
  | shapes source target => source.sub target
  | anyOf member target => target.any (fun other => member.sub other)
  | members member other => member.sub other
  | records fields required =>
      required.all (fun field => Fields.accepts fields field.1 field.2)
  | field fields label shape => Fields.accepts fields label shape

theorem Evaluates.eq_answer {question : Question} {result : Bool}
    (evaluates : question.Evaluates result) : question.answer = result := by
  induction evaluates with
  | noMember target => simp [answer, Shape.sub]
  | eachMember _ _ ihFirst ihOthers => simp [← ihFirst, ← ihOthers, answer, Shape.sub]
  | noOther member => rfl
  | someOther _ _ ihFirst ihOthers => simp [← ihFirst, ← ihOthers, answer]
  | kinds left right => simp [answer, Member.sub]
  | kindAgainstRecord left required => simp [answer]
  | recordAgainstKind fields right => simp [answer]
  | recordAgainstRecord _ ih => simp [← ih, answer, Member.sub]
  | noRequired fields => rfl
  | eachRequired _ _ ihFirst ihOthers => simp [← ihFirst, ← ihOthers, answer]
  | noField label shape => simp [answer, Fields.accepts]
  | someField _ _ ihInner ihOthers => simp [← ihInner, ← ihOthers, answer, Fields.accepts]

/-- All members of a shape are compared to their end, whatever they are compared with. -/
def ComparesAll (shape : Shape) : Prop :=
  ∀ member ∈ shape, ∀ other, (members member other).Evaluates (member.sub other)

theorem evaluates_anyOf {member : Member}
    (compares : ∀ other, (members member other).Evaluates (member.sub other)) (target : Shape) :
    (anyOf member target).Evaluates (target.any (fun other => member.sub other)) := by
  induction target with
  | nil => exact .noOther member
  | cons other rest ih => exact .someOther (compares other) ih

theorem ComparesAll.evaluates_shapes {source : Shape} (compares : ComparesAll source)
    (target : Shape) : (shapes source target).Evaluates (source.sub target) := by
  induction source with
  | nil =>
      rw [Shape.sub]
      exact .noMember target
  | cons member rest ih =>
      rw [Shape.sub]
      refine .eachMember (evaluates_anyOf (compares member List.mem_cons_self) target) (ih ?_)
      intro later laterMem
      exact compares later (List.mem_cons_of_mem member laterMem)

theorem evaluates_field {fields : List (Spelling × Shape)}
    (compares : ∀ own ∈ fields, ComparesAll own.2) (label : Spelling) (shape : Shape) :
    (field fields label shape).Evaluates (Fields.accepts fields label shape) := by
  induction fields with
  | nil =>
      rw [Fields.accepts]
      exact .noField label shape
  | cons own rest ih =>
      rw [Fields.accepts]
      refine .someField ((compares own List.mem_cons_self).evaluates_shapes shape) (ih ?_)
      intro later laterMem
      exact compares later (List.mem_cons_of_mem own laterMem)

theorem evaluates_records {fields : List (Spelling × Shape)}
    (compares : ∀ own ∈ fields, ComparesAll own.2) (required : List (Spelling × Shape)) :
    (records fields required).Evaluates (records fields required).answer := by
  induction required with
  | nil => exact .noRequired fields
  | cons field rest ih => exact .eachRequired (evaluates_field compares field.1 field.2) ih

theorem evaluates_members (member other : Member) :
    (members member other).Evaluates (member.sub other) := by
  induction member using Member.inductionOn generalizing other with
  | kind left =>
      cases other with
      | kind right =>
          rw [Member.sub]
          exact .kinds left right
      | record required =>
          rw [Member.kind_sub_record]
          exact .kindAgainstRecord left required
  | record fields ih =>
      cases other with
      | kind right =>
          rw [Member.record_sub_kind]
          exact .recordAgainstKind fields right
      | record required =>
          rw [Member.sub]
          exact .recordAgainstRecord (evaluates_records ih required)

theorem comparesAll (shape : Shape) : ComparesAll shape := by
  intro member memberMem other
  exact evaluates_members member other

/-- Every question has an answer, the one that the comparison computes, and no other. -/
theorem evaluates_iff (question : Question) (result : Bool) :
    question.Evaluates result ↔ question.answer = result := by
  constructor
  · exact Evaluates.eq_answer
  · rintro rfl
    cases question with
    | shapes source target => exact (comparesAll source).evaluates_shapes target
    | anyOf member target => exact evaluates_anyOf (evaluates_members member) target
    | members member other => exact evaluates_members member other
    | records fields required =>
        exact evaluates_records (fun own _ => comparesAll own.2) required
    | field fields label shape =>
        exact evaluates_field (fun own _ => comparesAll own.2) label shape

end Question

namespace Shape

/-- The comparison decides assignability. Evaluation of the question whether one shape is below
another ends with exactly one answer, and the answer is true where the first is assignable to the
second and false where it is not. -/
theorem comparison_decides_assignable (source target : Shape) :
    (∃! result, (Question.shapes source target).Evaluates result) ∧
      (∀ result, (Question.shapes source target).Evaluates result ↔
        source.sub target = result) ∧
      (source.sub target = true ↔ source.Assignable target) ∧
      (source.sub target = false ↔ ¬source.Assignable target) := by
  have answered := (Question.shapes source target).evaluates_iff
  refine ⟨⟨source.sub target, (answered _).mpr rfl, ?_⟩, answered,
    sub_iff_assignable source target, ?_⟩
  · intro result evaluates
    exact ((answered result).mp evaluates).symm
  · rw [← sub_iff_assignable, Bool.not_eq_true]

end Shape

end Conform
