import Conform.Proofs.Relation.Bounds
import Conform.Proofs.Shape.Rearrangement

/-!
# Types in a context

A context is a type with a hole, under unions, optional types and fields of records at any depth.
Filling the hole is monotone: each layer of the context keeps the order of assignability, and a
context is one layer around another. Equal types can therefore stand for each other anywhere in a
type without changing how it relates to any other type.

Unions may absorb a difference in the hole. Under fields alone nothing gets lost, and the order of
the filled types is the order in the hole.
-/

namespace Conform

/-- A type with a hole. -/
inductive Context where
  | hole
  | unionLeft (context : Context) (right : Ty)
  | unionRight (left : Ty) (context : Context)
  | option (payload : Context)
  | field (name : String) (before : List (Label × Ty)) (label : Label) (context : Context)
      (after : List (Label × Ty))

namespace Context

/-- The type in which the hole is replaced by the given type. -/
def fill : Context → Ty → Ty
  | hole, type => type
  | unionLeft context right, type => .union (context.fill type) right
  | unionRight left context, type => .union left (context.fill type)
  | option payload, type => .option (payload.fill type)
  | field name before label context after, type =>
      .record name (before ++ (label, context.fill type) :: after)

/-- The hole is reached through fields only, each of a label that its record does not repeat. -/
def IsPath : Context → Prop
  | hole => True
  | unionLeft _ _ => False
  | unionRight _ _ => False
  | option _ => False
  | field _ before label context after =>
      (∀ other ∈ before ++ after, other.1.id ≠ label.id) ∧ context.IsPath

end Context

namespace Ty

theorem record_mono (name : String) (before : List (Label × Ty)) (label : Label) {type other : Ty}
    (below : type ≤ other) (after : List (Label × Ty)) :
    record name (before ++ (label, type) :: after) ≤
      record name (before ++ (label, other) :: after) := by
  apply (record_le_iff _ _ _ _).mpr
  intro field fieldMem
  rcases List.mem_append.mp fieldMem with beforeMem | restMem
  · exact ⟨field, List.mem_append_left _ beforeMem, rfl, le_refl _⟩
  · rcases List.mem_cons.mp restMem with rfl | afterMem
    · exact ⟨(label, type), by simp, rfl, below⟩
    · exact ⟨field, by simp [afterMem], rfl, le_refl _⟩

/-- A field of a label that is not repeated can only be met by the field in its place. -/
theorem le_of_record_le {name : String} {before after : List (Label × Ty)} {label : Label}
    {type other : Ty} (single : ∀ field ∈ before ++ after, field.1.id ≠ label.id)
    (below : record name (before ++ (label, type) :: after) ≤
      record name (before ++ (label, other) :: after)) : type ≤ other := by
  rcases (record_le_iff _ _ _ _).mp below (label, other) (by simp) with
    ⟨own, ownMem, sameId, ownBelow⟩
  rcases List.mem_append.mp ownMem with beforeMem | restMem
  · exact absurd sameId (single own (List.mem_append_left _ beforeMem))
  · rcases List.mem_cons.mp restMem with rfl | afterMem
    · exact ownBelow
    · exact absurd sameId (single own (List.mem_append_right _ afterMem))

/-- Equal types have the same verdict with every type, on either side. -/
theorem relate_congr {first second : Ty} (up : first ≤ second) (down : second ≤ first)
    (other : Ty) :
    first.relate other = second.relate other ∧ other.relate first = other.relate second := by
  have equal : first.shape.Equal second.shape := ⟨up, down⟩
  rcases equal.sub_congr other.shape with ⟨sameBelow, sameAbove⟩
  constructor
  · rw [relate, relate, sameBelow, sameAbove]
  · rw [relate, relate, sameBelow, sameAbove]

end Ty

namespace Context

theorem fill_mono (context : Context) {first second : Ty} (below : first ≤ second) :
    context.fill first ≤ context.fill second := by
  induction context with
  | hole => exact below
  | unionLeft context right ih => exact Ty.union_mono ih (le_refl right)
  | unionRight left context ih => exact Ty.union_mono (le_refl left) ih
  | option payload ih => exact Ty.option_mono ih
  | field name before label context after ih => exact Ty.record_mono name before label ih after

theorem le_of_fill_le {context : Context} (path : context.IsPath) {first second : Ty}
    (below : context.fill first ≤ context.fill second) : first ≤ second := by
  induction context with
  | hole => exact below
  | unionLeft context right _ => cases path
  | unionRight left context _ => cases path
  | option payload _ => cases path
  | field name before label context after ih =>
      exact ih path.2 (Ty.le_of_record_le path.1 below)

/-- Assignability passes through every context, and through a path of fields also back. Types that
are equal in the hole make equal types, which get the same verdict with every type on either side.
-/
theorem assignability_congruence (context : Context) (first second : Ty) :
    ((first.relate second).subtype = true →
        ((context.fill first).relate (context.fill second)).subtype = true) ∧
      (context.IsPath → ((context.fill first).relate (context.fill second)).subtype = true →
        (first.relate second).subtype = true) ∧
      ((first.relate second).equal = true → ∀ other : Ty,
        (context.fill first).relate other = (context.fill second).relate other ∧
          other.relate (context.fill first) = other.relate (context.fill second)) := by
  refine ⟨context.fill_mono, ?_, ?_⟩
  · intro path below
    exact le_of_fill_le path below
  · intro equal other
    rcases (Ty.equal_iff first second).mp equal with ⟨up, down⟩
    exact Ty.relate_congr (context.fill_mono up) (context.fill_mono down) other

/-- An optional record, in a field of which the hole stands beside a text. -/
def parcel : Context :=
  .option (.field "Parcel" [(⟨"urgent"⟩, .primitive .bool)] ⟨"owner"⟩
    (.unionRight (.primitive .string) .hole) [])

/-- A record in a field of which the hole stands alone. -/
def ticket : Context := .field "Ticket" [(⟨"seat"⟩, .primitive .char)] ⟨"holder"⟩ .hole []

theorem parcel_of_person_assignable :
    (Ty.person.relate Ty.named).subtype = true ∧
      ((parcel.fill Ty.person).relate (parcel.fill Ty.named)).subtype = true ∧
      ticket.IsPath ∧
      ((ticket.fill Ty.passenger).relate (ticket.fill Ty.named)).subtype = true ∧
      (Ty.passenger.relate Ty.named).subtype = true ∧
      (Ty.person.relate Ty.passenger).equal = true ∧
      ∀ other : Ty, (parcel.fill Ty.person).relate other = (parcel.fill Ty.passenger).relate other ∧
        other.relate (parcel.fill Ty.person) = other.relate (parcel.fill Ty.passenger) := by
  have below : (Ty.person.relate Ty.named).subtype = true := by decide
  have path : ticket.IsPath := ⟨by decide, trivial⟩
  have filled : ((ticket.fill Ty.passenger).relate (ticket.fill Ty.named)).subtype = true := by
    decide
  have equal : (Ty.person.relate Ty.passenger).equal = true := by decide
  refine ⟨below, ?_, path, filled, ?_, equal, ?_⟩
  · exact (assignability_congruence parcel Ty.person Ty.named).1 below
  · exact (assignability_congruence ticket Ty.passenger Ty.named).2.1 path filled
  · exact (assignability_congruence parcel Ty.person Ty.passenger).2.2 equal

end Context

end Conform
