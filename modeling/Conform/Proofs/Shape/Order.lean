import Conform.Shape.Basic

/-!
# Assignability as an order on shapes

The comparison of shapes runs through lists: over the members of the first shape, over the members
of the second, over the fields of the required record and over those of the given one. This file
says once what each of these runs decides, in terms of membership, and then forgets the lists.

Assignability is reflexive and transitive on all shapes. Labels may repeat within a record and
members within a shape: a required field only asks for some field of the same label, so both laws
go by induction over the first member, with the others arbitrary.
-/

namespace Conform

namespace Member

/-- Induction over members, with the claim for every member of every field of a record. -/
@[elab_as_elim]
theorem inductionOn {motive : Member → Prop} (member : Member)
    (kind : ∀ id, motive (.kind id))
    (record : ∀ fields : List (Spelling × Shape),
      (∀ field ∈ fields, ∀ inner ∈ field.2, motive inner) → motive (.record fields)) :
    motive member :=
  match member with
  | .kind id => kind id
  | .record fields =>
      record fields (fun field _ inner _ => inductionOn inner kind record)
termination_by sizeOf member
decreasing_by
  rename_i fieldMem innerMem
  have fieldSmaller := List.sizeOf_lt_of_mem fieldMem
  have innerSmaller := List.sizeOf_lt_of_mem innerMem
  cases field
  simp only [Prod.mk.sizeOf_spec, Member.record.sizeOf_spec] at *
  omega

end Member

theorem Fields.accepts_iff (fields : List (Spelling × Shape)) (label : Spelling) (target : Shape) :
    Fields.accepts fields label target = true ↔
      ∃ field ∈ fields, field.1 = label ∧ Shape.sub field.2 target = true := by
  induction fields with
  | nil => simp [Fields.accepts]
  | cons field rest ih =>
      rcases field with ⟨spelling, shape⟩
      simp [Fields.accepts, ih]

namespace Shape

theorem sub_iff (source target : Shape) :
    source.sub target = true ↔
      ∀ member ∈ source, ∃ other ∈ target, member.sub other = true := by
  induction source with
  | nil => simp [sub]
  | cons member rest ih => simp [sub, ih]

end Shape

namespace Member

@[simp]
theorem kind_sub_kind (left right : Kind) :
    (kind left).sub (kind right) = true ↔ left = right := by
  simp [sub]

theorem record_sub_record (fields required : List (Spelling × Shape)) :
    (record fields).sub (record required) = true ↔
      ∀ field ∈ required, ∃ own ∈ fields, own.1 = field.1 ∧ Shape.sub own.2 field.2 = true := by
  simp [sub, Fields.accepts_iff]

@[simp]
theorem kind_sub_record (id : Kind) (fields : List (Spelling × Shape)) :
    (kind id).sub (record fields) = false := by
  simp [sub]

@[simp]
theorem record_sub_kind (fields : List (Spelling × Shape)) (id : Kind) :
    (record fields).sub (kind id) = false := by
  simp [sub]

theorem sub_refl (member : Member) : member.sub member = true := by
  induction member using inductionOn with
  | kind id => simp
  | record fields ih =>
      rw [record_sub_record]
      intro field fieldMem
      refine ⟨field, fieldMem, rfl, ?_⟩
      rw [Shape.sub_iff]
      intro inner innerMem
      exact ⟨inner, innerMem, ih field fieldMem inner innerMem⟩

theorem sub_trans {first second third : Member} (lower : first.sub second = true)
    (upper : second.sub third = true) : first.sub third = true := by
  induction first using inductionOn generalizing second third with
  | kind id =>
      cases second with
      | record required => simp at lower
      | kind middle =>
          rw [kind_sub_kind] at lower
          subst lower
          exact upper
  | record fields ih =>
      cases second with
      | kind middle => simp at lower
      | record middle =>
          cases third with
          | kind last => simp at upper
          | record required =>
              rw [record_sub_record] at lower upper ⊢
              intro field fieldMem
              rcases upper field fieldMem with ⟨between, betweenMem, upperLabel, upperShape⟩
              rcases lower between betweenMem with ⟨own, ownMem, lowerLabel, lowerShape⟩
              refine ⟨own, ownMem, lowerLabel.trans upperLabel, ?_⟩
              -- The members of the own field are the smaller ones the induction speaks about.
              rw [Shape.sub_iff] at lowerShape upperShape ⊢
              intro inner innerMem
              rcases lowerShape inner innerMem with ⟨meet, meetMem, innerMeet⟩
              rcases upperShape meet meetMem with ⟨outer, outerMem, meetOuter⟩
              exact ⟨outer, outerMem, ih own ownMem inner innerMem innerMeet meetOuter⟩

end Member

namespace Shape

/-- Every shape is assignable to itself. -/
@[simp]
theorem sub_refl (shape : Shape) : shape.sub shape = true := by
  rw [sub_iff]
  intro member memberMem
  exact ⟨member, memberMem, Member.sub_refl member⟩

/-- Assignability of shapes is transitive. -/
theorem sub_trans {first second third : Shape} (lower : first.sub second = true)
    (upper : second.sub third = true) : first.sub third = true := by
  rw [sub_iff] at lower upper ⊢
  intro member memberMem
  rcases lower member memberMem with ⟨between, betweenMem, memberBetween⟩
  rcases upper between betweenMem with ⟨other, otherMem, betweenOther⟩
  exact ⟨other, otherMem, Member.sub_trans memberBetween betweenOther⟩

end Shape

end Conform
