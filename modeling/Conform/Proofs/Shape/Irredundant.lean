import Conform.Proofs.Matching
import Conform.Proofs.Shape.Rearrangement
import Mathlib.Data.List.Nodup
import Mathlib.Data.List.Pairwise

/-!
# Equality of irredundant shapes

A shape is irredundant if, at every depth, no member is assignable to another one of the same list
and no record repeats a label. Between such shapes equality leaves no more freedom than the order
of members and fields.

The reason is the same for members and for fields. An equal shape has a member above each member of
the first, and the first has one above that again, which by irredundance is the member itself. The
two members are therefore equal, and neither has a second partner, so that the members of the two
shapes are matched one to one. In equal records without repeated labels the fields are matched by
their labels. The members of matched shapes are equal again, and the argument goes on inside them.
-/

namespace Conform

mutual

/-- No member is assignable to another one of its list and no record repeats a label, at any depth.
-/
def Shape.isIrredundant : Shape → Bool
  | [] => true
  | member :: rest =>
      rest.all (fun other => !member.sub other && !other.sub member) &&
        (member.isIrredundant && Shape.isIrredundant rest)

def Member.isIrredundant : Member → Bool
  | .kind _ => true
  | .record fields => decide (fields.map Prod.fst).Nodup && Fields.areIrredundant fields

def Fields.areIrredundant : List (Spelling × Shape) → Bool
  | [] => true
  | (_, shape) :: rest => shape.isIrredundant && Fields.areIrredundant rest

end

mutual

/-- The members are the same up to the order of members and fields, at any depth. -/
inductive Member.Permuted : Member → Member → Prop where
  | kind (id : Kind) : Member.Permuted (.kind id) (.kind id)
  | record {fields arranged others : List (Spelling × Shape)}
      (fieldwise : List.Forall₂ Field.Permuted fields arranged)
      (permuted : arranged.Perm others) : Member.Permuted (.record fields) (.record others)

inductive Field.Permuted : Spelling × Shape → Spelling × Shape → Prop where
  | mk (label : Spelling) {shape other : Shape} (inside : Shape.Permuted shape other) :
      Field.Permuted (label, shape) (label, other)

inductive Shape.Permuted : Shape → Shape → Prop where
  | mk {members arranged others : List Member}
      (memberwise : List.Forall₂ Member.Permuted members arranged)
      (permuted : arranged.Perm others) : Shape.Permuted members others

end

theorem Fields.areIrredundant_iff (fields : List (Spelling × Shape)) :
    Fields.areIrredundant fields = true ↔ ∀ field ∈ fields, field.2.isIrredundant = true := by
  induction fields with
  | nil => simp [Fields.areIrredundant]
  | cons field rest ih =>
      rcases field with ⟨label, shape⟩
      simp [Fields.areIrredundant, ih]

theorem Member.record_isIrredundant_iff (fields : List (Spelling × Shape)) :
    (Member.record fields).isIrredundant = true ↔
      (fields.map Prod.fst).Nodup ∧ ∀ field ∈ fields, field.2.isIrredundant = true := by
  simp [Member.isIrredundant, Fields.areIrredundant_iff]

def Member.Incomparable (member other : Member) : Prop :=
  member.sub other = false ∧ other.sub member = false

instance : Std.Symm Member.Incomparable :=
  ⟨fun _ _ neither => ⟨neither.2, neither.1⟩⟩

theorem Shape.isIrredundant_iff (shape : Shape) :
    shape.isIrredundant = true ↔
      shape.Pairwise Member.Incomparable ∧ ∀ member ∈ shape, member.isIrredundant = true := by
  induction shape with
  | nil => simp [Shape.isIrredundant]
  | cons member rest ih =>
      simp only [Shape.isIrredundant, Member.Incomparable, Bool.and_eq_true, List.all_eq_true,
        Bool.not_eq_true', ih, List.pairwise_cons, List.mem_cons, forall_eq_or_imp]
      exact ⟨fun ⟨apart, own, restApart, each⟩ => ⟨⟨apart, restApart⟩, own, each⟩,
        fun ⟨⟨apart, restApart⟩, own, each⟩ => ⟨apart, own, restApart, each⟩⟩

namespace Shape

/-- In an irredundant shape a member is below no member but itself. -/
theorem eq_of_sub {shape : Shape} (irredundant : shape.isIrredundant = true)
    {member other : Member} (memberMem : member ∈ shape) (otherMem : other ∈ shape)
    (below : member.sub other = true) : member = other := by
  by_contra differ
  have incomparable := ((isIrredundant_iff shape).mp irredundant).1.forall memberMem otherMem differ
  rw [incomparable.1] at below
  cases below

theorem exists_equal_member {shape other : Shape} (irredundant : shape.isIrredundant = true)
    (equal : shape.Equal other) :
    ∀ member ∈ shape, ∃ partner ∈ other, member.Equal partner := by
  intro member memberMem
  rcases (sub_iff shape other).mp equal.1 member memberMem with ⟨partner, partnerMem, up⟩
  rcases (sub_iff other shape).mp equal.2 partner partnerMem with ⟨third, thirdMem, upAgain⟩
  have same : member = third :=
    eq_of_sub irredundant memberMem thirdMem (Member.sub_trans up upAgain)
  exact ⟨partner, partnerMem, up, same ▸ upAgain⟩

theorem partnersApart {shape : Shape} (irredundant : shape.isIrredundant = true) :
    PartnersApart Member.Equal shape := by
  apply ((isIrredundant_iff shape).mp irredundant).1.imp
  intro member other incomparable partner equal otherEqual
  have below := Member.sub_trans equal.1 otherEqual.2
  rw [incomparable.1] at below
  cases below

theorem permuted_of_equal_of_members {shape other : Shape}
    (irredundant : shape.isIrredundant = true) (otherIrredundant : other.isIrredundant = true)
    (equal : shape.Equal other)
    (inside : ∀ member ∈ shape, ∀ partner, member.isIrredundant = true →
      partner.isIrredundant = true → member.Equal partner → member.Permuted partner) :
    shape.Permuted other := by
  rcases exists_matching (exists_equal_member irredundant equal)
    (exists_equal_member otherIrredundant equal.symm) (partnersApart irredundant)
    (partnersApart otherIrredundant) with ⟨arranged, pairs, permuted⟩
  refine Permuted.mk ?_ permuted
  apply forall₂_imp_of_mem pairs
  intro member memberMem partner partnerMem both
  apply inside member memberMem partner
  · exact ((isIrredundant_iff shape).mp irredundant).2 member memberMem
  · exact ((isIrredundant_iff other).mp otherIrredundant).2 partner (permuted.mem_iff.mp partnerMem)
  · exact both

theorem Permuted.equal_of_members {shape other : Shape} (permuted : shape.Permuted other)
    (inside : ∀ member ∈ shape, ∀ partner, member.Permuted partner → member.Equal partner) :
    shape.Equal other := by
  cases permuted with
  | mk memberwise permuted =>
      rcases exists_partners memberwise permuted with ⟨partners, otherPartners⟩
      constructor
      · rw [sub_iff]
        intro member memberMem
        rcases partners member memberMem with ⟨partner, partnerMem, pair⟩
        exact ⟨partner, partnerMem, (inside member memberMem partner pair).1⟩
      · rw [sub_iff]
        intro partner partnerMem
        rcases otherPartners partner partnerMem with ⟨member, memberMem, pair⟩
        exact ⟨member, memberMem, (inside member memberMem partner pair).2⟩

end Shape

namespace Member

def FieldEqual (field other : Spelling × Shape) : Prop :=
  field.1 = other.1 ∧ field.2.Equal other.2

instance : Std.Symm FieldEqual := ⟨fun _ _ equal => ⟨equal.1.symm, equal.2.symm⟩⟩

theorem fields_partnersApart {fields : List (Spelling × Shape)}
    (distinct : (fields.map Prod.fst).Nodup) : PartnersApart FieldEqual fields := by
  apply (List.pairwise_map.mp distinct).imp
  intro field other differ partner equal otherEqual
  exact differ (equal.1.trans otherEqual.1.symm)

theorem exists_equal_field {fields others : List (Spelling × Shape)}
    (distinct : (fields.map Prod.fst).Nodup) (equal : (record fields).Equal (record others)) :
    ∀ field ∈ fields, ∃ partner ∈ others, FieldEqual field partner := by
  intro field fieldMem
  rcases (record_sub_record others fields).mp equal.2 field fieldMem with
    ⟨partner, partnerMem, partnerLabel, down⟩
  rcases (record_sub_record fields others).mp equal.1 partner partnerMem with
    ⟨own, ownMem, ownLabel, up⟩
  have same : own = field :=
    List.inj_on_of_nodup_map distinct ownMem fieldMem (ownLabel.trans partnerLabel)
  exact ⟨partner, partnerMem, partnerLabel.symm, same ▸ up, down⟩

theorem permuted_of_equal {member other : Member} (irredundant : member.isIrredundant = true)
    (otherIrredundant : other.isIrredundant = true) (equal : member.Equal other) :
    member.Permuted other := by
  induction member using inductionOn generalizing other with
  | kind id =>
      cases other with
      | kind otherId =>
          have same : id = otherId := (kind_sub_kind id otherId).mp equal.1
          subst same
          exact Permuted.kind id
      | record others =>
          have below := equal.1
          simp at below
  | record fields ih =>
      cases other with
      | kind id =>
          have below := equal.1
          simp at below
      | record others =>
          rcases (record_isIrredundant_iff fields).mp irredundant with ⟨distinct, inside⟩
          rcases (record_isIrredundant_iff others).mp otherIrredundant with
            ⟨othersDistinct, othersInside⟩
          rcases exists_matching (exists_equal_field distinct equal)
            (exists_equal_field othersDistinct equal.symm) (fields_partnersApart distinct)
            (fields_partnersApart othersDistinct) with ⟨arranged, pairs, permuted⟩
          refine Permuted.record ?_ permuted
          apply forall₂_imp_of_mem pairs
          rintro ⟨label, shape⟩ fieldMem ⟨otherLabel, otherShape⟩ partnerMem ⟨sameLabel, both⟩
          cases sameLabel
          -- The shapes of matched fields are equal and irredundant again, so that the induction
          -- goes on with the members inside of them.
          apply Field.Permuted.mk
          apply Shape.permuted_of_equal_of_members (inside _ fieldMem)
            (othersInside _ (permuted.mem_iff.mp partnerMem)) both
          intro inner innerMem partner innerIrredundant partnerIrredundant innerEqual
          exact ih _ fieldMem inner innerMem innerIrredundant partnerIrredundant innerEqual

theorem Permuted.equal {member other : Member} (permuted : member.Permuted other) :
    member.Equal other := by
  induction member using inductionOn generalizing other with
  | kind id =>
      cases permuted with
      | kind => exact ⟨sub_refl _, sub_refl _⟩
  | record fields ih =>
      cases permuted with
      | @record _ arranged others fieldwise permuted =>
          have fieldEqual : List.Forall₂ FieldEqual fields arranged := by
            apply forall₂_imp_of_mem fieldwise
            intro field fieldMem partner _ pair
            cases pair with
            | mk label inside => exact ⟨rfl, inside.equal_of_members (ih _ fieldMem)⟩
          rcases exists_partners fieldEqual permuted with ⟨partners, otherPartners⟩
          constructor
          · rw [record_sub_record]
            intro partner partnerMem
            rcases otherPartners partner partnerMem with ⟨field, fieldMem, sameLabel, both⟩
            exact ⟨field, fieldMem, sameLabel, both.1⟩
          · rw [record_sub_record]
            intro field fieldMem
            rcases partners field fieldMem with ⟨partner, partnerMem, sameLabel, both⟩
            exact ⟨partner, partnerMem, sameLabel.symm, both.2⟩

end Member

namespace Shape

theorem Permuted.equal {shape other : Shape} (permuted : shape.Permuted other) :
    shape.Equal other :=
  permuted.equal_of_members (fun _ _ _ pair => pair.equal)

/-- Between irredundant shapes equality is the order of members and fields. -/
theorem equal_iff_permuted {shape other : Shape} (irredundant : shape.isIrredundant = true)
    (otherIrredundant : other.isIrredundant = true) :
    shape.Equal other ↔ shape.Permuted other := by
  constructor
  · intro equal
    apply permuted_of_equal_of_members irredundant otherIrredundant equal
    intro member _ partner memberIrredundant partnerIrredundant both
    exact Member.permuted_of_equal memberIrredundant partnerIrredundant both
  · exact Permuted.equal

/-- What equality identifies. A rearranged shape is equal to the shape it comes from and can replace
it on either side of a comparison. On irredundant shapes equality is the order of members and
fields, and nothing else. -/
theorem equal_identifies :
    (∀ shape other : Shape, shape.Rearranges other →
        shape.sub other = true ∧ other.sub shape = true ∧
          ∀ third : Shape, shape.sub third = other.sub third ∧
            third.sub shape = third.sub other) ∧
      ∀ shape other : Shape, shape.isIrredundant = true → other.isIrredundant = true →
        (shape.sub other = true ∧ other.sub shape = true ↔ shape.Permuted other) := by
  constructor
  · intro shape other rearranged
    have equal := rearranged.equal
    exact ⟨equal.1, equal.2, equal.sub_congr⟩
  · intro shape other irredundant otherIrredundant
    exact equal_iff_permuted irredundant otherIrredundant

/-- A name or a point of which one coordinate is optional. -/
def place : Shape :=
  [.kind 18,
    .record [(Spelling.ofText "x", [.kind 0, .kind 16]), (Spelling.ofText "y", [.kind 16])]]

/-- The same place with every list turned around. -/
def turnedPlace : Shape :=
  [.record [(Spelling.ofText "y", [.kind 16]), (Spelling.ofText "x", [.kind 16, .kind 0])],
    .kind 18]

/-- The same place with the name, the optional coordinate and its absence given twice. -/
def repeatedPlace : Shape :=
  let coordinate := (Spelling.ofText "x", [Member.kind 0, .kind 0, .kind 16])
  [.record [coordinate, coordinate, (Spelling.ofText "y", [.kind 16])], .kind 18, .kind 18]

theorem place_rearranges : place.Rearranges repeatedPlace := by
  let names : Shape := [.kind 18, .kind 18]
  have named := Rearranges.repeatMember (.kind 18) (place.drop 1)
  have behind : (names ++ place.drop 1).Perm (place.drop 1 ++ names) := List.perm_append_comm
  have absent := Rearranges.repeatMember (.kind 0) [.kind 16]
  have inside := Rearranges.insideField (Spelling.ofText "x") absent
    [(Spelling.ofText "y", [.kind 16])] names
  exact named.trans ((Rearranges.permuteMembers behind).trans
    (inside.trans (Rearranges.repeatField _ _ _)))

theorem place_identified :
    place.Rearranges repeatedPlace ∧ place.isIrredundant = true ∧
      turnedPlace.isIrredundant = true ∧ place.sub repeatedPlace = true ∧
      repeatedPlace.sub place = true ∧
      (∀ third : Shape, place.sub third = repeatedPlace.sub third ∧
        third.sub place = third.sub repeatedPlace) ∧
      place.Permuted turnedPlace := by
  have identified := equal_identifies.1 place repeatedPlace place_rearranges
  refine ⟨place_rearranges, by decide, by decide, identified.1, identified.2.1, identified.2.2, ?_⟩
  apply (equal_identifies.2 place turnedPlace (by decide) (by decide)).mp
  exact ⟨by decide, by decide⟩

end Shape

end Conform
