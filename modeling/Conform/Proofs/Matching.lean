import Mathlib.Data.List.Forall2

/-!
# Lists matched with each other

Two lists are often compared entry by entry: the fields of a record with those of its datum, the
members of a shape with those of an equal one. Where the lists are walked in step, the pairs are
given by `List.Forall₂`. Where the order of the second list is free, the pairs have to be found, and
they can be if each entry has a partner on the other side and no two entries share one.
-/

namespace Conform

theorem exists_mem_of_forall₂ {First Second : Type} {related : First → Second → Prop}
    {firsts : List First} {seconds : List Second} (pairs : List.Forall₂ related firsts seconds) :
    ∀ first ∈ firsts, ∃ second ∈ seconds, related first second := by
  induction pairs with
  | nil => simp
  | cons head tail ih =>
      intro first firstMem
      rcases List.mem_cons.mp firstMem with rfl | restMem
      · exact ⟨_, List.mem_cons_self, head⟩
      · rcases ih first restMem with ⟨second, secondMem, holds⟩
        exact ⟨second, List.mem_cons_of_mem _ secondMem, holds⟩

theorem exists_forall₂ {First Second : Type} {related : First → Second → Prop}
    {firsts : List First} (each : ∀ first ∈ firsts, ∃ second, related first second) :
    ∃ seconds, List.Forall₂ related firsts seconds := by
  induction firsts with
  | nil => exact ⟨[], List.Forall₂.nil⟩
  | cons first rest ih =>
      rcases each first List.mem_cons_self with ⟨second, holds⟩
      rcases ih (fun other otherMem => each other (List.mem_cons_of_mem _ otherMem)) with
        ⟨seconds, pairs⟩
      exact ⟨second :: seconds, List.Forall₂.cons holds pairs⟩

/-- A relation between two lists may be replaced by one that follows from it for the members of
the lists. -/
theorem forall₂_imp_of_mem {First Second : Type} {weaker stronger : First → Second → Prop}
    {firsts : List First} {seconds : List Second} (pairs : List.Forall₂ stronger firsts seconds)
    (implies : ∀ first ∈ firsts, ∀ second ∈ seconds,
      stronger first second → weaker first second) :
    List.Forall₂ weaker firsts seconds := by
  induction pairs with
  | nil => exact List.Forall₂.nil
  | cons head tail ih =>
      apply List.Forall₂.cons
      · exact implies _ List.mem_cons_self _ List.mem_cons_self head
      · apply ih
        intro first firstMem second secondMem
        exact implies first (List.mem_cons_of_mem _ firstMem) second
          (List.mem_cons_of_mem _ secondMem)

/-- The entries of matched lists have partners on the other side, whatever the order is. -/
theorem exists_partners {First Second : Type} {related : First → Second → Prop}
    {firsts : List First} {arranged seconds : List Second}
    (pairs : List.Forall₂ related firsts arranged) (permuted : arranged.Perm seconds) :
    (∀ first ∈ firsts, ∃ second ∈ seconds, related first second) ∧
      ∀ second ∈ seconds, ∃ first ∈ firsts, related first second := by
  constructor
  · intro first firstMem
    rcases exists_mem_of_forall₂ pairs first firstMem with ⟨second, secondMem, holds⟩
    exact ⟨second, permuted.mem_iff.mp secondMem, holds⟩
  · intro second secondMem
    exact exists_mem_of_forall₂ pairs.flip second (permuted.mem_iff.mpr secondMem)

/-- No two entries of the list are related to the same item. -/
def PartnersApart {Item : Type} (related : Item → Item → Prop) (items : List Item) : Prop :=
  items.Pairwise (fun item other => ∀ partner, related item partner → ¬related other partner)

/-- Two lists can be matched one to one if each entry of either has a partner in the other and
entries of one list never have a partner in common. -/
theorem exists_matching {Item : Type} {related : Item → Item → Prop} [Std.Symm related]
    {firsts seconds : List Item}
    (firstsMatched : ∀ first ∈ firsts, ∃ second ∈ seconds, related first second)
    (secondsMatched : ∀ second ∈ seconds, ∃ first ∈ firsts, related second first)
    (firstsApart : PartnersApart related firsts) (secondsApart : PartnersApart related seconds) :
    ∃ arranged, List.Forall₂ related firsts arranged ∧ arranged.Perm seconds := by
  induction firsts generalizing seconds with
  | nil =>
      have empty : seconds = [] := by
        apply List.eq_nil_iff_forall_not_mem.mpr
        intro second secondMem
        rcases secondsMatched second secondMem with ⟨first, firstMem, _⟩
        exact List.not_mem_nil firstMem
      exact ⟨[], List.Forall₂.nil, empty ▸ List.Perm.nil⟩
  | cons first rest ih =>
      rcases List.pairwise_cons.mp firstsApart with ⟨firstApart, restApart⟩
      rcases firstsMatched first List.mem_cons_self with ⟨partner, partnerMem, holds⟩
      -- The partner is taken out of the second list. No other entry is related to it, so what is
      -- left of the lists is matched by induction.
      rcases List.append_of_mem partnerMem with ⟨before, after, rfl⟩
      have toFront : (before ++ partner :: after).Perm (partner :: (before ++ after)) :=
        List.perm_middle
      have frontApart : PartnersApart related (partner :: (before ++ after)) :=
        (toFront.pairwise_iff (fun apart third isSecond isFirst =>
          apart third isFirst isSecond)).mp secondsApart
      rcases List.pairwise_cons.mp frontApart with ⟨partnerApart, othersApart⟩
      have restMatched : ∀ other ∈ rest, ∃ second ∈ before ++ after, related other second := by
        intro other otherMem
        rcases firstsMatched other (List.mem_cons_of_mem _ otherMem) with
          ⟨second, secondMem, otherHolds⟩
        rcases List.mem_cons.mp (toFront.mem_iff.mp secondMem) with rfl | othersMem
        · exact absurd otherHolds (firstApart other otherMem second holds)
        · exact ⟨second, othersMem, otherHolds⟩
      have othersMatched : ∀ second ∈ before ++ after, ∃ other ∈ rest, related second other := by
        intro second secondMem
        rcases secondsMatched second
          (toFront.mem_iff.mpr (List.mem_cons_of_mem _ secondMem)) with
          ⟨other, otherMem, secondHolds⟩
        rcases List.mem_cons.mp otherMem with rfl | restMem
        · exact absurd secondHolds (partnerApart second secondMem other (symm holds))
        · exact ⟨other, restMem, secondHolds⟩
      rcases ih restMatched othersMatched restApart othersApart with ⟨arranged, pairs, permuted⟩
      exact ⟨partner :: arranged, List.Forall₂.cons holds pairs,
        (permuted.cons partner).trans toFront.symm⟩

end Conform
