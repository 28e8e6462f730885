import Conform.Proofs.Ty.Reading
import Mathlib.Data.List.Pairwise

/-!
# Unambiguous types

Written values do not say on which side of a union they were written, so reading has to find the
side by itself. In an unambiguous type it cannot go wrong: at every union, and at every optional
type as a union with the unit type, no value written on one side is read on the other.

The condition is stated at the unions but used at the branches, of which any two differ at some
union. As no value is written by one branch and read by another, a value that was written by a
branch is read by that branch alone, and the order in which branches are tried does not matter.
-/

namespace Conform

namespace Ty

/-- No value that a datum of one of the types is written as is read by the other. -/
def Separate (left right : Ty) : Prop :=
  (∀ datum, left.admits datum = true → ¬right.Reads datum.write) ∧
    ∀ datum, right.admits datum = true → ¬left.Reads datum.write

/-- The sides of a union are separate. -/
def SidesSeparate : Ty → Prop
  | union left right => Separate left right
  | option payload => Separate (primitive .unit) payload
  | _ => True

/-- The sides of every union in the type are separate. -/
def Unambiguous (type : Ty) : Prop := type.Everywhere SidesSeparate

theorem Separate.symm {left right : Ty} (separate : Separate left right) : Separate right left :=
  ⟨separate.2, separate.1⟩

theorem separate_primitive {left right : Primitive} (differ : left ≠ right) :
    Separate (primitive left) (primitive right) := by
  constructor
  · intro datum admitted reads
    rcases (admits_primitive_iff left datum).mp admitted with ⟨content, isLeft, rfl⟩
    rcases (reads_primitive_iff right _).mp reads with ⟨other, isRight, same⟩
    cases same
    exact differ (isLeft.symm.trans isRight)
  · intro datum admitted reads
    rcases (admits_primitive_iff right datum).mp admitted with ⟨content, isRight, rfl⟩
    rcases (reads_primitive_iff left _).mp reads with ⟨other, isLeft, same⟩
    cases same
    exact differ (isLeft.symm.trans isRight)

theorem Separate.branches {left right : Ty} (separate : Separate left right)
    {branch other : Branch} (branchMem : branch ∈ left.branches)
    (otherMem : other ∈ right.branches) : Separate branch.leaf.type other.leaf.type := by
  constructor
  · intro datum own reads
    have admitted := (admits_iff left _).mpr ⟨branch, branchMem, datum, own, rfl⟩
    apply separate.1 _ admitted
    rw [write_inject branchMem own]
    exact (reads_iff right _).mpr ⟨other, otherMem, reads⟩
  · intro datum own reads
    have admitted := (admits_iff right _).mpr ⟨other, otherMem, datum, own, rfl⟩
    apply separate.2 _ admitted
    rw [write_inject otherMem own]
    exact (reads_iff left _).mpr ⟨branch, branchMem, reads⟩

theorem Unambiguous.pairwise_separate {type : Ty} (unambiguous : type.Unambiguous) :
    type.branches.Pairwise (fun branch other => Separate branch.leaf.type other.leaf.type) := by
  induction type using inductionOn with
  | primitive type => simp [branches]
  | never => simp [branches]
  | union left right ihLeft ihRight =>
      have separate : Separate left right := unambiguous _ (mem_nodes_self _)
      have leftPairs := ihLeft (unambiguous.of_mem_nodes (left_mem_nodes left right))
      have rightPairs := ihRight (unambiguous.of_mem_nodes (right_mem_nodes left right))
      apply List.pairwise_append.mpr
      refine ⟨List.pairwise_map.mpr leftPairs, List.pairwise_map.mpr rightPairs, ?_⟩
      intro branch branchMem other otherMem
      rcases List.mem_map.mp branchMem with ⟨leftBranch, leftMem, rfl⟩
      rcases List.mem_map.mp otherMem with ⟨rightBranch, rightMem, rfl⟩
      rw [Branch.extend_leaf, Branch.extend_leaf]
      exact separate.branches leftMem rightMem
  | option payload ih =>
      have separate : Separate (primitive .unit) payload := unambiguous _ (mem_nodes_self _)
      have payloadPairs := ih (unambiguous.of_mem_nodes (payload_mem_nodes payload))
      apply List.pairwise_cons.mpr
      refine ⟨?_, List.pairwise_map.mpr payloadPairs⟩
      intro other otherMem
      rcases List.mem_map.mp otherMem with ⟨present, presentMem, rfl⟩
      have unitMem : ⟨[], .primitive .unit⟩ ∈ (primitive .unit).branches := by simp [branches]
      have unitSeparate := separate.branches unitMem presentMem
      exact unitSeparate
  | record name fields ih => simp [branches]

/-- A value written by a branch of an unambiguous type is read by no other branch of it. -/
theorem Unambiguous.eq_of_reads {type : Ty} (unambiguous : type.Unambiguous)
    {branch other : Branch} (branchMem : branch ∈ type.branches)
    (otherMem : other ∈ type.branches) {datum : Datum}
    (own : branch.leaf.type.admits datum = true) (reads : other.leaf.type.Reads datum.write) :
    other = branch := by
  by_contra differ
  have symmetric : Std.Symm (fun branch other : Branch =>
      Separate branch.leaf.type other.leaf.type) := ⟨fun _ _ separate => separate.symm⟩
  have separate := unambiguous.pairwise_separate.forall branchMem otherMem (Ne.symm differ)
  exact separate.1 datum own reads

/-- In an unambiguous type, a value that a branch reads as a datum is read as this datum, as soon
as the datum is written as the value up to the order of fields. -/
theorem Unambiguous.read?_eq {type : Ty} (unambiguous : type.Unambiguous) {branch : Branch}
    (branchMem : branch ∈ type.branches) {value : Value} {content : Datum}
    (reading : branch.leaf.type.read? value = some content)
    (reordered : value.Reordered content.write) :
    type.read? value = some (branch.inject content) := by
  have own := read?_admits reading
  have branchReads : (type.read? value).isSome := by
    apply (reads_iff type value).mpr
    exact ⟨branch, branchMem, by simp [Reads, reading]⟩
  rcases Option.isSome_iff_exists.mp branchReads with ⟨datum, typeReading⟩
  rw [typeReading]
  rw [read?_eq_findSome?] at typeReading
  rcases List.exists_of_findSome?_eq_some typeReading with ⟨first, firstMem, firstReading⟩
  rcases Option.map_eq_some_iff.mp firstReading with ⟨firstContent, leafReading, rfl⟩
  have same : first = branch := by
    apply unambiguous.eq_of_reads branchMem firstMem own
    unfold Reads
    rw [← read?_reordered reordered, leafReading]
    rfl
  subst first
  rw [reading] at leafReading
  cases leafReading
  rfl

/-- An unambiguous type reads back each of its data from what it is written as. -/
theorem Unambiguous.read?_write {type : Ty} (unambiguous : type.Unambiguous)
    (distinct : type.LabelsDistinct) {datum : Datum} (admitted : type.admits datum = true) :
    type.read? datum.write = some datum := by
  induction type using branchInduction generalizing datum with
  | step type ih =>
      rcases (admits_iff type datum).mp admitted with ⟨branch, branchMem, content, own, rfl⟩
      rw [write_inject branchMem own]
      apply unambiguous.read?_eq branchMem _ (Value.Reordered.refl _)
      rcases admits_leaf_inversion own with
        ⟨scalar, isPrimitive, rfl⟩ | ⟨name, data, isRecord, rfl, entries⟩
      · simp [isPrimitive, Leaf.type, Datum.write, read?]
      · have reading : readFields? branch.leaf.fields (Datum.record data).write = some data := by
          apply readFields?_write (distinct.nodup_fields branchMem)
          apply forall₂_imp_of_mem entries
          rintro field fieldMem entry _ ⟨sameLabel, fieldAdmits⟩
          refine ⟨sameLabel, ?_⟩
          exact ih branch branchMem field fieldMem (unambiguous.of_mem_fields branchMem fieldMem)
            (distinct.of_mem_fields branchMem fieldMem) fieldAdmits
        rw [isRecord]
        simp [Leaf.type, read?, reading]

end Ty

end Conform
