import Conform.Proofs.Relation.Context
import Conform.Proofs.Ty.Exchange

/-!
# The first leaf that reads

However unions and optional types are nested, what they mean is given by the list of their leaves:
the shape has one member for each leaf, in the same order and as often, and a value is read by the
first leaf that reads it, with the turns on the way to this leaf put around the datum.

The list does not depend on how unions are grouped. Two nested unions can be grouped the other way
in any context. Outside of records this leaves every leaf as it is; inside a field it replaces the
record by one of the same member that reads the same values.
-/

namespace Conform

/-- The hole is reached through unions and optional types only. -/
def Context.OutsideRecords : Context → Prop
  | hole => True
  | unionLeft context _ => context.OutsideRecords
  | unionRight _ context => context.OutsideRecords
  | option payload => payload.OutsideRecords
  | field _ _ _ _ _ => False

namespace Ty

/-- The leaves of a type from left to right. -/
def leaves (type : Ty) : List Leaf := type.branches.map Branch.leaf

/-- Which of the leaves read the value. -/
def readers (type : Ty) (value : Value) : List Bool :=
  type.leaves.map (fun leaf => (leaf.type.read? value).isSome)

/-- The place among the leaves of the first one that reads the value. -/
def chosen? (type : Ty) (value : Value) : Option Nat := (type.readers value).findIdx? id

theorem leaves_union (left right : Ty) :
    (union left right).leaves = left.leaves ++ right.leaves := by
  simp [leaves, branches, Function.comp_def]

theorem leaves_option (payload : Ty) :
    (option payload).leaves = .primitive .unit :: payload.leaves := by
  simp [leaves, branches, Function.comp_def]

theorem leaves_record (name : String) (fields : List (Label × Ty)) :
    (record name fields).leaves = [.record name fields] := rfl

theorem readers_union (left right : Ty) (value : Value) :
    (union left right).readers value = left.readers value ++ right.readers value := by
  simp only [readers, leaves_union, List.map_append]

theorem readers_option (payload : Ty) (value : Value) :
    (option payload).readers value =
      ((primitive .unit).read? value).isSome :: payload.readers value := by
  simp only [readers, leaves_option, List.map_cons, Leaf.type]

theorem shape_eq_flatMap_leaves (type : Ty) :
    type.shape = type.leaves.flatMap (fun leaf => leaf.type.shape) := by
  rw [shape_eq_map_branches, leaves, List.flatMap_map]
  simp only [Leaf.shape_type, ← List.map_eq_flatMap]

theorem read?_eq_none_iff (type : Ty) (value : Value) :
    type.read? value = none ↔ ∀ leaf ∈ type.leaves, ¬leaf.type.Reads value := by
  rw [read?_eq_findSome?, List.findSome?_eq_none_iff, leaves, List.forall_mem_map]
  simp only [branch_refuses_iff]

/-- A type reads a value as the datum of its first branch that reads the value. -/
theorem read?_eq_some_iff (type : Ty) (value : Value) (datum : Datum) :
    type.read? value = some datum ↔
      ∃ before branch after content, type.branches = before ++ branch :: after ∧
        (∀ earlier ∈ before, ¬earlier.leaf.type.Reads value) ∧
        branch.leaf.type.read? value = some content ∧ branch.inject content = datum := by
  rw [read?_eq_findSome?, List.findSome?_eq_some_iff]
  simp only [branch_refuses_iff]
  constructor
  · rintro ⟨before, branch, after, split, branchReading, refused⟩
    rcases Option.map_eq_some_iff.mp branchReading with ⟨content, reading, injected⟩
    exact ⟨before, branch, after, content, split, refused, reading, injected⟩
  · rintro ⟨before, branch, after, content, split, refused, reading, injected⟩
    have branchReading := Option.map_eq_some_iff.mpr ⟨content, reading, injected⟩
    exact ⟨before, branch, after, split, branchReading, refused⟩

/-- The chosen leaf is the one behind those that refuse. -/
theorem chosen?_eq_length {type : Ty} {value : Value} {before after : List Branch} {branch : Branch}
    (split : type.branches = before ++ branch :: after)
    (refused : ∀ earlier ∈ before, ¬earlier.leaf.type.Reads value)
    (reads : branch.leaf.type.Reads value) : type.chosen? value = some before.length := by
  have noneBefore :
      before.findIdx? (fun earlier => (earlier.leaf.type.read? value).isSome) = none := by
    rw [List.findIdx?_eq_none_iff]
    intro earlier earlierMem
    exact Bool.eq_false_iff.mpr (refused earlier earlierMem)
  have found : (branch.leaf.type.read? value).isSome = true := reads
  rw [chosen?, readers, leaves, split, List.map_map, List.findIdx?_map]
  simp [List.findIdx?_append, List.findIdx?_cons, Function.comp_def, noneBefore, found]

theorem reads_iff_readers (type : Ty) (value : Value) :
    type.Reads value ↔ true ∈ type.readers value := by
  rw [reads_iff, readers, leaves, List.map_map, List.mem_map]
  rfl

end Ty

namespace Context

open Ty

variable {first second : Ty}

theorem fill_shape (context : Context) (same : first.shape = second.shape) :
    (context.fill first).shape = (context.fill second).shape := by
  induction context with
  | hole => exact same
  | unionLeft context right ih => simp only [fill, shape, ih]
  | unionRight left context ih => simp only [fill, shape, ih]
  | option payload ih => simp only [fill, shape, ih]
  | field name before label context after ih =>
      simp only [fill, shape, fieldShapes_eq_map, List.map_append, List.map_cons, ih]

theorem fill_leaves {context : Context} (outside : context.OutsideRecords)
    (same : first.leaves = second.leaves) :
    (context.fill first).leaves = (context.fill second).leaves := by
  induction context with
  | hole => exact same
  | unionLeft context right ih => simp only [fill, leaves_union, ih outside]
  | unionRight left context ih => simp only [fill, leaves_union, ih outside]
  | option payload ih => simp only [fill, leaves_option, ih outside]
  | field name before label context after _ => cases outside

/-- What is filled in is seen by its leaves only, and in a field by whether one of them reads. -/
theorem fill_readers (context : Context)
    (same : ∀ value, first.readers value = second.readers value) (value : Value) :
    (context.fill first).readers value = (context.fill second).readers value := by
  induction context generalizing value with
  | hole => exact same value
  | unionLeft context right ih => simp only [fill, readers_union, ih]
  | unionRight left context ih => simp only [fill, readers_union, ih]
  | option payload ih => simp only [fill, readers_option, ih]
  | field name before label context after ih =>
      have inside : ∀ found,
          (context.fill first).Reads found ↔ (context.fill second).Reads found := by
        intro found
        rw [reads_iff_readers, reads_iff_readers, ih]
      have alike : ((context.field name before label after).fill first).Reads value ↔
          ((context.field name before label after).fill second).Reads value := by
        simp only [fill, reads_record_iff, List.forall_mem_append, List.forall_mem_cons, inside]
      simp only [readers, fill, leaves_record, List.map_singleton, List.cons.injEq, and_true]
      exact Bool.eq_iff_iff.mpr alike

end Context

namespace Ty

theorem leaves_assoc (first second third : Ty) :
    (union (union first second) third).leaves = (union first (union second third)).leaves := by
  simp only [leaves_union, List.append_assoc]

/-- Reading a value means to find the first leaf that reads it. The shape of a type lists the one
member of each leaf in the order of the leaves. A value is refused if every leaf refuses it, and
read as the datum of the first leaf that reads it, behind the turns that lead there. Grouping nested
unions the other way, in any context, changes neither the shape nor the place of the leaf that reads
a value, and outside of records it changes no leaf at all. -/
theorem reading_first_match :
    (∀ type : Ty,
      type.shape = type.leaves.flatMap (fun leaf => leaf.type.shape) ∧
      (∀ leaf ∈ type.leaves, leaf.type.shape = [leaf.member]) ∧
      ∀ value,
        (type.read? value = none ↔ ∀ leaf ∈ type.leaves, ¬leaf.type.Reads value) ∧
        ∀ datum, type.read? value = some datum ↔
          ∃ before branch after content, type.branches = before ++ branch :: after ∧
            (∀ earlier ∈ before, ¬earlier.leaf.type.Reads value) ∧
            type.chosen? value = some before.length ∧
            branch.leaf.type.read? value = some content ∧ branch.inject content = datum) ∧
      ∀ (context : Context) (first second third : Ty),
        let grouped := context.fill (union (union first second) third)
        let regrouped := context.fill (union first (union second third))
        grouped.shape = regrouped.shape ∧
          (∀ value, grouped.chosen? value = regrouped.chosen? value) ∧
          (context.OutsideRecords → grouped.leaves = regrouped.leaves) := by
  constructor
  · intro type
    refine ⟨shape_eq_flatMap_leaves type, fun leaf _ => leaf.shape_type, ?_⟩
    intro value
    refine ⟨read?_eq_none_iff type value, ?_⟩
    intro datum
    rw [read?_eq_some_iff]
    constructor
    · rintro ⟨before, branch, after, content, split, refused, reading, injected⟩
      have chosen := chosen?_eq_length split refused (Option.isSome_iff_exists.mpr ⟨_, reading⟩)
      exact ⟨before, branch, after, content, split, refused, chosen, reading, injected⟩
    · rintro ⟨before, branch, after, content, split, refused, _, reading, injected⟩
      exact ⟨before, branch, after, content, split, refused, reading, injected⟩
  · intro context first second third
    refine ⟨?_, ?_, ?_⟩
    · apply context.fill_shape
      rw [shape_eq_flatMap_leaves, shape_eq_flatMap_leaves, leaves_assoc]
    · intro value
      rw [chosen?, chosen?, context.fill_readers]
      intro found
      rw [readers, readers, leaves_assoc]
    · intro outside
      exact Context.fill_leaves outside (leaves_assoc first second third)

/-- An optional type with the hole on the left of a truth value. -/
def optionalOrFlag : Context := .option (.unionLeft .hole (.primitive .bool))

/-- A record without fields is the fourth leaf in either group, behind both ways to be absent and a
number, and the empty type has no leaf. -/
theorem anything_chosen_fourth :
    let number := Ty.option (.primitive .f64)
    let anything := Ty.record "Anything" []
    let grouped := optionalOrFlag.fill (union (union number never) anything)
    let regrouped := optionalOrFlag.fill (union number (union never anything))
    optionalOrFlag.OutsideRecords ∧ grouped.shape = regrouped.shape ∧
      grouped.chosen? (.record []) = some 3 ∧ regrouped.chosen? (.record []) = some 3 ∧
      grouped.leaves = regrouped.leaves :=
  have alike := reading_first_match.2 optionalOrFlag (.option (.primitive .f64)) never
    (.record "Anything" [])
  ⟨trivial, alike.1, rfl, (alike.2.1 (.record [])).symm.trans rfl, alike.2.2 trivial⟩

end Ty

end Conform
