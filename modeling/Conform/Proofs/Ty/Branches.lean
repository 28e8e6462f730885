import Conform.Proofs.Shape.Order
import Conform.Ty.Read

/-!
# Branches of a type

Unions and optional types are trees whose ends are primitive types and records. The shape of a
type lists these ends from left to right, and reading a value tries them in the same order. This
file makes the common list explicit: a branch is an end together with the turns that lead to it.

An optional type contributes the unit type before the branches of its payload. Its turn forgets
the datum, because absence is not written with a content of its own.

Every operation on a type is then a list operation on its branches: the shape is a map, reading is
a search for the first success, belonging and readability are existence. The theorems about types
use these equations and go by induction over the fields of the ends only.
-/

namespace Conform

/-- A type that is not a union of others. -/
inductive Leaf where
  | primitive (type : Primitive)
  | record (name : String) (fields : List (Label × Ty))

namespace Leaf

def type : Leaf → Ty
  | primitive type => .primitive type
  | record name fields => .record name fields

/-- The member that stands for the leaf in a shape. -/
def member : Leaf → Member
  | primitive type => .kind type.kind
  | record _ fields => .record (Ty.fieldShapes fields)

/-- The fields of a leaf, none if it is primitive. -/
def fields : Leaf → List (Label × Ty)
  | primitive _ => []
  | record _ fields => fields

end Leaf

/-- A turn at a union or an optional type. -/
inductive Turn where
  | left
  | right
  | absent
  | present
deriving DecidableEq, Repr

/-- The datum of the whole type, from the datum behind the turn. -/
def Turn.inject : Turn → Datum → Datum
  | left, datum => .left datum
  | right, datum => .right datum
  | absent, _ => .none
  | present, datum => .some datum

/-- A leaf together with the turns that lead to it. -/
structure Branch where
  path : List Turn
  leaf : Leaf

namespace Branch

/-- The branch seen from one turn further up. -/
def extend (turn : Turn) (branch : Branch) : Branch := ⟨turn :: branch.path, branch.leaf⟩

/-- The datum of the whole type, from the datum of the leaf. -/
def inject (branch : Branch) (datum : Datum) : Datum := branch.path.foldr Turn.inject datum

/-- What the leaf reads, as a datum of the whole type. -/
def read? (branch : Branch) (value : Value) : Option Datum :=
  (branch.leaf.type.read? value).map branch.inject

/-- The data of the whole type that come from the leaf. -/
def Admits (branch : Branch) (datum : Datum) : Prop :=
  ∃ content, branch.leaf.type.admits content = true ∧ branch.inject content = datum

@[simp]
theorem extend_leaf (turn : Turn) (branch : Branch) :
    (branch.extend turn).leaf = branch.leaf := rfl

@[simp]
theorem extend_inject (turn : Turn) (branch : Branch) (datum : Datum) :
    (branch.extend turn).inject datum = turn.inject (branch.inject datum) := rfl

theorem extend_read? (turn : Turn) (branch : Branch) (value : Value) :
    (branch.extend turn).read? value = (branch.read? value).map turn.inject := by
  unfold read?
  rw [Option.map_map]
  rfl

theorem extend_admits (turn : Turn) (branch : Branch) (datum : Datum) :
    (branch.extend turn).Admits datum ↔
      ∃ inner, branch.Admits inner ∧ turn.inject inner = datum := by
  constructor
  · rintro ⟨content, admitted, rfl⟩
    exact ⟨branch.inject content, ⟨content, admitted, rfl⟩, rfl⟩
  · rintro ⟨_, ⟨content, admitted, rfl⟩, rfl⟩
    exact ⟨content, admitted, rfl⟩

@[simp]
theorem root_read? (leaf : Leaf) (value : Value) :
    read? ⟨[], leaf⟩ value = leaf.type.read? value := by
  unfold read?
  cases leaf.type.read? value with
  | none => rfl
  | some datum => rfl

@[simp]
theorem root_admits (leaf : Leaf) (datum : Datum) :
    Admits ⟨[], leaf⟩ datum ↔ leaf.type.admits datum = true := by
  simp [Admits, inject]

end Branch

namespace Ty

/-- The branches of a type from left to right. -/
def branches : Ty → List Branch
  | primitive type => [⟨[], .primitive type⟩]
  | never => []
  | union left right =>
      left.branches.map (Branch.extend .left) ++ right.branches.map (Branch.extend .right)
  | option payload =>
      ⟨[.absent], .primitive .unit⟩ :: payload.branches.map (Branch.extend .present)
  | record name fields => [⟨[], .record name fields⟩]

/-- Induction over types, with the claim for every field of a record. -/
@[elab_as_elim]
theorem inductionOn {motive : Ty → Prop} (type : Ty)
    (primitive : ∀ type, motive (primitive type))
    (never : motive never)
    (union : ∀ left right, motive left → motive right → motive (union left right))
    (option : ∀ payload, motive payload → motive (option payload))
    (record : ∀ name fields, (∀ field ∈ fields, motive field.2) → motive (record name fields)) :
    motive type :=
  match type with
  | .primitive type => primitive type
  | .never => never
  | .union left right =>
      union left right (inductionOn left primitive never union option record)
        (inductionOn right primitive never union option record)
  | .option payload =>
      option payload (inductionOn payload primitive never union option record)
  | .record name fields =>
      record name fields (fun field _ => inductionOn field.2 primitive never union option record)
termination_by sizeOf type
decreasing_by
  · simp only [Ty.union.sizeOf_spec]
    omega
  · simp only [Ty.union.sizeOf_spec]
    omega
  · simp only [Ty.option.sizeOf_spec]
    omega
  · rename_i fieldMem
    have fieldSmaller := List.sizeOf_lt_of_mem fieldMem
    cases field
    simp only [Prod.mk.sizeOf_spec, Ty.record.sizeOf_spec] at *
    omega

/-- Induction over the fields of the branches: a claim holds for a type once it holds for the
fields of all its branches. -/
@[elab_as_elim]
theorem branchInduction {motive : Ty → Prop} (type : Ty)
    (step : ∀ type : Ty,
      (∀ branch ∈ type.branches, ∀ field ∈ branch.leaf.fields, motive field.2) → motive type) :
    motive type := by
  apply step
  induction type using inductionOn with
  | primitive type => simp [branches, Leaf.fields]
  | never => simp [branches]
  | union left right ihLeft ihRight =>
      intro branch branchMem
      rcases List.mem_append.mp branchMem with leftMem | rightMem
      · rcases List.mem_map.mp leftMem with ⟨inner, innerMem, rfl⟩
        exact ihLeft inner innerMem
      · rcases List.mem_map.mp rightMem with ⟨inner, innerMem, rfl⟩
        exact ihRight inner innerMem
  | option payload ih =>
      intro branch branchMem
      rcases List.mem_cons.mp branchMem with rfl | presentMem
      · simp [Leaf.fields]
      · rcases List.mem_map.mp presentMem with ⟨inner, innerMem, rfl⟩
        exact ih inner innerMem
  | record name fields ih =>
      intro branch branchMem field fieldMem
      simp only [branches, List.mem_singleton] at branchMem
      subst branch
      exact step field.2 (ih field fieldMem)

/-- Induction over the path of a branch: a claim about a type and a branch of it is shown at the
leaves and passed on at every turn. -/
@[elab_as_elim]
theorem pathInduction {motive : (type : Ty) → (branch : Branch) → branch ∈ type.branches → Prop}
    {type : Ty} {branch : Branch} (branchMem : branch ∈ type.branches)
    (root : ∀ leaf branchMem, motive (Leaf.type leaf) ⟨[], leaf⟩ branchMem)
    (left : ∀ left right inner innerMem branchMem, motive left inner innerMem →
      motive (union left right) (inner.extend .left) branchMem)
    (right : ∀ left right inner innerMem branchMem, motive right inner innerMem →
      motive (union left right) (inner.extend .right) branchMem)
    (absent : ∀ payload branchMem,
      motive (option payload) ⟨[.absent], .primitive .unit⟩ branchMem)
    (present : ∀ payload inner innerMem branchMem, motive payload inner innerMem →
      motive (option payload) (inner.extend .present) branchMem) :
    motive type branch branchMem := by
  induction type using inductionOn generalizing branch with
  | primitive type =>
      simp only [branches, List.mem_singleton] at branchMem
      subst branch
      exact root (.primitive type) _
  | never => simp [branches] at branchMem
  | union leftType rightType ihLeft ihRight =>
      rcases List.mem_append.mp branchMem with leftMem | rightMem
      · rcases List.mem_map.mp leftMem with ⟨inner, innerMem, rfl⟩
        exact left leftType rightType inner innerMem _ (ihLeft innerMem)
      · rcases List.mem_map.mp rightMem with ⟨inner, innerMem, rfl⟩
        exact right leftType rightType inner innerMem _ (ihRight innerMem)
  | option payload ih =>
      rcases List.mem_cons.mp branchMem with rfl | presentMem
      · exact absent payload _
      · rcases List.mem_map.mp presentMem with ⟨inner, innerMem, rfl⟩
        exact present payload inner innerMem _ (ih innerMem)
  | record name fields _ =>
      simp only [branches, List.mem_singleton] at branchMem
      subst branch
      exact root (.record name fields) _

theorem fieldShapes_eq_map (fields : List (Label × Ty)) :
    fieldShapes fields = fields.map (fun field => (field.1.id, field.2.shape)) := by
  induction fields with
  | nil => rfl
  | cons field rest ih => simp [fieldShapes, ih]

/-- The shape of a type lists the members of its branches. -/
theorem shape_eq_map_branches (type : Ty) :
    type.shape = type.branches.map (fun branch => branch.leaf.member) := by
  induction type using inductionOn with
  | primitive type => rfl
  | never => rfl
  | union left right ihLeft ihRight =>
      simp [shape, branches, Shape.concat, ihLeft, ihRight, Function.comp_def]
  | option payload ih =>
      simp [shape, branches, Shape.concat, Leaf.member, ih, Function.comp_def]
  | record name fields ih => rfl

theorem findSome?_extend (branches : List Branch) (turn : Turn) (value : Value) :
    (branches.map (Branch.extend turn)).findSome? (fun branch => branch.read? value) =
      (branches.findSome? (fun branch => branch.read? value)).map turn.inject := by
  rw [List.findSome?_map, List.map_findSome?]
  congr 1
  funext branch
  exact Branch.extend_read? turn branch value

theorem read?_option_of_ne_unit (payload : Ty) {value : Value} (notUnit : value ≠ .unit) :
    (option payload).read? value = (payload.read? value).map .some := by
  rw [read?]
  exact notUnit

theorem read?_unit_of_ne_unit {value : Value} (notUnit : value ≠ .unit) :
    (primitive .unit).read? value = none := by
  cases value with
  | record fields => rfl
  | scalar content => cases content <;> simp_all [read?, Scalar.primitive]

/-- A type reads a value as the first of its branches that reads it. -/
theorem read?_eq_findSome? (type : Ty) (value : Value) :
    type.read? value = type.branches.findSome? (fun branch => branch.read? value) := by
  induction type using inductionOn with
  | primitive type => simp [branches, Leaf.type]
  | never => simp [read?, branches]
  | union left right ihLeft ihRight =>
      simp only [branches, List.findSome?_append, findSome?_extend, ← ihLeft, ← ihRight, read?]
      cases left.read? value with
      | none =>
          simp only [Option.map_none, Option.none_or]
          rfl
      | some datum => rfl
  | option payload ih =>
      simp only [branches, List.findSome?_cons, findSome?_extend, ← ih]
      -- Absence is tried first, and it reads the unit value only.
      by_cases isUnit : value = .unit
      · subst value
        rfl
      · rw [read?_option_of_ne_unit payload isUnit]
        simp only [Branch.read?, Leaf.type, read?_unit_of_ne_unit isUnit, Option.map_none]
        rfl
  | record name fields ih => simp [branches, Leaf.type]

/-- A type reads the values that some branch of it reads. -/
theorem reads_iff (type : Ty) (value : Value) :
    type.Reads value ↔ ∃ branch ∈ type.branches, branch.leaf.type.Reads value := by
  unfold Reads
  rw [read?_eq_findSome?, List.findSome?_isSome_iff]
  simp [Branch.read?]

theorem branch_refuses_iff (branch : Branch) (value : Value) :
    branch.read? value = none ↔ ¬branch.leaf.type.Reads value := by
  simp [Branch.read?, Reads]

theorem admits_union_iff (left right : Ty) (datum : Datum) :
    (union left right).admits datum = true ↔
      (∃ inner, left.admits inner = true ∧ Turn.left.inject inner = datum) ∨
        ∃ inner, right.admits inner = true ∧ Turn.right.inject inner = datum := by
  cases datum <;> simp [admits, Turn.inject]

theorem admits_option_iff (payload : Ty) (datum : Datum) :
    (option payload).admits datum = true ↔
      datum = .none ∨ ∃ inner, payload.admits inner = true ∧ Turn.present.inject inner = datum := by
  cases datum <;> simp [admits, Turn.inject]

theorem exists_extend_admits (branches : List Branch) (turn : Turn) (datum : Datum) :
    (∃ branch ∈ branches.map (Branch.extend turn), branch.Admits datum) ↔
      ∃ inner, (∃ branch ∈ branches, branch.Admits inner) ∧ turn.inject inner = datum := by
  constructor
  · rintro ⟨_, branchMem, admitted⟩
    rcases List.mem_map.mp branchMem with ⟨branch, innerMem, rfl⟩
    rcases (Branch.extend_admits turn branch datum).mp admitted with ⟨inner, innerAdmits, injected⟩
    exact ⟨inner, ⟨branch, innerMem, innerAdmits⟩, injected⟩
  · rintro ⟨inner, ⟨branch, branchMem, innerAdmits⟩, injected⟩
    refine ⟨branch.extend turn, List.mem_map.mpr ⟨branch, branchMem, rfl⟩, ?_⟩
    exact (Branch.extend_admits turn branch datum).mpr ⟨inner, innerAdmits, injected⟩

theorem absent_admits (datum : Datum) :
    Branch.Admits ⟨[.absent], .primitive .unit⟩ datum ↔ datum = .none := by
  constructor
  · rintro ⟨content, admitted, rfl⟩
    rfl
  · rintro rfl
    exact ⟨.scalar .unit, by decide, rfl⟩

/-- The data of a type are those that come from its branches. -/
theorem admits_iff (type : Ty) (datum : Datum) :
    type.admits datum = true ↔ ∃ branch ∈ type.branches, branch.Admits datum := by
  induction type using inductionOn generalizing datum with
  | primitive type => simp [branches, Leaf.type]
  | never => simp [branches, admits]
  | union left right ihLeft ihRight =>
      simp only [branches, List.mem_append, or_and_right, exists_or, exists_extend_admits,
        ← ihLeft, ← ihRight]
      exact admits_union_iff left right datum
  | option payload ih =>
      simp only [branches, List.mem_cons, or_and_right, exists_or, exists_extend_admits, ← ih,
        exists_eq_left, absent_admits]
      exact admits_option_iff payload datum
  | record name fields ih => simp [branches, Leaf.type]

/-- A datum is written as the datum of its leaf: turns are left out. -/
theorem write_inject {type : Ty} {branch : Branch} {content : Datum}
    (branchMem : branch ∈ type.branches) (admitted : branch.leaf.type.admits content = true) :
    (branch.inject content).write = content.write := by
  induction branchMem using pathInduction with
  | root leaf _ => rfl
  | left left right inner innerMem _ ih => simpa [Turn.inject, Datum.write] using ih admitted
  | right left right inner innerMem _ ih => simpa [Turn.inject, Datum.write] using ih admitted
  | absent payload _ =>
      -- The content of absence is the unit scalar, and absence is written as it.
      cases content with
      | scalar content =>
          cases content <;> simp_all [Leaf.type, admits, Scalar.primitive]
          rfl
      | _ => simp [Leaf.type, admits] at admitted
  | present payload inner innerMem _ ih => simpa [Turn.inject, Datum.write] using ih admitted

/-- A type is assignable to another when each of its branches has a branch above it. -/
theorem shape_sub_iff (source target : Ty) :
    source.shape.sub target.shape = true ↔
      ∀ branch ∈ source.branches, ∃ other ∈ target.branches,
        branch.leaf.member.sub other.leaf.member = true := by
  rw [shape_eq_map_branches, shape_eq_map_branches, Shape.sub_iff]
  constructor
  · intro assignable branch branchMem
    rcases assignable _ (List.mem_map_of_mem branchMem) with ⟨member, memberMem, below⟩
    rcases List.mem_map.mp memberMem with ⟨other, otherMem, rfl⟩
    exact ⟨other, otherMem, below⟩
  · intro assignable member memberMem
    rcases List.mem_map.mp memberMem with ⟨branch, branchMem, rfl⟩
    rcases assignable branch branchMem with ⟨other, otherMem, below⟩
    exact ⟨other.leaf.member, List.mem_map_of_mem otherMem, below⟩

end Ty

namespace Leaf

theorem shape_type (leaf : Leaf) : leaf.type.shape = [leaf.member] := by
  cases leaf <;> rfl

theorem shape_sub_iff (source target : Leaf) :
    source.type.shape.sub target.type.shape = true ↔
      source.member.sub target.member = true := by
  rw [shape_type, shape_type, Shape.sub_iff]
  simp

/-- Each required field is met by an own field of the same id and an assignable shape. -/
def FieldsCover (fields required : List (Label × Ty)) : Prop :=
  ∀ field ∈ required, ∃ own ∈ fields,
    own.1.id = field.1.id ∧ own.2.shape.sub field.2.shape = true

theorem record_sub_iff (name otherName : String) (fields required : List (Label × Ty)) :
    (record name fields).member.sub (record otherName required).member = true ↔
      FieldsCover fields required := by
  simp only [member, Ty.fieldShapes_eq_map, Member.record_sub_record]
  constructor
  · intro covers field fieldMem
    rcases covers _ (List.mem_map_of_mem fieldMem) with ⟨entry, entryMem, sameId, assignable⟩
    rcases List.mem_map.mp entryMem with ⟨own, ownMem, rfl⟩
    exact ⟨own, ownMem, sameId, assignable⟩
  · intro cover entry entryMem
    rcases List.mem_map.mp entryMem with ⟨field, fieldMem, rfl⟩
    rcases cover field fieldMem with ⟨own, ownMem, sameId, assignable⟩
    exact ⟨_, List.mem_map_of_mem ownMem, sameId, assignable⟩

/-- Assignable leaves are the same primitive type, or records of which the first covers the fields
of the second. -/
theorem sub_inversion {source target : Leaf} (below : source.member.sub target.member = true) :
    (∃ type, source = .primitive type ∧ target = .primitive type) ∨
      ∃ name fields otherName required,
        source = .record name fields ∧ target = .record otherName required ∧
          FieldsCover fields required := by
  cases source with
  | primitive type =>
      left
      cases target with
      | record name required => simp [member] at below
      | primitive other =>
          simp only [member, Member.kind_sub_kind] at below
          exact ⟨type, rfl, by rw [Primitive.kind_injective below]⟩
  | record name fields =>
      right
      cases target with
      | primitive other => simp [member] at below
      | record otherName required =>
          have cover := (record_sub_iff name otherName fields required).mp below
          exact ⟨name, fields, otherName, required, rfl, rfl, cover⟩

theorem fieldsCover_of_sub {source target : Leaf}
    (below : source.member.sub target.member = true) :
    FieldsCover source.fields target.fields := by
  rcases sub_inversion below with
    ⟨type, rfl, rfl⟩ | ⟨name, fields, otherName, required, rfl, rfl, cover⟩
  · intro field fieldMem
    simp [fields] at fieldMem
  · exact cover

end Leaf

end Conform
