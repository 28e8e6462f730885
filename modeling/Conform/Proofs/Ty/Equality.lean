import Conform.Proofs.Ty.Unambiguous
import Conform.Proofs.Value.Equality

/-!
# Reading equal values

A union takes the first side that reads a value. If equal values could be read on different sides,
conversions would not respect equality, which is coarser than identity on the two zeros. They
cannot: a reader looks at the types of scalars and at what names find, and equal values agree on
both. So it reads equal data from equal values, or nothing from either.

Data that are equal are written as equal values. The converse needs that written values tell the
sides of unions apart. It is not enough that neither side reads what the other writes: where both
sides refuse their own values too, as a record does that repeats a label, the two may write the same
value. If one side reads back what it writes, it tells the sides apart, since it reads whatever is
equal to its own values.
-/

namespace Conform

section Related

variable {First Second Third Fourth : Type} {related : First → Second → Prop}
  {image : Third → Fourth → Prop} {first : Option First} {second : Option Second}

theorem rel_map {mapFirst : First → Third} {mapSecond : Second → Fourth}
    (pair : Option.Rel related first second)
    (maps : ∀ one two, related one two → image (mapFirst one) (mapSecond two)) :
    Option.Rel image (first.map mapFirst) (second.map mapSecond) := by
  cases pair with
  | some holds => exact Option.Rel.some (maps _ _ holds)
  | none => exact Option.Rel.none

theorem rel_bind {nextFirst : First → Option Third} {nextSecond : Second → Option Fourth}
    (pair : Option.Rel related first second)
    (next : ∀ one two, related one two → Option.Rel image (nextFirst one) (nextSecond two)) :
    Option.Rel image (first.bind nextFirst) (second.bind nextSecond) := by
  cases pair with
  | some holds => exact next _ _ holds
  | none => exact Option.Rel.none

theorem rel_or {otherFirst : Option First} {otherSecond : Option Second}
    (pair : Option.Rel related first second) (other : Option.Rel related otherFirst otherSecond) :
    Option.Rel related (first.or otherFirst) (second.or otherSecond) := by
  cases pair with
  | some holds => exact Option.Rel.some holds
  | none => exact other

end Related

namespace Ty

theorem read?_union (left right : Ty) (value : Value) :
    (union left right).read? value =
      ((left.read? value).map Datum.left).or ((right.read? value).map Datum.right) := by
  rw [read?]
  cases left.read? value <;> rfl

theorem readFields?_cons (label : Label) (type : Ty) (rest : List (Label × Ty)) (value : Value) :
    readFields? ((label, type) :: rest) value =
      (value.field? label.name).bind fun found => (type.read? found).bind fun datum =>
        (readFields? rest value).map fun data => (label, datum) :: data := by
  rw [readFields?]
  cases value.field? label.name with
  | none => rfl
  | some found =>
      simp only [Option.bind_some]
      cases type.read? found <;> cases readFields? rest value <;> rfl

/-- A type reads equal data from equal values, or nothing from either. -/
theorem read?_equals {first second : Value} (equals : first.Equals second) (type : Ty) :
    Option.Rel Datum.Equals (type.read? first) (type.read? second) := by
  induction type using inductionOn generalizing first second with
  | primitive type =>
      rcases equals.inversion with ⟨left, right, rfl, rfl, equal⟩ | ⟨_, _, rfl, rfl, _⟩
      · rw [read?, read?, Scalar.primitive_eq_of_equal equal]
        split
        · exact Option.Rel.some equal
        · exact Option.Rel.none
      · exact Option.Rel.none
  | never => exact Option.Rel.none
  | union left right ihLeft ihRight =>
      rw [read?_union, read?_union]
      apply rel_or
      · exact rel_map (ihLeft equals) (fun _ _ inner => inner)
      · exact rel_map (ihRight equals) (fun _ _ inner => inner)
  | option payload ih =>
      by_cases isUnit : first = .unit
      · rw [isUnit, equals.eq_unit_iff.mp isUnit]
        exact Option.Rel.some rfl
      · have notUnit : second ≠ .unit := fun same => isUnit (equals.eq_unit_iff.mpr same)
        rw [read?_option_of_ne_unit payload isUnit, read?_option_of_ne_unit payload notUnit]
        exact rel_map (ih equals) (fun _ _ inner => inner)
  | record name fields ih =>
      rw [read?, read?]
      suffices fieldwise : Option.Rel (fun data others => Datum.fieldsEqual data others = true)
          (readFields? fields first) (readFields? fields second) from
        rel_map fieldwise (fun _ _ equal => equal)
      induction fields with
      | nil => exact Option.Rel.some rfl
      | cons field rest ihRest =>
          rcases field with ⟨label, type⟩
          have restAgrees := ihRest
            (fun field fieldMem => ih field (List.mem_cons_of_mem _ fieldMem))
          rw [readFields?_cons, readFields?_cons]
          apply rel_bind (equals.field? label.name)
          intro found other foundEquals
          apply rel_bind (ih (label, type) List.mem_cons_self foundEquals)
          intro datum otherDatum datumEquals
          apply rel_map restAgrees
          intro data others dataEqual
          simp only [Datum.fieldsEqual, dataEqual, decide_true, Bool.true_and, Bool.and_true]
          exact datumEquals

theorem convert?_equals {first second : Datum} (equals : first.Equals second) (target : Ty) :
    Option.Rel Datum.Equals (target.convert? first) (target.convert? second) :=
  read?_equals (Datum.write_equals first second equals) target

/-- A type reads both of two equal values or neither. -/
theorem reads_iff_of_equals {first second : Value} (equals : first.Equals second) (type : Ty) :
    type.Reads first ↔ type.Reads second := by
  have readings := read?_equals equals type
  unfold Reads
  generalize type.read? first = one at readings ⊢
  generalize type.read? second = other at readings ⊢
  cases readings with
  | some dataEqual => exact Iff.rfl
  | none => exact Iff.rfl

/-- The type reads all that its data are written as. -/
def ReadsBack (type : Ty) : Prop := ∀ datum, type.admits datum = true → type.Reads datum.write

/-- Of the sides of a union, at least one reads back what it writes. -/
def SideReadsBack : Ty → Prop
  | union left right => left.ReadsBack ∨ right.ReadsBack
  | _ => True

/-- Records with distinct labels read back what they write, and so do unions of them. -/
theorem LabelsDistinct.sideReadsBack {type : Ty} (distinct : type.LabelsDistinct) :
    type.Everywhere SideReadsBack := by
  intro node nodeMem
  cases node with
  | union left right =>
      have sideDistinct : left.LabelsDistinct :=
        (distinct.of_mem_nodes nodeMem).of_mem_nodes (left_mem_nodes left right)
      exact Or.inl (fun _ admitted => reads_write sideDistinct admitted)
  | _ => trivial

/-- Where no side of a union reads what the other writes and one reads back its own values, the
sides never write equal values. -/
theorem Separate.not_write_equals {left right : Ty} (separate : Separate left right)
    (readsBack : left.ReadsBack ∨ right.ReadsBack) {first second : Datum}
    (firstAdmitted : left.admits first = true) (secondAdmitted : right.admits second = true) :
    ¬first.write.Equals second.write := by
  intro equals
  rcases readsBack with leftReads | rightReads
  · apply separate.2 second secondAdmitted
    exact (reads_iff_of_equals equals left).mp (leftReads first firstAdmitted)
  · apply separate.1 first firstAdmitted
    exact (reads_iff_of_equals equals right).mpr (rightReads second secondAdmitted)

/-- Records are equal if they are written as equal values and this settles the equality of their
entries. -/
theorem fieldsEqual_of_write_equals {fields : List (Label × Ty)}
    {first second : List (Label × Datum)}
    (entries : ∀ field ∈ fields, ∀ one other : Datum, field.2.admits one = true →
      field.2.admits other = true → one.write.Equals other.write → one.Equals other)
    (firstAdmitted : List.Forall₂ EntryAdmitted fields first)
    (secondAdmitted : List.Forall₂ EntryAdmitted fields second)
    (equals : List.Forall₂ Value.FieldEquals (Datum.writeFields first)
      (Datum.writeFields second)) :
    Datum.fieldsEqual first second = true := by
  induction firstAdmitted generalizing second with
  | nil =>
      cases secondAdmitted
      rfl
  | @cons field one rest data oneAdmitted _ ih =>
      cases secondAdmitted with
      | @cons _ other _ others otherAdmitted restAdmitted =>
          rcases List.forall₂_cons.mp equals with ⟨⟨_, head⟩, tail⟩
          have sameLabel : one.1 = other.1 := oneAdmitted.1.symm.trans otherAdmitted.1
          have headEquals := entries field List.mem_cons_self one.2 other.2 oneAdmitted.2
            otherAdmitted.2 head
          have tailEquals := ih
            (fun field fieldMem => entries field (List.mem_cons_of_mem _ fieldMem))
            restAdmitted tail
          simp only [Datum.fieldsEqual, sameLabel, tailEquals, decide_true, Bool.true_and,
            Bool.and_true]
          exact headEquals

/-- An unambiguous type tells its data apart by what they are written as, if at each of its unions
one side reads back what it writes. -/
theorem Unambiguous.equals_of_write_equals {type : Ty} (unambiguous : type.Unambiguous)
    (readsBack : type.Everywhere SideReadsBack) {first second : Datum}
    (firstAdmitted : type.admits first = true) (secondAdmitted : type.admits second = true)
    (equals : first.write.Equals second.write) : first.Equals second := by
  induction type using inductionOn generalizing first second with
  | primitive type =>
      rcases (admits_primitive_iff type first).mp firstAdmitted with ⟨content, _, rfl⟩
      rcases (admits_primitive_iff type second).mp secondAdmitted with ⟨other, _, rfl⟩
      exact (Value.equals_scalar_iff content other).mp equals
  | never => cases first <;> cases firstAdmitted
  | union left right ihLeft ihRight =>
      have separate : Separate left right := unambiguous _ (mem_nodes_self _)
      have sideReads : left.ReadsBack ∨ right.ReadsBack := readsBack _ (mem_nodes_self _)
      rcases (admits_union_iff left right first).mp firstAdmitted with
        ⟨one, oneAdmitted, rfl⟩ | ⟨one, oneAdmitted, rfl⟩ <;>
        rcases (admits_union_iff left right second).mp secondAdmitted with
          ⟨other, otherAdmitted, rfl⟩ | ⟨other, otherAdmitted, rfl⟩
      all_goals have written : one.write.Equals other.write := equals
      · have sameSide : one.Equals other :=
          ihLeft (unambiguous.of_mem_nodes (left_mem_nodes left right))
            (readsBack.of_mem_nodes (left_mem_nodes left right)) oneAdmitted otherAdmitted written
        exact sameSide
      · exact absurd written (separate.not_write_equals sideReads oneAdmitted otherAdmitted)
      · exact absurd written
          (separate.symm.not_write_equals sideReads.symm oneAdmitted otherAdmitted)
      · have sameSide : one.Equals other :=
          ihRight (unambiguous.of_mem_nodes (right_mem_nodes left right))
            (readsBack.of_mem_nodes (right_mem_nodes left right)) oneAdmitted otherAdmitted written
        exact sameSide
  | option payload ih =>
      have separate : Separate (primitive .unit) payload := unambiguous _ (mem_nodes_self _)
      -- The unit type reads back its own value, so absence is never mistaken.
      have absent : (primitive .unit).ReadsBack := fun _ admitted => reads_write (by decide) admitted
      have unitAdmitted : (primitive .unit).admits (.scalar .unit) = true := rfl
      rcases (admits_option_iff payload first).mp firstAdmitted with
        rfl | ⟨one, oneAdmitted, rfl⟩ <;>
        rcases (admits_option_iff payload second).mp secondAdmitted with
          rfl | ⟨other, otherAdmitted, rfl⟩
      · rfl
      · have written : (Datum.scalar .unit).write.Equals other.write := equals
        exact absurd written
          (separate.not_write_equals (Or.inl absent) unitAdmitted otherAdmitted)
      · have written : one.write.Equals (Datum.scalar .unit).write := equals
        exact absurd written
          (separate.symm.not_write_equals (Or.inr absent) oneAdmitted unitAdmitted)
      · have written : one.write.Equals other.write := equals
        have samePayload : one.Equals other :=
          ih (unambiguous.of_mem_nodes (payload_mem_nodes payload))
            (readsBack.of_mem_nodes (payload_mem_nodes payload)) oneAdmitted otherAdmitted written
        exact samePayload
  | record name fields ih =>
      rcases (admits_record_iff name fields first).mp firstAdmitted with ⟨data, rfl, firstEntries⟩
      rcases (admits_record_iff name fields second).mp secondAdmitted with
        ⟨others, rfl, secondEntries⟩
      apply fieldsEqual_of_write_equals _ firstEntries secondEntries
        ((Value.equals_record_iff _ _).mp equals)
      intro field fieldMem one other oneAdmitted otherAdmitted entryEquals
      exact ih field fieldMem (unambiguous.of_mem_nodes (field_mem_nodes name fieldMem))
        (readsBack.of_mem_nodes (field_mem_nodes name fieldMem)) oneAdmitted otherAdmitted
        entryEquals

/-- Writing and reading respect equality, which is numeric on floating-point numbers and holds of a
value and itself unless there is a NaN in it. Equal data are written as equal values, and from equal
values every type reads equal data or nothing, so conversions take equal data to equal data. In an
unambiguous type, data are equal exactly when they are written as equal values, provided that at
every union one side reads back what it writes, which is so if the records have distinct labels. -/
theorem reading_respects_equality :
    (∀ left right : Scalar, left.equal right = true ↔
      left.isNaN = false ∧ right.isNaN = false ∧
        (left = right ∨
          left.primitive = right.primitive ∧ left.isZero = true ∧ right.isZero = true)) ∧
      (∀ value : Value, value.Equals value ↔ ∀ content ∈ value.scalars, content.isNaN = false) ∧
      ∀ type : Ty,
        (∀ first second : Datum, type.admits first = true → type.admits second = true →
          first.Equals second → first.write.Equals second.write) ∧
        (∀ first second : Value, first.Equals second →
          Option.Rel Datum.Equals (type.read? first) (type.read? second)) ∧
        (∀ (target : Ty) (first second : Datum), type.admits first = true →
          type.admits second = true → first.Equals second →
            Option.Rel Datum.Equals (target.convert? first) (target.convert? second)) ∧
        (type.Everywhere SideReadsBack → type.Unambiguous →
          ∀ first second : Datum, type.admits first = true → type.admits second = true →
            (first.Equals second ↔ first.write.Equals second.write)) ∧
        (type.LabelsDistinct → type.Everywhere SideReadsBack) := by
  refine ⟨Scalar.equal_iff, Value.equal_self_iff, fun type => ⟨?_, ?_, ?_, ?_, ?_⟩⟩
  · intro first second _ _ equals
    exact Datum.write_equals first second equals
  · intro first second equals
    exact read?_equals equals type
  · intro target first second _ _ equals
    exact convert?_equals equals target
  · intro readsBack unambiguous first second firstAdmitted secondAdmitted
    constructor
    · exact Datum.write_equals first second
    · exact unambiguous.equals_of_write_equals readsBack firstAdmitted secondAdmitted
  · exact LabelsDistinct.sideReadsBack

/-- A record with a number or a text. -/
def offset : Ty :=
  .record "Offset" [(⟨"x"⟩, .union (.primitive .f64) (.primitive .string))]

/-- The offset by the number of a floating-point word. -/
def offsetBy (word : UInt64) : Datum := .record [(⟨"x"⟩, .left (.scalar (.f64 word)))]

theorem offset_unambiguous : offset.Unambiguous := by
  intro node nodeMem
  simp only [offset, nodes, fieldNodes, List.mem_cons, List.mem_append, List.not_mem_nil,
    or_false] at nodeMem
  rcases nodeMem with rfl | rfl | rfl | rfl
  · trivial
  · exact separate_primitive (by decide)
  · trivial
  · trivial

/-- The offsets by the two zeros are equal and written as equal values. The offset by a NaN differs
from itself, and so does what it is written as. -/
theorem offset_zeros_equal :
    offset.LabelsDistinct ∧ offset.Unambiguous ∧ offset.admits (offsetBy 0) = true ∧
      offset.admits (offsetBy 0x8000000000000000) = true ∧
      offset.admits (offsetBy 0x7ff8000000000000) = true ∧
      (offsetBy 0).Equals (offsetBy 0x8000000000000000) ∧
      (offsetBy 0).write.Equals (offsetBy 0x8000000000000000).write ∧
      ¬(offsetBy 0x7ff8000000000000).Equals (offsetBy 0x7ff8000000000000) ∧
      ¬(offsetBy 0x7ff8000000000000).write.Equals (offsetBy 0x7ff8000000000000).write :=
  have ⟨_, _, _, alikeIf, readsBackIf⟩ := reading_respects_equality.2.2 offset
  have alike := alikeIf (readsBackIf (by decide)) offset_unambiguous
  have zeros := alike (offsetBy 0) (offsetBy 0x8000000000000000) rfl rfl
  have notNumbers := alike (offsetBy 0x7ff8000000000000) (offsetBy 0x7ff8000000000000) rfl rfl
  ⟨by decide, offset_unambiguous, rfl, rfl, rfl, by decide, zeros.mp (by decide), by decide,
    notNumbers.not.mp (by decide)⟩

/-- A record that repeats a label, with fields of different types. -/
def repeated : Ty :=
  .record "Repeated" [(⟨"a"⟩, .primitive (.int ⟨false, .bits8⟩)), (⟨"a"⟩, .primitive .bool)]

def sevenAndTrue : Datum :=
  .record [(⟨"a"⟩, .scalar (.int ⟨false, .bits8⟩ 7 (by decide))), (⟨"a"⟩, .scalar (.bool true))]

/-- A repeated name finds the first entry only, which is of no use to the second field. -/
theorem repeated_refuses {datum : Datum} (admitted : repeated.admits datum = true) :
    ¬repeated.Reads datum.write := by
  intro reads
  rcases (admits_record_iff _ _ datum).mp admitted with ⟨data, rfl, entries⟩
  cases entries with
  | @cons _ entry _ rest head _ =>
      rcases entry with ⟨label, inner⟩
      rcases head with ⟨rfl, innerAdmitted⟩
      rcases (admits_primitive_iff _ inner).mp innerAdmitted with ⟨content, isNumber, rfl⟩
      have found : (Datum.record ((⟨"a"⟩, .scalar content) :: rest)).write.field? "a" =
          some (.scalar content) := rfl
      rcases (reads_record_iff _ _ _).mp reads (⟨"a"⟩, .primitive .bool) (by simp) with
        ⟨other, looked, readsBool⟩
      rcases (reads_primitive_iff .bool other).mp readsBool with ⟨truth, isBool, rfl⟩
      cases found.symm.trans looked
      rw [isNumber] at isBool
      cases isBool

/-- The two sides of a union of this record with itself read nothing that either writes, and yet
they write the same value. -/
theorem repeated_sides_written_alike :
    (union repeated repeated).Unambiguous ∧
      (union repeated repeated).admits sevenAndTrue.left = true ∧
      (union repeated repeated).admits sevenAndTrue.right = true ∧
      sevenAndTrue.left.write.Equals sevenAndTrue.right.write ∧
      ¬sevenAndTrue.left.Equals sevenAndTrue.right := by
  refine ⟨?_, rfl, rfl, by decide, by decide⟩
  have refuses : Separate repeated repeated :=
    ⟨fun _ admitted => repeated_refuses admitted, fun _ admitted => repeated_refuses admitted⟩
  intro node nodeMem
  cases node with
  | union left right =>
      simp only [repeated, nodes, fieldNodes, List.mem_cons, List.mem_append, List.not_mem_nil,
        or_false, union.injEq, reduceCtorEq] at nodeMem
      rcases nodeMem with ⟨rfl, rfl⟩
      exact refuses
  | option payload =>
      simp [repeated, nodes, fieldNodes] at nodeMem
  | _ => trivial

end Ty

end Conform
