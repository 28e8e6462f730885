import Conform.Proofs.Ty.Soundness

/-!
# Refusals are justified by data

The comparison of shapes may refuse an assignment, and this file asks whether it had a reason: a
datum of the first type that the second one cannot read. There is one if the refused branch can be
followed down to the place where it fails. The path leads through a field of a record, and a datum
that fails there is completed with data for all other fields, so no field may be empty. On the
other side the failing field has to settle the matter, which it does if only one record could have
read the datum. Two records could share the work, and a record without fields needs none of it.
-/

namespace Conform

theorem eq_of_mem_of_length_le_one {Item : Type} {items : List Item} (single : items.length ≤ 1)
    {first second : Item} (firstMem : first ∈ items) (secondMem : second ∈ items) :
    first = second := by
  have isOne := Nat.le_antisymm single (List.length_pos_of_mem firstMem)
  rcases List.length_eq_one_iff.mp isOne with ⟨only, rfl⟩
  exact (List.mem_singleton.mp firstMem).trans (List.mem_singleton.mp secondMem).symm

theorem Scalar.exists_of_primitive (type : Primitive) :
    ∃ content : Scalar, content.primitive = type := by
  cases type with
  | unit => exact ⟨.unit, rfl⟩
  | bool => exact ⟨.bool false, rfl⟩
  | char => exact ⟨.char 'a', rfl⟩
  | int kind =>
      have contained : kind.Contains 0 := by
        rcases kind with ⟨_ | _, _ | _⟩ <;> decide
      exact ⟨.int kind 0 contained, rfl⟩
  | f32 => exact ⟨.f32 0, rfl⟩
  | f64 => exact ⟨.f64 0, rfl⟩
  | staticStr => exact ⟨.staticStr "", rfl⟩
  | string => exact ⟨.string "", rfl⟩

def Member.isRecord : Member → Bool
  | kind _ => false
  | record _ => true

/-- The shape has one record member or none. -/
def Shape.AtMostOneRecord (shape : Shape) : Prop := (shape.filter Member.isRecord).length ≤ 1

instance (shape : Shape) : Decidable shape.AtMostOneRecord :=
  inferInstanceAs (Decidable (_ ≤ _))

namespace Ty

/-- The empty type does not occur in the type. -/
def NeverFree (type : Ty) : Prop := type.Everywhere (fun node => node ≠ never)

instance (type : Ty) : Decidable type.NeverFree :=
  inferInstanceAs (Decidable (type.Everywhere _))

/-- The types of the fields of a record, none for other types. -/
def ownFieldTypes : Ty → List Ty
  | record _ fields => fields.map Prod.snd
  | _ => []

/-- The types of all record fields in the type, at any depth. -/
def fieldTypes (type : Ty) : List Ty := type.nodes.flatMap ownFieldTypes

/-- What fails in a record of the type fails for the type: neither the type nor the type of any
record field in it has a choice between records, and every record asks for a field. -/
structure Discerning (type : Ty) : Prop where
  oneRecord : ∀ inner ∈ type :: type.fieldTypes, inner.shape.AtMostOneRecord
  nonempty : type.NoEmptyRecord

theorem Discerning.of_mem_fields {type : Ty} (discerning : type.Discerning) {branch : Branch}
    (branchMem : branch ∈ type.branches) {field : Label × Ty}
    (fieldMem : field ∈ branch.leaf.fields) : field.2.Discerning := by
  refine ⟨?_, discerning.nonempty.of_mem_fields branchMem fieldMem⟩
  intro inner innerMem
  apply discerning.oneRecord
  apply List.mem_cons_of_mem
  rcases List.mem_cons.mp innerMem with rfl | deeper
  · rcases eq_record_of_mem_fields fieldMem with ⟨name, isRecord⟩
    apply List.mem_flatMap.mpr
    exact ⟨_, record_mem_nodes branchMem isRecord, List.mem_map_of_mem fieldMem⟩
  · rcases List.mem_flatMap.mp deeper with ⟨node, nodeMem, own⟩
    exact List.mem_flatMap.mpr ⟨node, field_nodes_subset branchMem fieldMem nodeMem, own⟩

/-- No two branches of the type are records. -/
theorem Discerning.eq_of_records {type : Ty} (discerning : type.Discerning)
    {branch other : Branch} (branchMem : branch ∈ type.branches)
    (otherMem : other ∈ type.branches) (branchRecord : branch.leaf.member.isRecord = true)
    (otherRecord : other.leaf.member.isRecord = true) : branch = other := by
  have single := discerning.oneRecord type List.mem_cons_self
  rw [Shape.AtMostOneRecord, shape_eq_map_branches, List.filter_map, List.length_map] at single
  apply eq_of_mem_of_length_le_one single
  · exact List.mem_filter_of_mem branchMem branchRecord
  · exact List.mem_filter_of_mem otherMem otherRecord

theorem exists_entries {fields : List (Label × Ty)}
    (inhabited : ∀ own ∈ fields, ∃ datum, own.2.admits datum = true) :
    ∃ data, List.Forall₂ EntryAdmitted fields data := by
  apply exists_forall₂
  intro own ownMem
  rcases inhabited own ownMem with ⟨datum, admitted⟩
  exact ⟨(own.1, datum), rfl, admitted⟩

theorem NeverFree.exists_admitted {type : Ty} (neverFree : type.NeverFree) :
    ∃ datum, type.admits datum = true := by
  induction type using inductionOn with
  | primitive type =>
      rcases Scalar.exists_of_primitive type with ⟨content, isOfType⟩
      exact ⟨.scalar content, (admits_primitive_iff type _).mpr ⟨content, isOfType, rfl⟩⟩
  | never => cases neverFree _ (mem_nodes_self _) rfl
  | union left right ihLeft _ =>
      rcases ihLeft (neverFree.of_mem_nodes (left_mem_nodes left right)) with
        ⟨datum, admitted⟩
      exact ⟨.left datum, admitted⟩
  | option payload _ => exact ⟨.none, rfl⟩
  | record name fields ih =>
      have inhabited : ∀ field ∈ fields, ∃ datum, field.2.admits datum = true := by
        intro field fieldMem
        exact ih field fieldMem (neverFree.of_mem_nodes (field_mem_nodes name fieldMem))
      rcases exists_entries inhabited with ⟨data, entries⟩
      exact ⟨.record data, (admits_record_iff name fields _).mpr ⟨data, rfl, entries⟩⟩

/-- Data of a record with which a required field fails, if each own field of its label has a datum
with which it fails. -/
theorem exists_data_refused {fields : List (Label × Ty)} {required : Label × Ty}
    (inhabited : ∀ own ∈ fields, ∃ datum, own.2.admits datum = true)
    (refusedBy : ∀ own ∈ fields, own.1 = required.1 →
      ∃ datum, own.2.admits datum = true ∧ ¬required.2.Reads datum.write) :
    ∃ data, List.Forall₂ EntryAdmitted fields data ∧
      ∀ found, (Datum.record data).write.field? required.1.name = some found →
        ¬required.2.Reads found := by
  have each : ∀ own ∈ fields, ∃ entry, EntryAdmitted own entry ∧
      (own.1 = required.1 → ¬required.2.Reads entry.2.write) := by
    intro own ownMem
    by_cases sameLabel : own.1 = required.1
    · rcases refusedBy own ownMem sameLabel with ⟨datum, admitted, refused⟩
      exact ⟨(own.1, datum), ⟨rfl, admitted⟩, fun _ => refused⟩
    · rcases inhabited own ownMem with ⟨datum, admitted⟩
      exact ⟨(own.1, datum), ⟨rfl, admitted⟩, fun same => absurd same sameLabel⟩
  rcases exists_forall₂ each with ⟨data, entries⟩
  refine ⟨data, entries.imp (fun _ _ entry => entry.1), ?_⟩
  intro found looked
  rcases exists_entry_of_field? looked with ⟨entry, entryMem, sameName, rfl⟩
  rcases exists_mem_of_forall₂ entries.flip entry entryMem with ⟨own, _, admitted, refused⟩
  exact refused (admitted.1.trans (Label.name_injective sameName))

theorem isRecord_of_reads_record {leaf : Leaf} {fields : List (String × Value)}
    (reads : leaf.type.Reads (.record fields)) : leaf.member.isRecord = true := by
  cases leaf with
  | primitive type =>
      rcases (reads_primitive_iff type _).mp reads with ⟨content, _, differ⟩
      cases differ
  | record name required => rfl

/-- Every discerning type that the type is not assignable to fails to read some datum of it. -/
def RefusalsJustified (source : Ty) : Prop :=
  ∀ target : Ty, target.Discerning → ¬source.shape.sub target.shape = true →
    ∃ datum, source.admits datum = true ∧ ¬target.Reads datum.write

/-- A record that is assignable to no branch of a discerning type has a datum that none of them
reads, if its fields are inhabited and their refusals are justified. -/
theorem exists_unread_record {name : String} {fields : List (Label × Ty)} {target : Ty}
    (inhabited : ∀ own ∈ fields, ∃ datum, own.2.admits datum = true)
    (fieldUnread : ∀ own ∈ fields, RefusalsJustified own.2) (discerning : target.Discerning)
    (refused : ∀ other ∈ target.branches,
      ¬(Leaf.record name fields).member.sub other.leaf.member = true) :
    ∃ data, List.Forall₂ EntryAdmitted fields data ∧
      ∀ other ∈ target.branches, ¬other.leaf.type.Reads (Datum.record data).write := by
  by_cases hasRecord : ∃ judge ∈ target.branches, judge.leaf.member.isRecord = true
  · rcases hasRecord with ⟨judge, judgeMem, judgeRecord⟩
    cases shape : judge.leaf with
    | primitive type =>
        rw [shape] at judgeRecord
        cases judgeRecord
    | record judgeName required =>
        have notCovered := refused judge judgeMem
        rw [shape, Leaf.record_sub_iff] at notCovered
        simp only [Leaf.FieldsCover, not_forall, not_exists, not_and] at notCovered
        rcases notCovered with ⟨field, fieldMem, fails⟩
        have fieldDiscerning : field.2.Discerning := by
          apply discerning.of_mem_fields judgeMem
          rw [shape]
          exact fieldMem
        have refusedBy : ∀ own ∈ fields, own.1 = field.1 →
            ∃ datum, own.2.admits datum = true ∧ ¬field.2.Reads datum.write := by
          intro own ownMem sameLabel
          apply fieldUnread own ownMem field.2 fieldDiscerning
          exact fails own ownMem (congrArg Label.id sameLabel)
        rcases exists_data_refused inhabited refusedBy with ⟨data, entries, unread⟩
        refine ⟨data, entries, ?_⟩
        -- Only a record reads what was written, and it is the one with the failing field.
        intro other otherMem reads
        have otherRecord := isRecord_of_reads_record reads
        cases discerning.eq_of_records otherMem judgeMem otherRecord judgeRecord
        rw [shape] at reads
        rcases (reads_record_iff judgeName required _).mp reads field fieldMem with
          ⟨found, looked, fieldReads⟩
        exact unread found looked fieldReads
  · rcases exists_entries inhabited with ⟨data, entries⟩
    refine ⟨data, entries, ?_⟩
    intro other otherMem reads
    exact hasRecord ⟨other, otherMem, isRecord_of_reads_record reads⟩

theorem exists_unread_leaf {leaf : Leaf} {target : Ty}
    (inhabited : ∀ own ∈ leaf.fields, ∃ datum, own.2.admits datum = true)
    (fieldUnread : ∀ own ∈ leaf.fields, RefusalsJustified own.2)
    (discerning : target.Discerning)
    (refused : ∀ other ∈ target.branches, ¬leaf.member.sub other.leaf.member = true) :
    ∃ content, leaf.type.admits content = true ∧
      ∀ other ∈ target.branches, ¬other.leaf.type.Reads content.write := by
  cases leaf with
  | primitive type =>
      rcases Scalar.exists_of_primitive type with ⟨scalar, rfl⟩
      refine ⟨.scalar scalar, (admits_primitive_iff _ _).mpr ⟨scalar, rfl, rfl⟩, ?_⟩
      intro other otherMem reads
      rcases discerning.nonempty.leaf_of_reads otherMem (fun _ => rfl) reads with
        ⟨content, isPrimitive, same⟩
      cases same
      apply refused other otherMem
      rw [isPrimitive]
      exact Member.sub_refl _
  | record name fields =>
      rcases exists_unread_record inhabited fieldUnread discerning refused with
        ⟨data, entries, unread⟩
      refine ⟨.record data, ?_, unread⟩
      exact (admits_record_iff name fields _).mpr ⟨data, rfl, entries⟩

/-- The refusals of a type without the empty type are justified. -/
theorem NeverFree.refusalsJustified {source : Ty} (neverFree : source.NeverFree) :
    source.RefusalsJustified := by
  induction source using branchInduction with
  | step source ih =>
      intro target discerning refused
      simp only [shape_sub_iff, not_forall, not_exists, not_and] at refused
      rcases refused with ⟨branch, branchMem, above⟩
      have inhabited : ∀ own ∈ branch.leaf.fields, ∃ datum, own.2.admits datum = true := by
        intro own ownMem
        exact NeverFree.exists_admitted (neverFree.of_mem_fields branchMem ownMem)
      have fieldUnread : ∀ own ∈ branch.leaf.fields, RefusalsJustified own.2 := by
        intro own ownMem
        exact ih branch branchMem own ownMem (neverFree.of_mem_fields branchMem ownMem)
      rcases exists_unread_leaf inhabited fieldUnread discerning above with ⟨content, own, unread⟩
      refine ⟨branch.inject content, ?_, ?_⟩
      · exact (admits_iff source _).mpr ⟨branch, branchMem, content, own, rfl⟩
      · rw [write_inject branchMem own, reads_iff]
        rintro ⟨other, otherMem, reads⟩
        exact unread other otherMem reads

/-- For a type without the empty type and a discerning one, assignability says exactly that every
datum of the first can be converted into the second: a refusal is justified by a datum that the
second cannot read. -/
theorem subtype_iff_converts (source target : Ty) (neverFree : source.NeverFree)
    (discerning : target.Discerning) (distinct : source.LabelsDistinct)
    (coherent : Label.Coherent (source.labels ++ target.labels)) :
    ((source.relate target).subtype = true ↔
        ∀ datum, source.admits datum = true → (target.convert? datum).isSome) ∧
      ((source.relate target).subtype = false ↔
        ∃ datum, source.admits datum = true ∧ target.convert? datum = none) := by
  have converts : (source.relate target).subtype = true →
      ∀ datum, source.admits datum = true → (target.convert? datum).isSome := by
    intro assignable datum admitted
    exact reads_of_shape_sub coherent assignable (reads_write distinct admitted)
  have justified : (source.relate target).subtype = false →
      ∃ datum, source.admits datum = true ∧ target.convert? datum = none := by
    intro refused
    rcases neverFree.refusalsJustified target discerning (Bool.eq_false_iff.mp refused) with
      ⟨datum, admitted, unread⟩
    exact ⟨datum, admitted, Option.not_isSome_iff_eq_none.mp unread⟩
  refine ⟨⟨converts, ?_⟩, ⟨justified, ?_⟩⟩
  · intro allConvert
    by_contra refused
    rcases justified (Bool.eq_false_iff.mpr refused) with ⟨datum, admitted, unread⟩
    have converted := allConvert datum admitted
    rw [unread] at converted
    cases converted
  · rintro ⟨datum, admitted, unread⟩
    apply Bool.eq_false_iff.mpr
    intro assignable
    have converted := converts assignable datum admitted
    rw [unread] at converted
    cases converted

/-- A record around an optional reading. -/
def envelope : Ty :=
  .record "Envelope" [(⟨"body"⟩, .option reading), (⟨"urgent"⟩, .primitive .bool)]

/-- An envelope whose reading must have a note. -/
def notedEnvelope : Ty :=
  .option (.record "NotedEnvelope"
    [(⟨"body"⟩, .option (.record "NotedReading" [(⟨"note"⟩, .primitive .string)]))])

theorem envelope_refused_by_notedEnvelope :
    envelope.NeverFree ∧ notedEnvelope.Discerning ∧ envelope.LabelsDistinct ∧
      Label.Coherent (envelope.labels ++ notedEnvelope.labels) ∧
      (envelope.relate notedEnvelope).subtype = false ∧
      ∃ datum, envelope.admits datum = true ∧ notedEnvelope.convert? datum = none :=
  have discerning : notedEnvelope.Discerning := ⟨by decide, by decide⟩
  ⟨by decide, discerning, by decide, by decide, by decide,
    (subtype_iff_converts envelope notedEnvelope (by decide) discerning (by decide)
      (by decide)).2.mp (by decide)⟩

end Ty

end Conform
