import Conform.Proofs.Matching
import Conform.Proofs.Ty.Nodes
import Conform.Proofs.Value.Reordering
import Mathlib.Data.List.Nodup

/-!
# Reading and writing

What a record reads, writes and admits is said by lists that are walked in step: the declared
fields, the fields of a datum and the written fields of a value. This file relates the entries of
these lists, and derives from it what holds for all types by induction over their branches.

A type only reads data of its own. It reads every value that one of its own data is written as, as
long as the labels of each record are distinct: under a repeated label a look-up finds the first
field for both. And it does not observe the order of fields under distinct names.
-/

namespace Conform

theorem Datum.writeFields_eq_map (data : List (Label × Datum)) :
    writeFields data = data.map (fun entry => (entry.1.name, entry.2.write)) := by
  induction data with
  | nil => rfl
  | cons entry rest ih =>
      rcases entry with ⟨label, datum⟩
      simp [writeFields, ih]

namespace Ty

/-- A field of a record and an entry of its datum: the labels are the same, and the datum belongs
to the type of the field. -/
def EntryAdmitted (field : Label × Ty) (entry : Label × Datum) : Prop :=
  field.1 = entry.1 ∧ field.2.admits entry.2 = true

/-- A field of a record and the entry it reads from a value. -/
def EntryRead (value : Value) (field : Label × Ty) (entry : Label × Datum) : Prop :=
  field.1 = entry.1 ∧
    ∃ found, value.field? field.1.name = some found ∧ field.2.read? found = some entry.2

/-- A field of a record and an entry that the field reads back from what it is written as. -/
def EntryReadBack (field : Label × Ty) (entry : Label × Datum) : Prop :=
  field.1 = entry.1 ∧ field.2.read? entry.2.write = some entry.2

theorem admitsFields_iff (fields : List (Label × Ty)) (data : List (Label × Datum)) :
    admitsFields fields data = true ↔ List.Forall₂ EntryAdmitted fields data := by
  induction fields generalizing data with
  | nil => cases data <;> simp [admitsFields]
  | cons field rest ih =>
      cases data with
      | nil => simp [admitsFields]
      | cons entry others =>
          rcases field with ⟨label, type⟩
          rcases entry with ⟨other, datum⟩
          simp [admitsFields, ih, EntryAdmitted]

theorem readFields?_eq_some_iff (fields : List (Label × Ty)) (value : Value)
    (data : List (Label × Datum)) :
    readFields? fields value = some data ↔ List.Forall₂ (EntryRead value) fields data := by
  induction fields generalizing data with
  | nil =>
      cases data <;> simp [readFields?]
  | cons field rest ih =>
      rcases field with ⟨label, type⟩
      rw [readFields?]
      constructor
      · intro reading
        split at reading
        · contradiction
        · rename_i found looked
          split at reading
          · rename_i datum others readHead readRest
            cases reading
            exact List.Forall₂.cons ⟨rfl, found, looked, readHead⟩ ((ih others).mp readRest)
          · contradiction
      · intro pairs
        rcases List.forall₂_cons_left_iff.mp pairs with ⟨⟨_, datum⟩, others, head, tail, rfl⟩
        rcases head with ⟨rfl, found, looked, readHead⟩
        simp [looked, readHead, (ih others).mpr tail]

theorem reads_record_iff (name : String) (fields : List (Label × Ty)) (value : Value) :
    (record name fields).Reads value ↔
      ∀ field ∈ fields, ∃ found,
        value.field? field.1.name = some found ∧ field.2.Reads found := by
  simp only [Reads, read?, Option.isSome_map]
  induction fields with
  | nil => simp [readFields?]
  | cons field rest ih =>
      rcases field with ⟨label, type⟩
      rw [readFields?, List.forall_mem_cons, ← ih]
      cases value.field? label.name with
      | none => simp
      | some found =>
          cases readHead : type.read? found with
          | none => simp [readHead]
          | some datum => cases readFields? rest value <;> simp [readHead]

theorem reads_primitive_iff (type : Primitive) (value : Value) :
    (primitive type).Reads value ↔
      ∃ content, content.primitive = type ∧ value = .scalar content := by
  cases value with
  | scalar content =>
      by_cases same : content.primitive = type <;> simp [Reads, read?, same]
  | record fields => simp [Reads, read?]

/-- A value without fields is read by primitive leaves only, if every record asks for a field. -/
theorem NoEmptyRecord.leaf_of_reads {type : Ty} (nonempty : type.NoEmptyRecord) {branch : Branch}
    (branchMem : branch ∈ type.branches) {value : Value}
    (fieldless : ∀ name, value.field? name = none) (reads : branch.leaf.type.Reads value) :
    ∃ content : Scalar, branch.leaf = .primitive content.primitive ∧ value = .scalar content := by
  cases shape : branch.leaf with
  | primitive primitive =>
      rw [shape] at reads
      rcases (reads_primitive_iff primitive value).mp reads with ⟨content, rfl, isScalar⟩
      exact ⟨content, rfl, isScalar⟩
  | record name fields =>
      rw [shape] at reads
      cases fields with
      | nil => cases nonempty _ (record_mem_nodes branchMem shape)
      | cons field rest =>
          rcases (reads_record_iff name _ value).mp reads field List.mem_cons_self with
            ⟨found, looked, _⟩
          rw [fieldless] at looked
          cases looked

theorem admits_primitive_iff (type : Primitive) (datum : Datum) :
    (primitive type).admits datum = true ↔
      ∃ content, content.primitive = type ∧ datum = .scalar content := by
  cases datum <;> simp [admits]

theorem admits_record_iff (name : String) (fields : List (Label × Ty)) (datum : Datum) :
    (record name fields).admits datum = true ↔
      ∃ data, datum = .record data ∧ List.Forall₂ EntryAdmitted fields data := by
  cases datum <;> simp [admits, admitsFields_iff]

/-- The datum of a leaf is a scalar of its primitive type or has an entry for each of its
fields. -/
theorem admits_leaf_inversion {leaf : Leaf} {content : Datum}
    (own : leaf.type.admits content = true) :
    (∃ scalar : Scalar, leaf = .primitive scalar.primitive ∧ content = .scalar scalar) ∨
      ∃ name data, leaf = .record name leaf.fields ∧ content = .record data ∧
        List.Forall₂ EntryAdmitted leaf.fields data := by
  cases leaf with
  | primitive type =>
      left
      rcases (admits_primitive_iff type content).mp own with ⟨scalar, rfl, rfl⟩
      exact ⟨scalar, rfl, rfl⟩
  | record name fields =>
      right
      rcases (admits_record_iff name fields content).mp own with ⟨data, rfl, entries⟩
      exact ⟨name, data, rfl, rfl, entries⟩

/-- What a leaf reads is the scalar itself or has an entry for each of its fields, which the field
reads from what its name finds. -/
theorem read?_leaf_inversion {leaf : Leaf} {value : Value} {content : Datum}
    (reading : leaf.type.read? value = some content) :
    (∃ scalar : Scalar, leaf = .primitive scalar.primitive ∧ value = .scalar scalar ∧
        content = .scalar scalar) ∨
      ∃ name data, leaf = .record name leaf.fields ∧ content = .record data ∧
        List.Forall₂ (EntryRead value) leaf.fields data := by
  cases leaf with
  | primitive type =>
      left
      have reads : (primitive type).Reads value := Option.isSome_iff_exists.mpr ⟨content, reading⟩
      rcases (reads_primitive_iff type value).mp reads with ⟨scalar, rfl, rfl⟩
      simp only [Leaf.type, read?, if_true, Option.some.injEq] at reading
      exact ⟨scalar, rfl, rfl, reading.symm⟩
  | record name fields =>
      right
      simp only [Leaf.type, read?, Option.map_eq_some_iff] at reading
      rcases reading with ⟨data, fieldsReading, rfl⟩
      exact ⟨name, data, rfl, rfl, (readFields?_eq_some_iff fields value data).mp fieldsReading⟩

theorem read?_admits {type : Ty} {value : Value} {datum : Datum}
    (reading : type.read? value = some datum) : type.admits datum = true := by
  induction type using branchInduction generalizing value datum with
  | step type ih =>
      rw [read?_eq_findSome?] at reading
      rcases List.exists_of_findSome?_eq_some reading with ⟨branch, branchMem, branchReading⟩
      rcases Option.map_eq_some_iff.mp branchReading with ⟨content, leafReading, injected⟩
      refine (admits_iff type datum).mpr ⟨branch, branchMem, content, ?_, injected⟩
      rcases read?_leaf_inversion leafReading with
        ⟨scalar, isPrimitive, rfl, rfl⟩ | ⟨name, data, isRecord, rfl, entries⟩
      · rw [isPrimitive]
        exact (admits_primitive_iff _ _).mpr ⟨scalar, rfl, rfl⟩
      · rw [isRecord]
        apply (admits_record_iff name _ _).mpr
        refine ⟨data, rfl, ?_⟩
        apply forall₂_imp_of_mem entries
        rintro field fieldMem entry _ ⟨sameLabel, found, _, fieldReading⟩
        exact ⟨sameLabel, ih branch branchMem field fieldMem fieldReading⟩

theorem labels_eq_of_entries {fields : List (Label × Ty)} {data : List (Label × Datum)}
    (entries : List.Forall₂ EntryAdmitted fields data) :
    data.map Prod.fst = fields.map Prod.fst := by
  induction entries with
  | nil => rfl
  | cons head tail ih => simp [ih, head.1]

theorem written_names {fields : List (Label × Ty)} {data : List (Label × Datum)}
    (entries : List.Forall₂ EntryAdmitted fields data) :
    (Datum.writeFields data).map Prod.fst = (fields.map Prod.fst).map Label.name := by
  rw [Datum.writeFields_eq_map, ← labels_eq_of_entries entries]
  simp

theorem writeFields_distinct {fields : List (Label × Ty)} {data : List (Label × Datum)}
    (distinct : (fields.map Prod.fst).Nodup) (entries : List.Forall₂ EntryAdmitted fields data) :
    ((Datum.writeFields data).map Prod.fst).Nodup := by
  rw [written_names entries]
  exact List.Nodup.map (fun _ _ sameName => Label.name_injective sameName) distinct

/-- What a name finds in a written record is an entry of that name. -/
theorem exists_entry_of_field? {data : List (Label × Datum)} {name : String} {found : Value}
    (looked : (Datum.record data).write.field? name = some found) :
    ∃ entry ∈ data, entry.1.name = name ∧ entry.2.write = found := by
  have writtenMem := Value.mem_of_lookup looked
  rw [Datum.writeFields_eq_map] at writtenMem
  rcases List.mem_map.mp writtenMem with ⟨entry, entryMem, same⟩
  exact ⟨entry, entryMem, congrArg Prod.fst same, congrArg Prod.snd same⟩

theorem field?_write {fields : List (Label × Ty)} {data : List (Label × Datum)}
    (distinct : (fields.map Prod.fst).Nodup) (entries : List.Forall₂ EntryAdmitted fields data)
    {entry : Label × Datum} (entryMem : entry ∈ data) :
    (Datum.record data).write.field? entry.1.name = some entry.2.write := by
  apply (Value.lookup_eq_some_iff (writeFields_distinct distinct entries) _ _).mpr
  rw [Datum.writeFields_eq_map]
  exact List.mem_map_of_mem entryMem

/-- A record reads its data back, if each field reads back its entry. -/
theorem readFields?_write {fields : List (Label × Ty)} {data : List (Label × Datum)}
    (distinct : (fields.map Prod.fst).Nodup) (entries : List.Forall₂ EntryReadBack fields data) :
    readFields? fields (Datum.record data).write = some data := by
  have admitted : List.Forall₂ EntryAdmitted fields data :=
    entries.imp (fun _ _ readBack => ⟨readBack.1, read?_admits readBack.2⟩)
  apply (readFields?_eq_some_iff fields _ data).mpr
  apply forall₂_imp_of_mem entries
  rintro field _ entry entryMem ⟨sameLabel, readBack⟩
  refine ⟨sameLabel, entry.2.write, ?_, readBack⟩
  rw [sameLabel]
  exact field?_write distinct admitted entryMem

/-- A type reads every value that a datum of the type is written as. -/
theorem reads_write {type : Ty} (distinct : type.LabelsDistinct) {datum : Datum}
    (admitted : type.admits datum = true) : type.Reads datum.write := by
  induction type using branchInduction generalizing datum with
  | step type ih =>
      rcases (admits_iff type datum).mp admitted with ⟨branch, branchMem, content, own, rfl⟩
      rw [write_inject branchMem own]
      refine (reads_iff type _).mpr ⟨branch, branchMem, ?_⟩
      rcases admits_leaf_inversion own with
        ⟨scalar, isPrimitive, rfl⟩ | ⟨name, data, isRecord, rfl, entries⟩
      · rw [isPrimitive]
        exact (reads_primitive_iff _ _).mpr ⟨scalar, rfl, rfl⟩
      · rw [isRecord]
        apply (reads_record_iff name branch.leaf.fields _).mpr
        intro field fieldMem
        rcases exists_mem_of_forall₂ entries field fieldMem with
          ⟨entry, entryMem, sameLabel, fieldAdmits⟩
        have looked := field?_write (distinct.nodup_fields branchMem) entries entryMem
        rw [← sameLabel] at looked
        refine ⟨entry.2.write, looked, ?_⟩
        have fieldDistinct := distinct.of_mem_fields branchMem fieldMem
        exact ih branch branchMem field fieldMem fieldDistinct fieldAdmits

/-- Reading does not observe the order of fields under distinct names. -/
theorem read?_reordered {first second : Value} (reordered : first.Reordered second) (type : Ty) :
    type.read? first = type.read? second := by
  induction type using inductionOn generalizing first second with
  | primitive type =>
      cases reordered with
      | scalar content => rfl
      | record permuted fieldwise => rfl
  | never => rfl
  | union left right ihLeft ihRight =>
      rw [read?, read?, ihLeft reordered, ihRight reordered]
  | option payload ih =>
      by_cases isUnit : first = .unit
      · rw [isUnit, reordered.eq_unit_iff.mp isUnit]
      · have notUnit : second ≠ .unit := fun same => isUnit (reordered.eq_unit_iff.mpr same)
        rw [read?_option_of_ne_unit payload isUnit, read?_option_of_ne_unit payload notUnit,
          ih reordered]
  | record name fields ih =>
      rw [read?, read?]
      congr 1
      induction fields with
      | nil => rfl
      | cons field rest ihRest =>
          rcases field with ⟨label, type⟩
          have restAgrees := ihRest
            (fun field fieldMem => ih field (List.mem_cons_of_mem _ fieldMem))
          have looked := reordered.field? label.name
          rw [readFields?, readFields?, restAgrees]
          revert looked
          cases first.field? label.name <;> cases second.field? label.name <;> intro looked
          · rfl
          · cases looked
          · cases looked
          · cases looked with
            | some foundReordered =>
                simp only [ih (label, type) List.mem_cons_self foundReordered]

end Ty

end Conform
