import Conform.Proofs.Ty.Exchange
import Conform.Proofs.Ty.Interchange
import Conform.Proofs.Ty.Refusal

/-!
# Unmistakable types

Written values do not show on which side of a union they were written, and a value without content
does not show whether it stands for absence. In an unmistakable type they do not have to: no value
written on one side of a union is read on the other, and no datum that is present is written as the
value without content. The fields of a record matter only if the record has data at all.

This is exactly what it takes for data to survive the way through every reordered form of the type
and back. One direction reads a written datum side by side with its type. For the other, every union
in the type is exchanged in turn, and a datum that was taken for one of the other side would not
come back.
-/

namespace Conform

namespace Ty

/-- What a datum of the type is written as tells on which sides it was taken. -/
inductive Unmistakable : Ty → Prop where
  | primitive (type : Primitive) : Unmistakable (.primitive type)
  | never : Unmistakable .never
  | union {left right : Ty} (apart : Separate left right) (onLeft : Unmistakable left)
      (onRight : Unmistakable right) : Unmistakable (.union left right)
  | option {payload : Ty}
      (present : ∀ datum, payload.admits datum = true → datum.write ≠ .unit)
      (inside : Unmistakable payload) : Unmistakable (.option payload)
  | record (name : String) {fields : List (Label × Ty)}
      (inside : (∃ data, List.Forall₂ EntryAdmitted fields data) →
        ∀ field ∈ fields, Unmistakable field.2) : Unmistakable (.record name fields)

section Sides

variable {left right payload : Ty} {value : Value}

theorem preserves_union_left (preserves : left.Preserves value) (right : Ty) :
    (left.union right).Preserves value := by
  rcases preserves with ⟨datum, reading, reordered⟩
  exact ⟨.left datum, read?_union_eq_left.mpr reading, reordered⟩

theorem preserves_union_right (refused : ¬left.Reads value) (preserves : right.Preserves value) :
    (left.union right).Preserves value := by
  rcases preserves with ⟨datum, reading, reordered⟩
  exact ⟨.right datum, read?_union_eq_right.mpr ⟨refused, reading⟩, reordered⟩

theorem preserves_option (present : value ≠ .unit) (preserves : payload.Preserves value) :
    payload.option.Preserves value := by
  rcases preserves with ⟨datum, reading, reordered⟩
  exact ⟨.some datum, read?_option_eq_some.mpr ⟨present, reading⟩, reordered⟩

theorem LabelsDistinct.sides (distinct : (left.union right).LabelsDistinct) :
    left.LabelsDistinct ∧ right.LabelsDistinct := by
  constructor
  · exact distinct.of_mem_nodes (left_mem_nodes left right)
  · exact distinct.of_mem_nodes (right_mem_nodes left right)

theorem LabelsDistinct.of_option (distinct : payload.option.LabelsDistinct) :
    payload.LabelsDistinct :=
  distinct.of_mem_nodes (payload_mem_nodes payload)

end Sides

namespace Unmistakable

/-- Every reordered form of an unmistakable type preserves what its data are written as. -/
theorem preserves {type other : Ty} (unmistakable : type.Unmistakable)
    (distinct : type.LabelsDistinct) (reordered : type.Reordered other) {datum : Datum}
    (admitted : type.admits datum = true) : other.Preserves datum.write := by
  induction unmistakable generalizing other datum with
  | primitive type =>
      cases reordered
      rcases (admits_primitive_iff type datum).mp admitted with ⟨scalar, rfl, rfl⟩
      exact ⟨.scalar scalar, by simp [read?, Datum.write], Value.Reordered.refl _⟩
  | never => simp [admits] at admitted
  | @union left right apart _ _ ihLeft ihRight =>
      rcases (admits_union_iff left right datum).mp admitted with
        ⟨inner, own, rfl⟩ | ⟨inner, own, rfl⟩
      · cases reordered with
        | union onLeft onRight =>
            have preserved := ihLeft distinct.sides.1 onLeft own
            exact preserves_union_left preserved _
        | exchange onLeft onRight =>
            have preserved := ihLeft distinct.sides.1 onLeft own
            have refused := (onRight.reads_iff _).not.mp (apart.1 inner own)
            exact preserves_union_right refused preserved
      · cases reordered with
        | union onLeft onRight =>
            have preserved := ihRight distinct.sides.2 onRight own
            have refused := (onLeft.reads_iff _).not.mp (apart.2 inner own)
            exact preserves_union_right refused preserved
        | exchange onLeft onRight =>
            have preserved := ihRight distinct.sides.2 onRight own
            exact preserves_union_left preserved _
  | @option payload present _ ih =>
      cases reordered with
      | option inside =>
          rcases (admits_option_iff payload datum).mp admitted with rfl | ⟨inner, own, rfl⟩
          · exact ⟨.none, by simp [read?, Datum.write], Value.Reordered.refl _⟩
          · have preserved := ih distinct.of_option inside own
            exact preserves_option (present inner own) preserved
  | @record name fields _ ih =>
      rcases (admits_record_iff name fields datum).mp admitted with ⟨data, rfl, entries⟩
      cases reordered with
      | @record _ otherName _ arranged others fieldwise permuted =>
          have ownDistinct : (fields.map Prod.fst).Nodup := distinct _ (mem_nodes_self _)
          have sameLabels : (others.map Prod.fst).Perm (fields.map Prod.fst) := by
            rw [← labels_of_fieldReordered fieldwise]
            exact permuted.symm.map Prod.fst
          apply preserves_record ownDistinct sameLabels _ entries otherName
          intro other otherMem
          rcases (exists_reordered_partners fieldwise permuted).2 other otherMem with
            ⟨own, ownMem, sameLabel, inside⟩
          refine ⟨own, ownMem, sameLabel, ?_⟩
          intro datum ownAdmits
          have fieldDistinct := distinct.of_mem_nodes (field_mem_nodes name ownMem)
          exact ih ⟨data, entries⟩ own ownMem fieldDistinct inside ownAdmits

theorem read?_write {type : Ty} (unmistakable : type.Unmistakable)
    (distinct : type.LabelsDistinct) {datum : Datum} (admitted : type.admits datum = true) :
    type.read? datum.write = some datum := by
  induction unmistakable generalizing datum with
  | primitive type =>
      rcases (admits_primitive_iff type datum).mp admitted with ⟨scalar, rfl, rfl⟩
      simp [read?, Datum.write]
  | never => simp [admits] at admitted
  | @union left right apart _ _ ihLeft ihRight =>
      rcases (admits_union_iff left right datum).mp admitted with
        ⟨inner, own, rfl⟩ | ⟨inner, own, rfl⟩
      · exact read?_union_eq_left.mpr (ihLeft distinct.sides.1 own)
      · exact read?_union_eq_right.mpr ⟨apart.2 inner own, ihRight distinct.sides.2 own⟩
  | @option payload present _ ih =>
      rcases (admits_option_iff payload datum).mp admitted with rfl | ⟨inner, own, rfl⟩
      · simp [read?, Datum.write]
      · exact read?_option_eq_some.mpr ⟨present inner own, ih distinct.of_option own⟩
  | @record name fields _ ih =>
      rcases (admits_record_iff name fields datum).mp admitted with ⟨data, rfl, entries⟩
      have reading : readFields? fields (Datum.record data).write = some data := by
        apply readFields?_write (distinct _ (mem_nodes_self _))
        apply forall₂_imp_of_mem entries
        rintro field fieldMem entry _ ⟨sameLabel, own⟩
        have fieldDistinct := distinct.of_mem_nodes (field_mem_nodes name fieldMem)
        exact ⟨sameLabel, ih ⟨data, entries⟩ field fieldMem fieldDistinct own⟩
      rw [read?, reading, Option.map_some]

end Unmistakable

theorem Reordered.exists_converted {type other : Ty} (reordered : type.Reordered other)
    (distinct : type.LabelsDistinct) {datum : Datum} (admitted : type.admits datum = true) :
    ∃ converted, other.convert? datum = some converted := by
  apply Option.isSome_iff_exists.mp
  exact (reordered.reads_iff datum.write).mp (reads_write distinct admitted)

/-- Each datum of the first type is converted to the second and comes back unchanged. -/
def Returns (type other : Ty) : Prop :=
  ∀ datum, type.admits datum = true →
    ∃ converted, other.convert? datum = some converted ∧ type.convert? converted = some datum

/-- The data of the type come back from each of its reordered forms. -/
def Recovers (type : Ty) : Prop := ∀ other, type.Reordered other → type.Returns other

theorem Unmistakable.recovers {type : Ty} (unmistakable : type.Unmistakable)
    (distinct : type.LabelsDistinct) : type.Recovers := by
  intro other reordered datum admitted
  rcases unmistakable.preserves distinct reordered admitted with ⟨converted, reading, same⟩
  refine ⟨converted, reading, ?_⟩
  rw [convert?, ← read?_reordered same]
  exact unmistakable.read?_write distinct admitted

namespace Recovers

section Union

variable {left right : Ty} (recovers : (left.union right).Recovers)
  (distinct : (left.union right).LabelsDistinct)

include recovers distinct

theorem separate : Separate left right := by
  have rightUnread : ∀ datum, right.admits datum = true → ¬left.Reads datum.write := by
    intro datum admitted reads
    rcases Option.isSome_iff_exists.mp reads with ⟨inner, reading⟩
    rcases recovers _ (Reordered.refl _) (.right datum) admitted with ⟨converted, there, back⟩
    cases (read?_union_eq_left.mpr reading).symm.trans there
    have innerReads := reads_write distinct.sides.1 (read?_admits reading)
    exact (read?_union_eq_right.mp back).1 innerReads
  constructor
  · -- With the sides exchanged, a value that the right side reads comes back from there only.
    intro datum admitted reads
    rcases Option.isSome_iff_exists.mp reads with ⟨inner, reading⟩
    have exchanged := Reordered.exchange (Reordered.refl left) (Reordered.refl right)
    rcases recovers _ exchanged (.left datum) admitted with ⟨converted, there, back⟩
    cases (read?_union_eq_left.mpr reading).symm.trans there
    apply rightUnread inner (read?_admits reading)
    exact Option.isSome_iff_exists.mpr ⟨datum, read?_union_eq_left.mp back⟩
  · exact rightUnread

theorem of_left : left.Recovers := by
  intro other reordered datum admitted
  rcases reordered.exists_converted distinct.sides.1 admitted with ⟨inner, reading⟩
  rcases recovers _ (Reordered.union reordered (Reordered.refl right)) (.left datum) admitted with
    ⟨converted, there, back⟩
  cases (read?_union_eq_left.mpr reading).symm.trans there
  exact ⟨inner, reading, read?_union_eq_left.mp back⟩

theorem of_right : right.Recovers := by
  intro other reordered datum admitted
  rcases reordered.exists_converted distinct.sides.2 admitted with ⟨inner, reading⟩
  have refused := (recovers.separate distinct).2 datum admitted
  rcases recovers _ (Reordered.union (Reordered.refl left) reordered) (.right datum) admitted with
    ⟨converted, there, back⟩
  cases (read?_union_eq_right.mpr ⟨refused, reading⟩).symm.trans there
  exact ⟨inner, reading, (read?_union_eq_right.mp back).2⟩

end Union

section Option

variable {payload : Ty} (recovers : payload.option.Recovers)

include recovers

theorem present {datum : Datum} (admitted : payload.admits datum = true) :
    datum.write ≠ .unit := by
  intro isUnit
  rcases recovers _ (Reordered.refl _) (.some datum) admitted with ⟨converted, there, back⟩
  have absent : payload.option.convert? (.some datum) = some .none := by
    simp [convert?, Datum.write, isUnit, read?]
  cases absent.symm.trans there
  simp [convert?, Datum.write, read?] at back

theorem of_option (distinct : payload.LabelsDistinct) : payload.Recovers := by
  intro other reordered datum admitted
  rcases reordered.exists_converted distinct admitted with ⟨inner, reading⟩
  have present := recovers.present admitted
  rcases recovers _ (Reordered.option reordered) (.some datum) admitted with
    ⟨converted, there, back⟩
  cases (read?_option_eq_some.mpr ⟨present, reading⟩).symm.trans there
  exact ⟨inner, reading, (read?_option_eq_some.mp back).2⟩

end Option

section Record

variable {name : String} {fields : List (Label × Ty)} {field : Label × Ty}

/-- Data of a record with a given datum under one of its labels. -/
theorem exists_entries_with (inhabited : ∃ data, List.Forall₂ EntryAdmitted fields data)
    (fieldMem : field ∈ fields) {datum : Datum} (admitted : field.2.admits datum = true) :
    ∃ data, List.Forall₂ EntryAdmitted fields data ∧ (field.1, datum) ∈ data := by
  rcases inhabited with ⟨present, presentEntries⟩
  have each : ∀ own ∈ fields, ∃ entry, EntryAdmitted own entry ∧
      (own = field → entry = (field.1, datum)) := by
    intro own ownMem
    by_cases same : own = field
    · subst own
      exact ⟨(field.1, datum), ⟨rfl, admitted⟩, fun _ => rfl⟩
    · rcases exists_mem_of_forall₂ presentEntries own ownMem with ⟨entry, _, ownEntry⟩
      exact ⟨entry, ownEntry, fun isField => absurd isField same⟩
  rcases exists_forall₂ each with ⟨data, entries⟩
  refine ⟨data, entries.imp (fun _ _ entry => entry.1), ?_⟩
  rcases exists_mem_of_forall₂ entries field fieldMem with ⟨entry, entryMem, _, chosen⟩
  exact chosen rfl ▸ entryMem

theorem exists_fields_with (fieldMem : field ∈ fields) {other : Ty}
    (reordered : field.2.Reordered other) :
    ∃ others, List.Forall₂ FieldReordered fields others ∧ (field.1, other) ∈ others := by
  have each : ∀ own ∈ fields, ∃ partner, FieldReordered own partner ∧
      (own = field → partner = (field.1, other)) := by
    intro own ownMem
    by_cases same : own = field
    · subst own
      exact ⟨(field.1, other), FieldReordered.mk field.1 reordered, fun _ => rfl⟩
    · exact ⟨own, FieldReordered.mk own.1 (Reordered.refl own.2), fun isField => absurd isField same⟩
  rcases exists_forall₂ each with ⟨others, pairs⟩
  refine ⟨others, pairs.imp (fun _ _ pair => pair.1), ?_⟩
  rcases exists_mem_of_forall₂ pairs field fieldMem with ⟨partner, partnerMem, _, chosen⟩
  exact chosen rfl ▸ partnerMem

theorem exists_data_read {value : Value} {datum : Datum}
    (reading : (record name fields).read? value = some datum) :
    ∃ data, datum = .record data ∧ List.Forall₂ (EntryRead value) fields data := by
  rw [read?, Option.map_eq_some_iff] at reading
  rcases reading with ⟨data, fieldsReading, rfl⟩
  exact ⟨data, rfl, (readFields?_eq_some_iff fields value data).mp fieldsReading⟩

/-- What a field reads from the written data of a record of distinct labels is read from the datum
under its label. -/
theorem read?_of_entryRead {written : List (Label × Ty)} {data : List (Label × Datum)}
    (distinct : (written.map Prod.fst).Nodup) (entries : List.Forall₂ EntryAdmitted written data)
    {label : Label} {type : Ty} {datum : Datum} {entry : Label × Datum}
    (entryRead : EntryRead (Datum.record data).write (label, type) entry)
    (datumMem : (label, datum) ∈ data) : type.read? datum.write = some entry.2 := by
  rcases entryRead with ⟨_, found, looked, reading⟩
  have isWritten := field?_write distinct entries datumMem
  rw [Option.some.inj (isWritten.symm.trans looked)]
  exact reading

theorem of_field (recovers : (record name fields).Recovers)
    (distinct : (fields.map Prod.fst).Nodup)
    (inhabited : ∃ data, List.Forall₂ EntryAdmitted fields data) (fieldMem : field ∈ fields) :
    field.2.Recovers := by
  intro other reordered datum admitted
  rcases exists_entries_with inhabited fieldMem admitted with ⟨data, entries, datumMem⟩
  rcases exists_fields_with fieldMem reordered with ⟨others, fieldwise, otherMem⟩
  have recordAdmits := (admits_record_iff name fields (.record data)).mpr ⟨data, rfl, entries⟩
  rcases recovers _ (Reordered.record name name fieldwise (List.Perm.refl others)) _ recordAdmits
    with ⟨converted, there, back⟩
  rcases exists_data_read there with ⟨convertedData, rfl, thereEntries⟩
  rcases exists_mem_of_forall₂ thereEntries (field.1, other) otherMem with
    ⟨⟨label, inner⟩, innerMem, innerRead⟩
  cases innerRead.1
  refine ⟨inner, read?_of_entryRead distinct entries innerRead datumMem, ?_⟩
  -- On the way back the field reads what the converted record has under the same label.
  have othersDistinct : (others.map Prod.fst).Nodup := labels_of_fieldReordered fieldwise ▸ distinct
  have convertedEntries : List.Forall₂ EntryAdmitted others convertedData :=
    (admitsFields_iff others convertedData).mp (read?_admits there)
  rcases exists_data_read back with ⟨_, same, backEntries⟩
  cases same
  rcases exists_mem_of_forall₂ backEntries field fieldMem with
    ⟨⟨backLabel, backDatum⟩, backMem, backRead⟩
  cases backRead.1
  have dataDistinct : (data.map Prod.fst).Nodup := labels_eq_of_entries entries ▸ distinct
  cases List.inj_on_of_nodup_map dataDistinct datumMem backMem rfl
  exact read?_of_entryRead othersDistinct convertedEntries backRead innerMem

end Record

end Recovers

theorem Unmistakable.of_recovers {type : Ty} (recovers : type.Recovers)
    (distinct : type.LabelsDistinct) : type.Unmistakable := by
  induction type using inductionOn with
  | primitive type => exact Unmistakable.primitive type
  | never => exact Unmistakable.never
  | union left right ihLeft ihRight =>
      apply Unmistakable.union (recovers.separate distinct)
      · exact ihLeft (recovers.of_left distinct) distinct.sides.1
      · exact ihRight (recovers.of_right distinct) distinct.sides.2
  | option payload ih =>
      apply Unmistakable.option
      · intro datum admitted
        exact recovers.present admitted
      · exact ih (recovers.of_option distinct.of_option) distinct.of_option
  | record name fields ih =>
      apply Unmistakable.record name
      intro inhabited field fieldMem
      have fieldRecovers := recovers.of_field (distinct _ (mem_nodes_self _)) inhabited fieldMem
      exact ih field fieldMem fieldRecovers (distinct.of_mem_nodes (field_mem_nodes name fieldMem))

end Ty

end Conform
