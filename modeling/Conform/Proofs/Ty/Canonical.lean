import Conform.Proofs.Ty.Reading
import Conform.Proofs.Value.Projection

/-!
# Canonical data

A value may be read as a datum that is written differently: fields that no one asked for are left
out, and a record without fields turns any value into the empty record. Nothing is gained on the
way, though. What a datum is written as is a projection of the value it was read from, and a type
that reads a projection reads the whole value as well.

This keeps reading stable. A side of a union that refused the value refuses its projection too, so
the branch that read the value is still the first to read what its datum is written as.
-/

namespace Conform

namespace Ty

/-- What is read from a projection of a value can be read from the value. -/
theorem reads_of_projectsTo {type : Ty} {whole part : Value} (projects : whole.ProjectsTo part)
    (reads : type.Reads part) : type.Reads whole := by
  induction type using branchInduction generalizing whole part with
  | step type ih =>
      rcases (reads_iff type part).mp reads with ⟨branch, branchMem, branchReads⟩
      refine (reads_iff type whole).mpr ⟨branch, branchMem, ?_⟩
      rcases Option.isSome_iff_exists.mp branchReads with ⟨content, leafReading⟩
      rcases read?_leaf_inversion leafReading with
        ⟨scalar, _, rfl, _⟩ | ⟨name, data, isRecord, _, entries⟩
      · rw [projects.eq_scalar]
        exact branchReads
      · rw [isRecord]
        apply (reads_record_iff name _ whole).mpr
        intro field fieldMem
        rcases exists_mem_of_forall₂ entries field fieldMem with
          ⟨entry, _, _, inner, looked, fieldReading⟩
        rcases projects.field? looked with ⟨outer, outerFound, outerProjects⟩
        have innerReads : field.2.Reads inner := Option.isSome_iff_exists.mpr ⟨_, fieldReading⟩
        exact ⟨outer, outerFound, ih branch branchMem field fieldMem outerProjects innerReads⟩

/-- What a datum is written as is a projection of the value it was read from. -/
theorem projectsTo_write {type : Ty} {value : Value} {datum : Datum}
    (reading : type.read? value = some datum) : value.ProjectsTo datum.write := by
  induction type using branchInduction generalizing value datum with
  | step type ih =>
      rw [read?_eq_findSome?] at reading
      rcases List.exists_of_findSome?_eq_some reading with ⟨branch, branchMem, branchReading⟩
      rcases Option.map_eq_some_iff.mp branchReading with ⟨content, leafReading, rfl⟩
      rw [write_inject branchMem (read?_admits leafReading)]
      rcases read?_leaf_inversion leafReading with
        ⟨scalar, _, rfl, rfl⟩ | ⟨name, data, _, rfl, entries⟩
      · exact Value.ProjectsTo.scalar scalar
      · apply (Value.ProjectsTo.record_iff value _).mpr
        intro written inner looked
        rcases exists_entry_of_field? looked with ⟨entry, entryMem, rfl, rfl⟩
        rcases exists_mem_of_forall₂ entries.flip entry entryMem with
          ⟨field, fieldMem, sameLabel, found, foundThere, fieldReading⟩
        refine ⟨found, sameLabel ▸ foundThere, ?_⟩
        exact ih branch branchMem field fieldMem fieldReading

/-- A branch reads back what it has read, if its fields do. -/
theorem branch_read?_write {type : Ty} {branch : Branch} {value : Value} {datum : Datum}
    (branchMem : branch ∈ type.branches) (distinct : (branch.leaf.fields.map Prod.fst).Nodup)
    (readBack : ∀ field ∈ branch.leaf.fields, ∀ found inner, field.2.read? found = some inner →
      field.2.read? inner.write = some inner)
    (reading : branch.read? value = some datum) : branch.read? datum.write = some datum := by
  rcases Option.map_eq_some_iff.mp reading with ⟨content, leafReading, rfl⟩
  rw [write_inject branchMem (read?_admits leafReading)]
  suffices readsBack : branch.leaf.type.read? content.write = some content by
    rw [Branch.read?, readsBack, Option.map_some]
  rcases read?_leaf_inversion leafReading with
    ⟨scalar, isPrimitive, rfl, rfl⟩ | ⟨name, data, isRecord, rfl, entries⟩
  · rw [← leafReading]
    rfl
  · have fieldsReadBack : readFields? branch.leaf.fields (Datum.record data).write = some data := by
      apply readFields?_write distinct
      apply forall₂_imp_of_mem entries
      rintro field fieldMem entry _ ⟨sameLabel, found, _, fieldReading⟩
      exact ⟨sameLabel, readBack field fieldMem found entry.2 fieldReading⟩
    rw [isRecord]
    simp [Leaf.type, read?, fieldsReadBack]

/-- The datum that a type reads from a value is canonical: the type reads it back from what it is
written as. Every datum of the type has such a canonical form. -/
theorem reading_canonical (type : Ty) (distinct : type.LabelsDistinct) :
    (∀ value datum, type.read? value = some datum → type.read? datum.write = some datum) ∧
      ∀ datum, type.admits datum = true → type.Reads datum.write := by
  refine ⟨?_, fun datum admitted => reads_write distinct admitted⟩
  induction type using branchInduction with
  | step type ih =>
      intro value datum reading
      have projects := projectsTo_write reading
      rw [read?_eq_findSome?] at reading ⊢
      rcases List.findSome?_eq_some_iff.mp reading with
        ⟨before, branch, after, split, branchReading, refused⟩
      have branchMem : branch ∈ type.branches := by simp [split]
      refine List.findSome?_eq_some_iff.mpr ⟨before, branch, after, split, ?_, ?_⟩
      · apply branch_read?_write branchMem (distinct.nodup_fields branchMem) _ branchReading
        intro field fieldMem
        exact ih branch branchMem field fieldMem (distinct.of_mem_fields branchMem fieldMem)
      · -- What refused the value refuses its projection, which the datum is written as.
        intro earlier earlierMem
        have refuses := (branch_refuses_iff earlier value).mp (refused earlier earlierMem)
        apply (branch_refuses_iff earlier datum.write).mpr
        intro earlierReads
        exact refuses (reads_of_projectsTo projects earlierReads)

/-- A union of records that overlap, the last of which reads everything. -/
def overlapping : Ty :=
  .union (.record "Tagged" [(⟨"id"⟩, .primitive .bool), (⟨"note"⟩, .option (.primitive .char))])
    (.union (.record "Bare" [(⟨"id"⟩, .option (.option (.record "Anything" [])))])
      (.record "Anything" []))

/-- A record with a surplus field and a repeated one. -/
def cluttered : Value :=
  .record [("size", .scalar (.f64 1)), ("id", .scalar (.char 'a')), ("id", .scalar (.bool true))]

/-- How the union reads the record: the name finds a character, which is read as anything. -/
def bare : Datum :=
  .right (.left (.record [(⟨"id"⟩, .some (.some (.record [])))]))

theorem bare_canonical :
    overlapping.LabelsDistinct ∧ overlapping.read? cluttered = some bare ∧
      overlapping.read? bare.write = some bare :=
  ⟨by decide, rfl, (reading_canonical overlapping (by decide)).1 cluttered bare rfl⟩

end Ty

end Conform
