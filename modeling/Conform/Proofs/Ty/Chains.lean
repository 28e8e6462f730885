import Conform.Proofs.Ty.Canonical
import Conform.Proofs.Ty.Soundness

/-!
# Chains of conversions

A conversion writes a datum and reads the result as another type. Along a chain of conversions the
types are arbitrary, and any of them may drop fields, reorder them or take another side of a union.
What all steps keep is that the written value is a projection of the one before, so each value
along the chain is a projection of the first one.

A type that reads the last value hence reads the first one. It may read more from it than was left
at the end: a union may find an earlier side, and a record without fields may have replaced
anything by the empty record. A type without unions and without empty records has no such choice
and reads the same datum from both.
-/

namespace Conform

namespace Ty

theorem NoEmptyRecord.not_reads_empty {type : Ty} (nonempty : type.NoEmptyRecord) :
    ¬type.Reads (.record []) := by
  intro reads
  rcases (reads_iff type _).mp reads with ⟨branch, branchMem, branchReads⟩
  rcases nonempty.leaf_of_reads branchMem (fun _ => rfl) branchReads with ⟨content, _, differ⟩
  cases differ

/-- Without unions and empty records, a type that reads a projection reads the same datum from the
whole value. -/
theorem read?_eq_of_projectsTo {type : Ty} (unionFree : type.UnionFree)
    (nonempty : type.NoEmptyRecord) {whole part : Value} (projects : whole.ProjectsTo part)
    (reads : type.Reads part) : type.read? whole = type.read? part := by
  induction type using inductionOn generalizing whole part with
  | primitive type =>
      rcases (reads_primitive_iff type part).mp reads with ⟨content, _, rfl⟩
      rw [projects.eq_scalar]
  | never => cases reads
  | union left right _ _ => cases unionFree _ (mem_nodes_self _)
  | option payload ih =>
      have payloadUnionFree : payload.UnionFree :=
        unionFree.of_mem_nodes (payload_mem_nodes payload)
      have payloadNonempty : payload.NoEmptyRecord :=
        nonempty.of_mem_nodes (payload_mem_nodes payload)
      by_cases isUnit : part = .unit
      · subst part
        rw [projects.eq_scalar]
      · have payloadReads : payload.Reads part := by
          simpa [Reads, read?_option_of_ne_unit payload isUnit] using reads
        have notUnit : whole ≠ .unit := by
          -- Of the unit value only the empty record would be left, which the payload refuses.
          rintro rfl
          cases part with
          | scalar content => exact isUnit projects.eq_scalar.symm
          | record fields =>
              rw [projects.eq_nil] at payloadReads
              exact payloadNonempty.not_reads_empty payloadReads
        rw [read?_option_of_ne_unit payload notUnit, read?_option_of_ne_unit payload isUnit,
          ih payloadUnionFree payloadNonempty projects payloadReads]
  | record name fields ih =>
      rcases Option.isSome_iff_exists.mp reads with ⟨datum, reading⟩
      rw [reading]
      rw [read?, Option.map_eq_some_iff] at reading ⊢
      rcases reading with ⟨data, fieldsReading, rfl⟩
      refine ⟨data, ?_, rfl⟩
      apply (readFields?_eq_some_iff fields whole data).mpr
      apply forall₂_imp_of_mem ((readFields?_eq_some_iff fields part data).mp fieldsReading)
      rintro field fieldMem entry _ ⟨sameLabel, inner, looked, fieldReading⟩
      rcases projects.field? looked with ⟨outer, outerFound, outerProjects⟩
      refine ⟨sameLabel, outer, outerFound, ?_⟩
      have fieldNode : field.2 ∈ (record name fields).nodes := field_mem_nodes name fieldMem
      rw [← fieldReading]
      apply ih field fieldMem (unionFree.of_mem_nodes fieldNode) (nonempty.of_mem_nodes fieldNode)
        outerProjects
      simp [Reads, fieldReading]

/-- Every datum read along a chain is written as a projection of what the first one is written
as. Types that refused to read make no difference. -/
theorem projectsTo_of_mem_chain {start datum : Datum} {types : List Ty}
    (datumMem : some datum ∈ chain start types) : start.write.ProjectsTo datum.write := by
  induction types generalizing start with
  | nil => simp [chain] at datumMem
  | cons target rest ih =>
      rw [chain] at datumMem
      split at datumMem
      · rename_i next converted
        have step : start.write.ProjectsTo next.write := projectsTo_write converted
        rcases List.mem_cons.mp datumMem with same | restMem
        · cases same
          exact step
        · exact step.trans (ih restMem)
      · rcases List.mem_cons.mp datumMem with differ | restMem
        · cases differ
        · exact ih restMem

/-- Chains of conversions never create readability: a type that reads what the last datum is written
as reads what the first one is written as, and it reads the same datum if it has no union and no
empty record. -/
theorem chain_reads_start (start : Datum) (types : List Ty) (data : List Datum)
    (converts : chain start types = data.map some) (target : Ty)
    (reads : target.Reads (data.getLastD start).write) :
    target.Reads start.write ∧
      (target.UnionFree → target.NoEmptyRecord →
        target.read? start.write = target.read? (data.getLastD start).write) := by
  have projects : start.write.ProjectsTo (data.getLastD start).write := by
    have endMem : data.getLastD start ∈ start :: data := List.getLastD_mem_cons
    rcases List.mem_cons.mp endMem with isStart | lastMem
    · rw [isStart]
      exact Value.ProjectsTo.refl _
    · have inChain : some (data.getLastD start) ∈ chain start types := by
        rw [converts]
        exact List.mem_map_of_mem lastMem
      exact projectsTo_of_mem_chain inChain
  refine ⟨reads_of_projectsTo projects reads, ?_⟩
  intro unionFree nonempty
  exact read?_eq_of_projectsTo unionFree nonempty projects reads

/-- The value of a reading. The note only has to be there. -/
def measured : Ty :=
  .option (.record "Measured" [(⟨"note"⟩, .record "Anything" []),
    (⟨"value"⟩, .union (.primitive .string) (.option (.primitive .f64)))])

/-- A number or nothing, under the name of the value of a reading. -/
def optionalValue : Ty := .record "OptionalValue" [(⟨"value"⟩, .option (.primitive .f64))]

def sampled : Datum :=
  .record [(⟨"sensor"⟩, .scalar (.int ⟨false, .bits32⟩ 7 (by decide))),
    (⟨"value"⟩, .left (.scalar (.f64 1))), (⟨"note"⟩, .none)]

/-- What a chain through both types makes of the reading. -/
def sampledChain : List Datum :=
  [.right (.record [(⟨"note"⟩, .none), (⟨"value"⟩, .some (.right (.scalar (.f64 1))))]),
    .some (.record [(⟨"note"⟩, .record []), (⟨"value"⟩, .right (.some (.scalar (.f64 1))))])]

theorem sampledChain_reads_start :
    chain sampled [annotated, measured] = sampledChain.map some ∧
      optionalValue.UnionFree ∧ optionalValue.NoEmptyRecord ∧
      optionalValue.Reads (sampledChain.getLastD sampled).write ∧
      optionalValue.Reads sampled.write ∧
      optionalValue.read? sampled.write =
        optionalValue.read? (sampledChain.getLastD sampled).write :=
  have reads := chain_reads_start sampled [annotated, measured] sampledChain rfl optionalValue rfl
  ⟨rfl, by decide, by decide, rfl, reads.1, reads.2 (by decide) (by decide)⟩

end Ty

end Conform
