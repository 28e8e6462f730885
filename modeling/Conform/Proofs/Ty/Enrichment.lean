import Conform.Proofs.Ty.Canonical
import Conform.Proofs.Value.Enrichment

/-!
# Reading enriched values

A reader keeps reading a value to which fields were added and in which fields were arranged anew.
What it reads stays the same if fields were only arranged anew. An added field may change it,
because the value may now be read on an earlier side of a union; without unions there is no other
way to read it, so the reading stays the same again.

All three are shown for one change to one record, and hold for any number of changes by induction.
-/

namespace Conform

namespace Ty

/-- Without unions, what is read from a value is read from it after an enriching change. -/
theorem read?_of_step {type : Ty} (unionFree : type.UnionFree) {value other : Value}
    (step : Value.Step Value.Enriches value other) {datum : Datum}
    (reading : type.read? value = some datum) : type.read? other = some datum := by
  induction type using inductionOn generalizing value other datum with
  | primitive type => cases step <;> cases reading
  | never => cases reading
  | union left right _ _ => cases unionFree _ (mem_nodes_self _)
  | option payload ih =>
      have payloadUnionFree : payload.UnionFree :=
        unionFree.of_mem_nodes (payload_mem_nodes payload)
      have notUnit : value ≠ .unit := by
        rintro rfl
        cases step
      have otherNotUnit : other ≠ .unit := by
        rintro rfl
        cases step
      rw [read?_option_of_ne_unit payload notUnit, Option.map_eq_some_iff] at reading
      rcases reading with ⟨inner, payloadReading, rfl⟩
      rw [read?_option_of_ne_unit payload otherNotUnit,
        ih payloadUnionFree step payloadReading, Option.map_some]
  | record name fields ih =>
      rw [read?, Option.map_eq_some_iff] at reading ⊢
      rcases reading with ⟨data, fieldsReading, rfl⟩
      refine ⟨data, ?_, rfl⟩
      apply (readFields?_eq_some_iff fields other data).mpr
      apply forall₂_imp_of_mem ((readFields?_eq_some_iff fields value data).mp fieldsReading)
      rintro field fieldMem entry _ ⟨sameLabel, inner, looked, fieldReading⟩
      rcases step.field? looked with ⟨outer, outerFound, rfl | innerStep⟩
      · exact ⟨sameLabel, outer, outerFound, fieldReading⟩
      · have fieldUnionFree : field.2.UnionFree :=
          unionFree.of_mem_nodes (field_mem_nodes name fieldMem)
        have outerReading := ih field fieldMem fieldUnionFree innerStep fieldReading
        exact ⟨sameLabel, outer, outerFound, outerReading⟩

/-- Readers survive richer and reordered records: a type that reads a value reads every enriched
form of it, reads the same from values of which the fields were only permuted, and reads the same
datum from enriched ones if it has no union. -/
theorem reading_survives_enrichment (type : Ty) (value other : Value) :
    (value.Enriched other → type.Reads value → type.Reads other) ∧
      (value.Permuted other → type.read? other = type.read? value) ∧
      (type.UnionFree → value.Enriched other →
        ∀ datum, type.read? value = some datum → type.read? other = some datum) := by
  refine ⟨?_, ?_, ?_⟩
  · intro enriched reads
    induction enriched with
    | refl => exact reads
    | tail _ step ih => exact reads_of_projectsTo step.projectsTo ih
  · intro permuted
    induction permuted with
    | refl => rfl
    | tail _ step ih => rw [← read?_reordered step.reordered, ih]
  · intro unionFree enriched datum reading
    induction enriched with
    | refl => exact reading
    | tail _ step ih => exact read?_of_step unionFree step ih

/-- Behind a union an added field may lead to an earlier side. -/
example :
    let type := union (.record "Noted" [(⟨"note"⟩, .primitive .bool)]) (.record "Anything" [])
    type.read? (.record []) = some (.right (.record [])) ∧
      type.read? (.record [("note", .scalar (.bool true))]) =
        some (.left (.record [(⟨"note"⟩, .scalar (.bool true))])) := ⟨rfl, rfl⟩

/-- A camp with the point where it is and an optional name. -/
def namedCamp : Ty :=
  .record "NamedCamp" [(⟨"at"⟩, .record "Point" [(⟨"x"⟩, .primitive .f64)]),
    (⟨"name"⟩, .option (.primitive .string))]

/-- A camp without a name. -/
def camp : Value := .record [("at", .record [("x", .scalar (.f64 1))]), ("name", .unit)]

/-- The camp with its fields in another order. -/
def turnedCamp : Value := .record [("name", .unit), ("at", .record [("x", .scalar (.f64 1))])]

/-- The camp with its fields in another order, a second coordinate and a mark. -/
def markedCamp : Value :=
  .record [("name", .unit), ("mark", .scalar (.bool true)),
    ("at", .record [("y", .scalar (.f64 2)), ("x", .scalar (.f64 1))])]

theorem camp_permuted : camp.Permuted turnedCamp :=
  Relation.ReflTransGen.single (Value.Step.here ⟨by decide, List.Perm.swap _ _ _⟩)

theorem camp_enriched : camp.Enriched markedCamp := by
  have turned : Value.Step Value.Enriches camp turnedCamp :=
    Value.Step.here (Or.inl ⟨by decide, List.Perm.swap _ _ _⟩)
  have extended : Value.Step Value.Enriches (.record [("x", .scalar (.f64 1))])
      (.record [("y", .scalar (.f64 2)), ("x", .scalar (.f64 1))]) :=
    Value.Step.here (Or.inr (.insert _ (by decide) (.keep _ .nil)))
  have extendedInside := Value.Step.inside [("name", .unit)] [] "at" extended
  have marked : Value.Step Value.Enriches _ markedCamp :=
    Value.Step.here (Or.inr (.keep _ (.insert _ (by decide) (.keep _ .nil))))
  exact ((Relation.ReflTransGen.single turned).tail extendedInside).tail marked

theorem markedCamp_read :
    camp.Permuted turnedCamp ∧ camp.Enriched markedCamp ∧ namedCamp.UnionFree ∧
      namedCamp.Reads camp ∧ namedCamp.Reads markedCamp ∧
      namedCamp.read? turnedCamp = namedCamp.read? camp ∧
      namedCamp.read? markedCamp =
        some (.record [(⟨"at"⟩, .record [(⟨"x"⟩, .scalar (.f64 1))]), (⟨"name"⟩, .none)]) :=
  have turned := reading_survives_enrichment namedCamp camp turnedCamp
  have marked := reading_survives_enrichment namedCamp camp markedCamp
  ⟨camp_permuted, camp_enriched, by decide, rfl, marked.1 camp_enriched rfl,
    turned.2.1 camp_permuted, marked.2.2 (by decide) camp_enriched _ rfl⟩

end Ty

end Conform
