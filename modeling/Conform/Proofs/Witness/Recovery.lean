import Conform.Proofs.Ty.Refusal
import Conform.Proofs.Ty.Unmistakable
import Conform.Proofs.Witness.RoundTrip

/-!
# Recovery from reordered types

A structural witness to a reordered form of a type converts its data there and back. They come back
unchanged from every reordered form exactly if the type is unmistakable.

Where a type has data, this takes disjoint sides: if one side of a union were assignable to the
other, the other would read what it writes. Disjoint sides are not enough, though. They are two of
which neither is assignable to the other, and they may still have a member in common. Written values
are not tagged, so a value of the common member is read on the side that comes first.
-/

namespace Conform

namespace Ty

/-- The sides of a union are disjoint, as are the payload of an optional type and the unit type. -/
def areSidesDisjoint : Ty → Bool
  | union left right => (left.relate right).disjoint
  | option payload => (payload.relate (primitive .unit)).disjoint
  | _ => true

/-- The sides of every union in the type are disjoint. -/
def SidesDisjoint (type : Ty) : Prop := type.Everywhere (fun node => node.areSidesDisjoint = true)

instance (type : Ty) : Decidable type.SidesDisjoint :=
  inferInstanceAs (Decidable (type.Everywhere _))

theorem disjoint_iff (left right : Ty) :
    (left.relate right).disjoint = true ↔ ¬left ≤ right ∧ ¬right ≤ left :=
  BaseRelation.disjoint.answer_eq_true (left.relate right)

theorem Separate.not_le {left right : Ty} (apart : Separate left right)
    (distinct : left.LabelsDistinct) (coherent : Label.Coherent (left.labels ++ right.labels))
    (neverFree : left.NeverFree) : ¬left ≤ right := by
  intro below
  rcases neverFree.exists_admitted with ⟨datum, admitted⟩
  apply apart.1 datum admitted
  exact reads_of_shape_sub coherent below (reads_write distinct admitted)

theorem exists_written_unit {type : Ty} (above : primitive .unit ≤ type) :
    ∃ datum, type.admits datum = true ∧ datum.write = .unit := by
  -- That the type reads the unit value would not do, because a record may read more than is
  -- written by its data.
  have unitMem : ⟨[], .primitive .unit⟩ ∈ (primitive .unit).branches := List.mem_cons_self
  rcases (shape_sub_iff _ _).mp above _ unitMem with ⟨branch, branchMem, below⟩
  rcases Leaf.sub_inversion below with ⟨_, isUnit, isLeaf⟩ | ⟨_, _, _, _, isRecord, _⟩
  · cases isUnit
    have own : branch.leaf.type.admits (.scalar .unit) = true := by
      rw [isLeaf]
      rfl
    refine ⟨branch.inject (.scalar .unit), ?_, write_inject branchMem own⟩
    exact (admits_iff type _).mpr ⟨branch, branchMem, _, own, rfl⟩
  · cases isRecord

namespace Unmistakable

theorem of_mem_nodes {type node : Ty} (unmistakable : type.Unmistakable)
    (neverFree : type.NeverFree) (nodeMem : node ∈ type.nodes) : node.Unmistakable := by
  induction unmistakable with
  | primitive type =>
      rw [List.mem_singleton.mp nodeMem]
      exact Unmistakable.primitive type
  | never =>
      rw [List.mem_singleton.mp nodeMem]
      exact Unmistakable.never
  | @union left right apart onLeft onRight ihLeft ihRight =>
      simp only [nodes, List.mem_cons, List.mem_append] at nodeMem
      rcases nodeMem with rfl | leftMem | rightMem
      · exact Unmistakable.union apart onLeft onRight
      · exact ihLeft (neverFree.of_mem_nodes (left_mem_nodes left right)) leftMem
      · exact ihRight (neverFree.of_mem_nodes (right_mem_nodes left right)) rightMem
  | @option payload present inside ih =>
      simp only [nodes, List.mem_cons] at nodeMem
      rcases nodeMem with rfl | payloadMem
      · exact Unmistakable.option present inside
      · exact ih (neverFree.of_mem_nodes (payload_mem_nodes payload)) payloadMem
  | @record name fields inside ih =>
      rcases neverFree.exists_admitted with ⟨datum, admitted⟩
      rcases (admits_record_iff name fields datum).mp admitted with ⟨data, _, entries⟩
      simp only [nodes, List.mem_cons, mem_fieldNodes] at nodeMem
      rcases nodeMem with rfl | ⟨field, fieldMem, fieldNode⟩
      · exact Unmistakable.record name inside
      · have fieldNeverFree := neverFree.of_mem_nodes (field_mem_nodes name fieldMem)
        exact ih ⟨data, entries⟩ field fieldMem fieldNeverFree fieldNode

theorem areSidesDisjoint {type : Ty} (unmistakable : type.Unmistakable)
    (distinct : type.LabelsDistinct) (coherent : Label.Coherent type.labels)
    (neverFree : type.NeverFree) : type.areSidesDisjoint = true := by
  cases unmistakable with
  | primitive type => rfl
  | never => rfl
  | @union left right apart _ _ =>
      have leftMem := left_mem_nodes left right
      have rightMem := right_mem_nodes left right
      have leftLabels := labels_subset_of_mem_nodes leftMem
      have rightLabels := labels_subset_of_mem_nodes rightMem
      apply (disjoint_iff left right).mpr
      constructor
      · apply apart.not_le distinct.sides.1 (coherent.append leftLabels rightLabels)
        exact neverFree.of_mem_nodes leftMem
      · apply apart.symm.not_le distinct.sides.2 (coherent.append rightLabels leftLabels)
        exact neverFree.of_mem_nodes rightMem
  | @option payload present _ =>
      apply (disjoint_iff payload (.primitive .unit)).mpr
      constructor
      · intro below
        have payloadMem := payload_mem_nodes payload
        have payloadNeverFree : payload.NeverFree := neverFree.of_mem_nodes payloadMem
        rcases payloadNeverFree.exists_admitted with ⟨datum, admitted⟩
        apply present datum admitted
        have payloadCoherent :=
          coherent.append (labels_subset_of_mem_nodes payloadMem) (List.nil_subset _)
        have reads := reads_of_shape_sub payloadCoherent below
          (reads_write distinct.of_option admitted)
        by_contra notUnit
        simp [Reads, read?_unit_of_ne_unit notUnit] at reads
      · intro above
        rcases exists_written_unit above with ⟨datum, admitted, isUnit⟩
        exact present datum admitted isUnit
  | record name _ => rfl

theorem sidesDisjoint {type : Ty} (unmistakable : type.Unmistakable)
    (distinct : type.LabelsDistinct) (coherent : Label.Coherent type.labels)
    (neverFree : type.NeverFree) : type.SidesDisjoint := by
  intro node nodeMem
  apply (unmistakable.of_mem_nodes neverFree nodeMem).areSidesDisjoint
  · exact distinct.of_mem_nodes nodeMem
  · exact coherent.of_subset (labels_subset_of_mem_nodes nodeMem)
  · exact neverFree.of_mem_nodes nodeMem

end Unmistakable

end Ty

open Ty

namespace Witness

/-- Every datum of the source comes back from its conversion. -/
def Returns (witness : Witness) : Prop :=
  ∀ datum, witness.source.admits datum = true →
    ∃ converted, witness.coerce datum = .ok converted ∧ witness.coerceBack converted = .ok datum

theorem structural_returns_iff {source target : Ty}
    (equal : (source.relate target).equal = true) :
    (∃ witness, structural source target = .ok witness ∧ witness.Returns) ↔
      source.Returns target := by
  constructor
  · rintro ⟨witness, built, returns⟩ datum admitted
    rcases structural_eq_ok.mp built with ⟨_, rfl⟩
    rcases returns datum admitted with ⟨converted, there, back⟩
    exact ⟨converted, Conversion.run_reshape.mp there, Conversion.run_reshape.mp back⟩
  · intro returns
    refine ⟨_, structural_eq_ok.mpr ⟨equal, rfl⟩, ?_⟩
    intro datum admitted
    rcases returns datum admitted with ⟨converted, there, back⟩
    exact ⟨converted, Conversion.run_reshape.mpr there, Conversion.run_reshape.mpr back⟩

/-- The types whose data come back from all reordered forms are the unmistakable ones. Among types
with data, their sides are disjoint. -/
theorem reordering_returns_iff_unmistakable (type : Ty) (distinct : type.LabelsDistinct) :
    ((∀ other, type.Reordered other →
        ∃ witness, structural type other = .ok witness ∧ witness.Returns) ↔ type.Unmistakable) ∧
      (type.NeverFree → Label.Coherent type.labels → type.Unmistakable → type.SidesDisjoint) := by
  have equal : ∀ other, type.Reordered other → (type.relate other).equal = true := by
    intro other reordered
    exact (equal_iff type other).mpr reordered.below_above
  constructor
  · constructor
    · intro returns
      apply Unmistakable.of_recovers _ distinct
      intro other reordered
      exact (structural_returns_iff (equal other reordered)).mp (returns other reordered)
    · intro unmistakable other reordered
      apply (structural_returns_iff (equal other reordered)).mpr
      exact unmistakable.recovers distinct other reordered
  · intro neverFree coherent unmistakable
    exact unmistakable.sidesDisjoint distinct coherent neverFree

theorem reading_unmistakable : reading.Unmistakable := by
  apply Unmistakable.record
  intro _ field fieldMem
  simp only [List.mem_cons, List.not_mem_nil, or_false] at fieldMem
  rcases fieldMem with rfl | rfl | rfl
  · exact Unmistakable.primitive _
  · apply Unmistakable.union (separate_primitive (by decide))
    · exact Unmistakable.primitive _
    · exact Unmistakable.primitive _
  · apply Unmistakable.option _ (Unmistakable.primitive _)
    intro datum admitted isUnit
    rcases (admits_primitive_iff _ datum).mp admitted with ⟨content, isString, rfl⟩
    cases isUnit
    cases isString

theorem reading_reordered : reading.Reordered reversedReading := by
  have sensor := FieldReordered.mk ⟨"sensor"⟩ (Reordered.refl (.primitive (.int ⟨false, .bits32⟩)))
  have value := FieldReordered.mk ⟨"value"⟩
    (Reordered.exchange (Reordered.primitive .f64) (Reordered.primitive .string))
  have note := FieldReordered.mk ⟨"note"⟩ (Reordered.refl (.option (.primitive .string)))
  apply Reordered.record "Reading" "ReversedReading"
  · exact .cons sensor (.cons value (.cons note .nil))
  · exact (List.reverse_perm _).symm

theorem reading_returns_reversed :
    reading.LabelsDistinct ∧ reading.Unmistakable ∧ reading.Reordered reversedReading ∧
      (∃ witness, structural reading reversedReading = .ok witness ∧ witness.Returns) ∧
      reading.NeverFree ∧ Label.Coherent reading.labels ∧ reading.SidesDisjoint := by
  have distinct : reading.LabelsDistinct := by decide
  have neverFree : reading.NeverFree := by decide
  have coherent : Label.Coherent reading.labels := by decide
  rcases reordering_returns_iff_unmistakable reading distinct with ⟨returns, disjoint⟩
  refine ⟨distinct, reading_unmistakable, reading_reordered, ?_, neverFree, coherent, ?_⟩
  · exact returns.mpr reading_unmistakable reversedReading reading_reordered
  · exact disjoint neverFree coherent reading_unmistakable

/-- A measurement that may be missing, a level or a measurement, a setting or its short form. -/
def gauge : Ty :=
  .union
    (.union (.option (.primitive .f64))
      (.union (.primitive (.int ⟨true, .bits8⟩)) (.primitive .f64)))
    (.union (.union (.primitive (.int ⟨false, .bits8⟩)) (.primitive .bool))
      (.record "Setting" [(⟨"offset"⟩, .primitive (.int ⟨true, .bits8⟩))]))

/-- A gauge with the setting before its short form. -/
def turnedGauge : Ty :=
  .union
    (.union (.option (.primitive .f64))
      (.union (.primitive (.int ⟨true, .bits8⟩)) (.primitive .f64)))
    (.union (.record "Setting" [(⟨"offset"⟩, .primitive (.int ⟨true, .bits8⟩))])
      (.union (.primitive (.int ⟨false, .bits8⟩)) (.primitive .bool)))

/-- The sides of a gauge are disjoint, and a measurement on the right comes back on the left. -/
theorem gauge_returns_other_side :
    gauge.LabelsDistinct ∧ (∀ label ∈ gauge.labels, label.plain = label.name) ∧
      gauge.SidesDisjoint ∧ gauge.Reordered turnedGauge ∧
      ∃ witness datum converted returned, structural gauge turnedGauge = .ok witness ∧
        gauge.admits datum = true ∧ witness.coerce datum = .ok converted ∧
        witness.coerceBack converted = .ok returned ∧ returned ≠ datum := by
  have reordered : gauge.Reordered turnedGauge := by
    apply Reordered.union (Reordered.refl _)
    exact Reordered.exchange (Reordered.refl _) (Reordered.refl _)
  have built := structural_eq_ok.mpr ⟨(equal_iff _ _).mpr reordered.below_above, rfl⟩
  let measured := Datum.scalar (.f64 0x3ff0000000000000)
  refine ⟨by decide, by decide, by decide, reordered, _, .left (.right (.right measured)),
    .left (.left (.some measured)), .left (.left (.some measured)), built, by decide, rfl, rfl, ?_⟩
  intro same
  cases same

end Witness

end Conform
