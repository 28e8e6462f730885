import Conform.Proofs.Ty.Branches

/-!
# Types inside a type

Conditions on a type mostly speak about every type that occurs in it: the labels of each record
differ, the sides of each union do not overlap, some constructor never occurs. The nodes of a type
are the types it is made of, itself included, and `Ty.Everywhere` asks a condition of all of them.
Such a condition passes to the fields of the branches, along which the theorems go by induction.

Shapes compare fields by the spelled ids of their labels and values keep them under the names of
their labels. The two agree on labels that are coherent: no two of them are spelled the same and
named differently, as a raw identifier and its plain form are.
-/

namespace Conform

namespace Label

/-- Labels of the same id have the same name. -/
def Coherent (labels : List Label) : Prop :=
  ∀ first ∈ labels, ∀ second ∈ labels, first.id = second.id → first.name = second.name

instance (labels : List Label) : Decidable (Coherent labels) :=
  inferInstanceAs (Decidable (∀ first ∈ labels, ∀ second ∈ labels, _ → _))

theorem Coherent.of_subset {labels outer : List Label} (coherent : Coherent outer)
    (contained : labels ⊆ outer) : Coherent labels := by
  intro first firstMem second secondMem sameId
  exact coherent first (contained firstMem) second (contained secondMem) sameId

theorem Coherent.append {left right outer : List Label} (coherent : Coherent outer)
    (leftContained : left ⊆ outer) (rightContained : right ⊆ outer) :
    Coherent (left ++ right) :=
  coherent.of_subset (List.append_subset.mpr ⟨leftContained, rightContained⟩)

theorem name_injective {first second : Label} (sameName : first.name = second.name) :
    first = second := by
  cases first
  cases second
  exact congrArg Label.mk sameName

theorem Coherent.eq_of_id {labels : List Label} (coherent : Coherent labels)
    {first second : Label} (firstMem : first ∈ labels) (secondMem : second ∈ labels)
    (sameId : first.id = second.id) : first = second :=
  name_injective (coherent first firstMem second secondMem sameId)

end Label

namespace Ty

mutual

/-- The types that occur in a type, itself included. -/
def nodes : Ty → List Ty
  | primitive type => [primitive type]
  | never => [never]
  | union left right => union left right :: (left.nodes ++ right.nodes)
  | option payload => option payload :: payload.nodes
  | record name fields => record name fields :: fieldNodes fields

def fieldNodes : List (Label × Ty) → List Ty
  | [] => []
  | (_, type) :: rest => type.nodes ++ fieldNodes rest

end

/-- A condition on every type that occurs in a type. -/
def Everywhere (condition : Ty → Prop) (type : Ty) : Prop := ∀ node ∈ type.nodes, condition node

instance (condition : Ty → Prop) [DecidablePred condition] (type : Ty) :
    Decidable (type.Everywhere condition) :=
  inferInstanceAs (Decidable (∀ node ∈ type.nodes, condition node))

/-- The labels of the fields of a record, none for other types. -/
def ownLabels : Ty → List Label
  | record _ fields => fields.map Prod.fst
  | _ => []

/-- The labels that occur in a type. -/
def labels (type : Ty) : List Label := type.nodes.flatMap ownLabels

/-- Every record in the type has pairwise distinct labels. -/
def LabelsDistinct (type : Ty) : Prop := type.Everywhere (fun node => node.ownLabels.Nodup)

instance (type : Ty) : Decidable type.LabelsDistinct :=
  inferInstanceAs (Decidable (type.Everywhere _))

/-- The type is a union. An optional type does not count as one. -/
def isUnion : Ty → Bool
  | union _ _ => true
  | _ => false

/-- The type is a record without fields, which reads every value. -/
def isEmptyRecord : Ty → Bool
  | record _ [] => true
  | _ => false

/-- No union occurs in the type. Optional types may. -/
def UnionFree (type : Ty) : Prop := type.Everywhere (fun node => node.isUnion = false)

instance (type : Ty) : Decidable type.UnionFree :=
  inferInstanceAs (Decidable (type.Everywhere _))

/-- Every record in the type has a field. -/
def NoEmptyRecord (type : Ty) : Prop := type.Everywhere (fun node => node.isEmptyRecord = false)

instance (type : Ty) : Decidable type.NoEmptyRecord :=
  inferInstanceAs (Decidable (type.Everywhere _))

theorem mem_nodes_self (type : Ty) : type ∈ type.nodes := by
  cases type <;> simp [nodes]

theorem left_mem_nodes (left right : Ty) : left ∈ (union left right).nodes := by
  simp [nodes, mem_nodes_self]

theorem right_mem_nodes (left right : Ty) : right ∈ (union left right).nodes := by
  simp [nodes, mem_nodes_self]

theorem payload_mem_nodes (payload : Ty) : payload ∈ (option payload).nodes := by
  simp [nodes, mem_nodes_self]

theorem mem_fieldNodes (fields : List (Label × Ty)) (node : Ty) :
    node ∈ fieldNodes fields ↔ ∃ field ∈ fields, node ∈ field.2.nodes := by
  induction fields with
  | nil => simp [fieldNodes]
  | cons field rest ih =>
      rcases field with ⟨label, type⟩
      simp [fieldNodes, ih]

theorem field_mem_nodes (name : String) {fields : List (Label × Ty)} {field : Label × Ty}
    (fieldMem : field ∈ fields) : field.2 ∈ (record name fields).nodes := by
  simp only [nodes, List.mem_cons, mem_fieldNodes]
  exact Or.inr ⟨field, fieldMem, mem_nodes_self _⟩

theorem record_mem_nodes {type : Ty} {branch : Branch} {name : String}
    {fields : List (Label × Ty)} (branchMem : branch ∈ type.branches)
    (isRecord : branch.leaf = .record name fields) : record name fields ∈ type.nodes := by
  induction branchMem using pathInduction with
  | root leaf _ =>
      cases isRecord
      exact mem_nodes_self _
  | left left right inner innerMem _ ih =>
      exact List.mem_cons_of_mem _ (List.mem_append_left _ (ih isRecord))
  | right left right inner innerMem _ ih =>
      exact List.mem_cons_of_mem _ (List.mem_append_right _ (ih isRecord))
  | absent payload _ => contradiction
  | present payload inner innerMem _ ih => exact List.mem_cons_of_mem _ (ih isRecord)

theorem nodes_trans {inner middle outer : Ty} (innerMem : inner ∈ middle.nodes)
    (middleMem : middle ∈ outer.nodes) : inner ∈ outer.nodes := by
  induction outer using inductionOn with
  | primitive type =>
      simp only [nodes, List.mem_singleton] at middleMem
      exact middleMem ▸ innerMem
  | never =>
      simp only [nodes, List.mem_singleton] at middleMem
      exact middleMem ▸ innerMem
  | union left right ihLeft ihRight =>
      simp only [nodes, List.mem_cons, List.mem_append] at middleMem
      rcases middleMem with rfl | leftMem | rightMem
      · exact innerMem
      · exact List.mem_cons_of_mem _ (List.mem_append_left _ (ihLeft leftMem))
      · exact List.mem_cons_of_mem _ (List.mem_append_right _ (ihRight rightMem))
  | option payload ih =>
      simp only [nodes, List.mem_cons] at middleMem
      rcases middleMem with rfl | payloadMem
      · exact innerMem
      · exact List.mem_cons_of_mem _ (ih payloadMem)
  | record name fields ih =>
      simp only [nodes, List.mem_cons, mem_fieldNodes] at middleMem
      rcases middleMem with rfl | ⟨field, fieldMem, nodeMem⟩
      · exact innerMem
      · apply List.mem_cons_of_mem
        exact (mem_fieldNodes fields inner).mpr ⟨field, fieldMem, ih field fieldMem nodeMem⟩

theorem Everywhere.of_mem_nodes {condition : Ty → Prop} {type node : Ty}
    (everywhere : type.Everywhere condition) (nodeMem : node ∈ type.nodes) :
    node.Everywhere condition := by
  intro inner innerMem
  exact everywhere inner (nodes_trans innerMem nodeMem)

theorem labels_subset_of_mem_nodes {type node : Ty} (nodeMem : node ∈ type.nodes) :
    node.labels ⊆ type.labels := by
  intro label labelMem
  rcases List.mem_flatMap.mp labelMem with ⟨inner, innerMem, own⟩
  exact List.mem_flatMap.mpr ⟨inner, nodes_trans innerMem nodeMem, own⟩

section Fields

variable {type : Ty} {branch : Branch} {field : Label × Ty}

theorem eq_record_of_mem_fields (fieldMem : field ∈ branch.leaf.fields) :
    ∃ name, branch.leaf = .record name branch.leaf.fields := by
  cases shape : branch.leaf with
  | primitive type => simp [shape, Leaf.fields] at fieldMem
  | record name fields => exact ⟨name, rfl⟩

theorem field_nodes_subset (branchMem : branch ∈ type.branches)
    (fieldMem : field ∈ branch.leaf.fields) : field.2.nodes ⊆ type.nodes := by
  intro node nodeMem
  rcases eq_record_of_mem_fields fieldMem with ⟨name, isRecord⟩
  apply nodes_trans _ (record_mem_nodes branchMem isRecord)
  simp only [nodes, List.mem_cons, mem_fieldNodes]
  exact Or.inr ⟨field, fieldMem, nodeMem⟩

/-- A condition on all nodes passes to the fields of the branches. -/
theorem Everywhere.of_mem_fields {condition : Ty → Prop} (everywhere : type.Everywhere condition)
    (branchMem : branch ∈ type.branches) (fieldMem : field ∈ branch.leaf.fields) :
    field.2.Everywhere condition := by
  intro node nodeMem
  exact everywhere node (field_nodes_subset branchMem fieldMem nodeMem)

theorem LabelsDistinct.nodup_fields (distinct : type.LabelsDistinct)
    (branchMem : branch ∈ type.branches) : (branch.leaf.fields.map Prod.fst).Nodup := by
  cases shape : branch.leaf with
  | primitive type => simp [Leaf.fields]
  | record name fields => exact distinct _ (record_mem_nodes branchMem shape)

/-- The nodes of a leaf are nodes of the type, as far as they have labels. The unit type, which an
optional type has as a leaf, need not occur in it. -/
theorem leaf_nodes (branchMem : branch ∈ type.branches) :
    ∀ node ∈ branch.leaf.type.nodes, node.ownLabels = [] ∨ node ∈ type.nodes := by
  intro node nodeMem
  cases shape : branch.leaf with
  | primitive type =>
      rw [shape] at nodeMem
      simp only [Leaf.type, nodes, List.mem_singleton] at nodeMem
      subst node
      exact Or.inl rfl
  | record name fields =>
      rw [shape] at nodeMem
      exact Or.inr (nodes_trans nodeMem (record_mem_nodes branchMem shape))

theorem LabelsDistinct.of_leaf (distinct : type.LabelsDistinct)
    (branchMem : branch ∈ type.branches) : branch.leaf.type.LabelsDistinct := by
  intro node nodeMem
  rcases leaf_nodes branchMem node nodeMem with noLabels | typeNode
  · simp only [noLabels, List.nodup_nil]
  · exact distinct node typeNode

theorem label_mem_labels (branchMem : branch ∈ type.branches)
    (fieldMem : field ∈ branch.leaf.fields) : field.1 ∈ type.labels := by
  rcases eq_record_of_mem_fields fieldMem with ⟨name, isRecord⟩
  apply List.mem_flatMap.mpr
  exact ⟨_, record_mem_nodes branchMem isRecord, List.mem_map_of_mem fieldMem⟩

theorem leaf_labels_subset (branchMem : branch ∈ type.branches) :
    branch.leaf.type.labels ⊆ type.labels := by
  intro label labelMem
  rcases List.mem_flatMap.mp labelMem with ⟨node, nodeMem, own⟩
  rcases leaf_nodes branchMem node nodeMem with noLabels | typeNode
  · simp [noLabels] at own
  · exact List.mem_flatMap.mpr ⟨node, typeNode, own⟩

theorem field_labels_subset (branchMem : branch ∈ type.branches)
    (fieldMem : field ∈ branch.leaf.fields) : field.2.labels ⊆ type.labels :=
  labels_subset_of_mem_nodes (field_nodes_subset branchMem fieldMem (mem_nodes_self _))

end Fields

end Ty

end Conform
