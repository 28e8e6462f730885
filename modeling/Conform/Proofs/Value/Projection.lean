import Conform.Proofs.Value.Reordering

/-!
# Projections of values

Reading a value and writing the result may lose a part of it: a record comes back with the fields
that the type asked for, and as the empty record if it asked for none, whatever the value was. What
is left is a projection of the value: its scalars are the same, and what a look-up finds in it, the
look-up finds in the value too, of which it is a projection again.

Only look-ups are compared. The order of fields and fields behind another of the same name make no
difference, and the empty record is a projection of every value.
-/

namespace Conform

namespace Value

/-- The second value has no more than what the first one has, at every depth. -/
inductive ProjectsTo : Value → Value → Prop where
  | scalar (content : Scalar) : ProjectsTo (scalar content) (scalar content)
  | record {whole : Value} {fields : List (String × Value)}
      (found : ∀ name, (fields.lookup name).isSome → (whole.field? name).isSome)
      (below : ∀ name inner outer, fields.lookup name = some inner →
        whole.field? name = some outer → ProjectsTo outer inner) :
      ProjectsTo whole (record fields)

namespace ProjectsTo

theorem record_iff (whole : Value) (fields : List (String × Value)) :
    whole.ProjectsTo (.record fields) ↔ ∀ name inner, fields.lookup name = some inner →
      ∃ outer, whole.field? name = some outer ∧ outer.ProjectsTo inner := by
  constructor
  · intro projects name inner looked
    cases projects with
    | record found below =>
        rcases Option.isSome_iff_exists.mp (found name (by simp [looked])) with ⟨outer, outerFound⟩
        exact ⟨outer, outerFound, below name inner outer looked outerFound⟩
  · intro finds
    apply record
    · intro name isFound
      rcases Option.isSome_iff_exists.mp isFound with ⟨inner, looked⟩
      rcases finds name inner looked with ⟨outer, outerFound, _⟩
      simp [outerFound]
    · intro name inner outer looked outerFound
      rcases finds name inner looked with ⟨other, otherFound, projects⟩
      cases outerFound.symm.trans otherFound
      exact projects

theorem eq_scalar {whole : Value} {content : Scalar}
    (projects : whole.ProjectsTo (.scalar content)) : whole = .scalar content := by
  cases projects
  rfl

/-- The only record that is a projection of a scalar is the empty one. -/
theorem eq_nil {content : Scalar} {fields : List (String × Value)}
    (projects : (Value.scalar content).ProjectsTo (.record fields)) : fields = [] := by
  cases fields with
  | nil => rfl
  | cons field rest =>
      rcases field with ⟨name, inner⟩
      rcases (record_iff _ _).mp projects name inner List.lookup_cons_self with ⟨_, differ, _⟩
      cases differ

/-- What a projection has under a name is a projection of what the value has there. -/
theorem field? {whole part inner : Value} {name : String} (projects : whole.ProjectsTo part)
    (looked : part.field? name = some inner) :
    ∃ outer, whole.field? name = some outer ∧ outer.ProjectsTo inner := by
  cases part with
  | scalar content => cases looked
  | record fields => exact (record_iff whole fields).mp projects name inner looked

theorem refl (value : Value) : value.ProjectsTo value := by
  cases value with
  | scalar content => exact scalar content
  | record fields =>
      apply (record_iff _ fields).mpr
      intro name inner looked
      exact ⟨inner, looked, refl inner⟩
termination_by sizeOf value
decreasing_by
  have entrySmaller := List.sizeOf_lt_of_mem (mem_of_lookup looked)
  simp only [Prod.mk.sizeOf_spec, Value.record.sizeOf_spec] at *
  omega

theorem trans {whole middle part : Value} (upper : whole.ProjectsTo middle)
    (lower : middle.ProjectsTo part) : whole.ProjectsTo part := by
  induction lower generalizing whole with
  | scalar content => exact upper
  | @record middle fields found below ih =>
      apply (record_iff whole fields).mpr
      intro name inner looked
      rcases Option.isSome_iff_exists.mp (found name (by simp [looked])) with
        ⟨between, betweenFound⟩
      rcases upper.field? betweenFound with ⟨outer, outerFound, projects⟩
      exact ⟨outer, outerFound, ih name inner between looked betweenFound projects⟩

end ProjectsTo

end Value

end Conform
