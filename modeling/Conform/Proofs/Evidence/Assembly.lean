import Conform.Proofs.Evidence.Locality

/-!
# Assembling evidence and taking it apart

Every piece of evidence can be built on a stack: its values are pushed and its connectives are put
on, the parts of a connective before it. A conjunction is built from its second part on top of its
first, and it is taken apart in the same order, so that the second part comes to lie on top again.

Taking apart brings every value of a conjunction back. Of two parts one is dropped and the other one
kept, whatever lies below, and the value is reached by going on with the part that has it.
-/

namespace Conform

namespace Evidence

/-- The script that builds the evidence, with each connective behind its parts. -/
def assembly : Evidence → List Stack.Step
  | fact value => [.push value]
  | both first second => first.assembly ++ second.assembly ++ [.and]
  | left side => side.assembly ++ [.orLeft]
  | right side => side.assembly ++ [.orRight]

/-- The evidence has no connective but conjunctions. -/
def isConjunctive : Evidence → Bool
  | fact _ => true
  | both first second => first.isConjunctive && second.isConjunctive
  | left _ => false
  | right _ => false

/-- The values at the leaves, from left to right. -/
def values : Evidence → List Value
  | fact value => [value]
  | both first second => first.values ++ second.values
  | left side => side.values
  | right side => side.values

namespace Stack

theorem run_append (first second : List Step) (stack : Stack) :
    run (first ++ second) stack = run first stack >>= run second := by
  rw [run, List.foldlM_append]
  rfl

/-- A script that goes on where another one has ended. -/
theorem run_append_of_run {first second : List Step} {stack middle : Stack}
    (ran : run first stack = .ok middle) : run (first ++ second) stack = run second middle := by
  rw [run_append, ran]
  rfl

theorem run_assembly (evidence : Evidence) (stack : Stack) :
    run evidence.assembly stack = .ok (evidence :: stack) := by
  induction evidence generalizing stack with
  | fact value => rfl
  | both first second ihFirst ihSecond =>
      rw [assembly, List.append_assoc, run_append_of_run (ihFirst stack),
        run_append_of_run (ihSecond (first :: stack))]
      rfl
  | left side ih =>
      rw [assembly, run_append_of_run (ih stack)]
      rfl
  | right side ih =>
      rw [assembly, run_append_of_run (ih stack)]
      rfl

/-- The steps that are needed to take a conjunction apart. -/
def takingApart : List Step := [.project, .swap, .drop]

/-- A script of steps that take apart, and which replaces the evidence by one of its values. -/
def Extracts (script : List Step) (evidence : Evidence) (value : Value) : Prop :=
  script ⊆ takingApart ∧ ∀ stack, run script (evidence :: stack) = .ok (fact value :: stack)

theorem Extracts.first {script : List Step} {first : Evidence} {value : Value}
    (extracts : Extracts script first value) (second : Evidence) :
    Extracts ([.project, .drop] ++ script) (both first second) value := by
  refine ⟨List.append_subset.mpr ⟨by simp [takingApart], extracts.1⟩, ?_⟩
  intro stack
  have kept : run [.project, .drop] (both first second :: stack) = .ok (first :: stack) := rfl
  rw [run_append_of_run kept]
  exact extracts.2 stack

theorem Extracts.second {script : List Step} {second : Evidence} {value : Value}
    (extracts : Extracts script second value) (first : Evidence) :
    Extracts ([.project, .swap, .drop] ++ script) (both first second) value := by
  refine ⟨List.append_subset.mpr ⟨List.Subset.refl _, extracts.1⟩, ?_⟩
  intro stack
  have kept : run [.project, .swap, .drop] (both first second :: stack) = .ok (second :: stack) :=
    rfl
  rw [run_append_of_run kept]
  exact extracts.2 stack

theorem exists_extracts {evidence : Evidence} (conjunctive : evidence.isConjunctive = true)
    {value : Value} (valueMem : value ∈ evidence.values) :
    ∃ script, Extracts script evidence value := by
  induction evidence with
  | fact own =>
      cases List.mem_singleton.mp valueMem
      exact ⟨[], List.nil_subset _, fun _ => rfl⟩
  | both first second ihFirst ihSecond =>
      rw [isConjunctive, Bool.and_eq_true] at conjunctive
      rcases List.mem_append.mp valueMem with firstMem | secondMem
      · rcases ihFirst conjunctive.1 firstMem with ⟨script, extracts⟩
        exact ⟨_, extracts.first second⟩
      · rcases ihSecond conjunctive.2 secondMem with ⟨script, extracts⟩
        exact ⟨_, extracts.second first⟩
  | left side => cases conjunctive
  | right side => cases conjunctive

/-- The machine is local, atomic and inverse to itself. A step rewrites the top of the stack or is
refused. It looks at the entries that it needs, which is checked first, and at no others. One that
fails leaves the stack as it was, so that a script comes to the same as the run of those of its
steps that do not fail. A script that runs on a
stack runs above any other one, which it leaves unchanged. All evidence is built by its script on
any stack, and each value of a conjunction comes back to where the conjunction was, by a script that
only takes apart. -/
theorem steps_local_atomic_invertible :
    (∀ next stack result, step next stack = .ok result ↔
      ∃ taken made below, Rewrites next taken made ∧ stack = taken ++ below ∧
        result = made.over below) ∧
      (∀ next stack failure, step next stack = .error failure ↔ Refuses next stack failure) ∧
      (∀ next stack, step next stack = .error .underflow ↔ stack.length < next.arity) ∧
      (∀ next stack below, next.arity ≤ stack.length →
        step next (stack ++ below) = (step next stack).map (fun result => result.over below)) ∧
      (∀ next stack result, step next stack = .ok result → advance stack next = result.stack) ∧
      (∀ next stack failure, step next stack = .error failure → advance stack next = stack) ∧
      (∀ steps stack, run (effective steps stack) stack = .ok (steps.foldl advance stack)) ∧
      (∀ steps stack after below, run steps stack = .ok after →
        run steps (stack ++ below) = .ok (after ++ below)) ∧
      (∀ evidence stack, run evidence.assembly stack = .ok (evidence :: stack)) ∧
      ∀ evidence : Evidence, evidence.isConjunctive = true → ∀ value ∈ evidence.values,
        ∃ script, script ⊆ [.project, .swap, .drop] ∧
          ∀ stack, run script (evidence :: stack) = .ok (fact value :: stack) := by
  refine ⟨step_eq_ok_iff, step_eq_error_iff, step_eq_underflow_iff, step_append, ?_, ?_,
    run_effective, ?_, run_assembly, ?_⟩
  · intro next stack result stepped
    exact advance_of_ok stepped
  · intro next stack failure failed
    exact advance_of_error failed
  · intro steps stack after below ran
    exact run_append_below ran below
  · intro evidence conjunctive value valueMem
    exact exists_extracts conjunctive valueMem

/-- A conjunction with an empty record and the unit value, which is in it twice. -/
def pairedUnits : Evidence :=
  both (both (fact (.record [])) (fact .unit)) (fact .unit)

theorem pairedUnits_assembled_below :
    Step.cases.arity ≤ [pairedUnits].length ∧ step .cases [pairedUnits] = .error .notOr ∧
      step .cases [pairedUnits, left pairedUnits] = .error .notOr ∧
      advance [pairedUnits] .cases = [pairedUnits] ∧
      step .swap [pairedUnits, left pairedUnits] = .ok ⟨[left pairedUnits, pairedUnits], none⟩ ∧
      advance [pairedUnits, left pairedUnits] .swap = [left pairedUnits, pairedUnits] ∧
      run [.projectLeft, .projectLeft] [pairedUnits] = .ok [fact (.record [])] ∧
      run [.projectLeft, .projectLeft] [pairedUnits, left pairedUnits] =
        .ok [fact (.record []), left pairedUnits] ∧
      pairedUnits.isConjunctive = true ∧ .record [] ∈ pairedUnits.values ∧
      ∃ script, run (pairedUnits.assembly ++ script) [left pairedUnits] =
        .ok [fact (.record []), left pairedUnits] := by
  rcases steps_local_atomic_invertible with
    ⟨_, _, _, sameAbove, follows, atomic, _, onTop, assembled, extracted⟩
  have enough : Step.cases.arity ≤ [pairedUnits].length := by decide
  have failed : step .cases [pairedUnits] = .error .notOr := rfl
  have swapped : step .swap [pairedUnits, left pairedUnits] =
      .ok ⟨[left pairedUnits, pairedUnits], none⟩ := rfl
  have ran : run [.projectLeft, .projectLeft] [pairedUnits] = .ok [fact (.record [])] := rfl
  have valueMem : .record [] ∈ pairedUnits.values := List.mem_cons_self
  refine ⟨enough, failed, ?_, atomic _ _ _ failed, swapped, follows _ _ _ swapped, ran,
    onTop _ _ _ [left pairedUnits] ran, rfl, valueMem, ?_⟩
  · exact (sameAbove _ _ [left pairedUnits] enough).trans (by rw [failed]; rfl)
  · rcases extracted pairedUnits rfl _ valueMem with ⟨script, _, extracts⟩
    refine ⟨script, ?_⟩
    rw [run_append_of_run (assembled pairedUnits _)]
    exact extracts [left pairedUnits]

end Stack

end Evidence

end Conform
