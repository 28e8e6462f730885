import Conform.Evidence.Stack

/-!
# Steps are local

A step rewrites a few entries at the top of the stack, or it is refused. Which entries it puts there
and what it reports is told by the entries that it takes alone: what lies below has no part in it
and stays as it is. So a script that runs on a stack runs in the same way above any other one.

A step that is refused has taken nothing off when it fails, although it could not put anything back.
In a script that goes on behind such a step, it might as well be missing: what is left at the end is
the result of a run that takes the other steps only.
-/

namespace Conform

namespace Evidence

namespace Stack

/-- The result with more entries below. -/
def Result.over (result : Result) (below : Stack) : Result :=
  ⟨result.stack ++ below, result.note⟩

/-- How many entries of the stack a step needs. -/
def Step.arity : Step → Nat
  | push _ => 0
  | swap => 2
  | and => 2
  | _ => 1

/-- The step takes a conjunction apart. -/
def Step.IsProjection : Step → Prop
  | projectLeft => True
  | projectRight => True
  | project => True
  | _ => False

/-- What a step takes off the top of a stack, and the result that it puts there instead. -/
inductive Rewrites : Step → Stack → Result → Prop where
  | push (value : Value) : Rewrites (.push value) [] ⟨[fact value], none⟩
  | dup (top : Evidence) : Rewrites .dup [top] ⟨[top, top], none⟩
  | swap (top next : Evidence) : Rewrites .swap [top, next] ⟨[next, top], none⟩
  | drop (top : Evidence) : Rewrites .drop [top] ⟨[], none⟩
  | and (first second : Evidence) : Rewrites .and [second, first] ⟨[both first second], none⟩
  | orLeft (top : Evidence) : Rewrites .orLeft [top] ⟨[left top], none⟩
  | orRight (top : Evidence) : Rewrites .orRight [top] ⟨[right top], none⟩
  | projectLeft (first second : Evidence) :
      Rewrites .projectLeft [both first second] ⟨[first], none⟩
  | projectRight (first second : Evidence) :
      Rewrites .projectRight [both first second] ⟨[second], none⟩
  | project (first second : Evidence) :
      Rewrites .project [both first second] ⟨[second, first], none⟩
  | casesLeft (side : Evidence) : Rewrites .cases [left side] ⟨[both side side], some "left"⟩
  | casesRight (side : Evidence) : Rewrites .cases [right side] ⟨[left side], some "right"⟩
  | debug {top : Evidence} {text : String} (described : describe top = .ok text) :
      Rewrites .debug [top] ⟨[top], some text⟩

/-- Why a step is refused: there are too few entries, or the one on top has not the form that the
step asks for. -/
inductive Refuses : Step → Stack → Failure → Prop where
  | underflow {next : Step} {stack : Stack} (few : stack.length < next.arity) :
      Refuses next stack .underflow
  | notAnd {next : Step} {top : Evidence} (projection : next.IsProjection)
      (isOther : ∀ first second, top ≠ both first second) (below : Stack) :
      Refuses next (top :: below) .notAnd
  | notOr {top : Evidence} (isOther : ∀ side, top ≠ left side ∧ top ≠ right side)
      (below : Stack) : Refuses .cases (top :: below) .notOr
  | tooDeep {top : Evidence} (undescribed : describe top = .error .tooDeep) (below : Stack) :
      Refuses .debug (top :: below) .tooDeep

theorem perform_debug (top : Evidence) (below : Stack) :
    (perform .debug).run (top :: below) =
      match describe top with
      | .ok text => (.ok (some text), top :: below)
      | .error failure => (.error failure, top :: below) := by
  change (match describe top with
    | .ok text => (pure (some text) : Machine (Option String))
    | .error failure => throw failure).run (top :: below) = _
  cases describe top <;> rfl

theorem Rewrites.perform_eq {next : Step} {taken : Stack} {made : Result}
    (rewrites : Rewrites next taken made) (below : Stack) :
    (perform next).run (taken ++ below) = (.ok made.note, made.stack ++ below) := by
  cases rewrites with
  | debug described =>
      rw [List.singleton_append, perform_debug, described]
  | _ => rfl

/-- A step that is refused fails before it has taken anything off. -/
theorem Refuses.perform_eq {next : Step} {stack : Stack} {failure : Failure}
    (refuses : Refuses next stack failure) :
    (perform next).run stack = (.error failure, stack) := by
  cases refuses with
  | underflow few =>
      cases next with
      | push value => cases few
      | swap | and =>
          rcases stack with _ | ⟨top, _ | ⟨second, below⟩⟩
          · rfl
          · rfl
          · simp only [Step.arity, List.length_cons] at few
            omega
      | _ =>
          rcases stack with _ | ⟨top, below⟩
          · rfl
          · simp [Step.arity] at few
  | @notAnd _ top projection isOther below =>
      cases next with
      | projectLeft | projectRight | project =>
          cases top with
          | both first second => exact absurd rfl (isOther first second)
          | _ => rfl
      | _ => cases projection
  | @notOr top isOther below =>
      cases top with
      | left side => exact absurd rfl (isOther side).1
      | right side => exact absurd rfl (isOther side).2
      | _ => rfl
  | tooDeep undescribed below =>
      rw [perform_debug, undescribed]

theorem describe_eq_error {evidence : Evidence} {failure : Failure}
    (undescribed : describe evidence = .error failure) : failure = .tooDeep := by
  unfold describe at undescribed
  split at undescribed <;> cases undescribed
  rfl

theorem rewrites_or_refuses (next : Step) (stack : Stack) :
    (∃ taken made below, Rewrites next taken made ∧ stack = taken ++ below) ∨
      ∃ failure, Refuses next stack failure := by
  cases stack with
  | nil =>
      cases next with
      | push value => exact Or.inl ⟨_, _, [], .push value, rfl⟩
      | _ => exact Or.inr ⟨_, .underflow (by simp [Step.arity])⟩
  | cons top below =>
      cases next with
      | push value => exact Or.inl ⟨_, _, top :: below, .push value, rfl⟩
      | dup => exact Or.inl ⟨_, _, below, .dup top, rfl⟩
      | swap =>
          cases below with
          | nil => exact Or.inr ⟨_, .underflow (by simp [Step.arity])⟩
          | cons next below => exact Or.inl ⟨_, _, below, .swap top next, rfl⟩
      | drop => exact Or.inl ⟨_, _, below, .drop top, rfl⟩
      | and =>
          cases below with
          | nil => exact Or.inr ⟨_, .underflow (by simp [Step.arity])⟩
          | cons first below => exact Or.inl ⟨_, _, below, .and first top, rfl⟩
      | orLeft => exact Or.inl ⟨_, _, below, .orLeft top, rfl⟩
      | orRight => exact Or.inl ⟨_, _, below, .orRight top, rfl⟩
      | projectLeft =>
          cases top with
          | both first second => exact Or.inl ⟨_, _, below, .projectLeft first second, rfl⟩
          | _ => exact Or.inr ⟨_, .notAnd (by trivial) (by simp) below⟩
      | projectRight =>
          cases top with
          | both first second => exact Or.inl ⟨_, _, below, .projectRight first second, rfl⟩
          | _ => exact Or.inr ⟨_, .notAnd (by trivial) (by simp) below⟩
      | project =>
          cases top with
          | both first second => exact Or.inl ⟨_, _, below, .project first second, rfl⟩
          | _ => exact Or.inr ⟨_, .notAnd (by trivial) (by simp) below⟩
      | cases =>
          cases top with
          | left side => exact Or.inl ⟨_, _, below, .casesLeft side, rfl⟩
          | right side => exact Or.inl ⟨_, _, below, .casesRight side, rfl⟩
          | _ => exact Or.inr ⟨_, .notOr (by simp) below⟩
      | debug =>
          cases described : describe top with
          | ok text => exact Or.inl ⟨_, _, below, .debug described, rfl⟩
          | error failure =>
              cases describe_eq_error described
              exact Or.inr ⟨_, .tooDeep described below⟩

theorem Rewrites.step_eq {next : Step} {taken : Stack} {made : Result}
    (rewrites : Rewrites next taken made) (below : Stack) :
    step next (taken ++ below) = .ok (made.over below) := by
  rw [step, rewrites.perform_eq]
  rfl

theorem Refuses.step_eq {next : Step} {stack : Stack} {failure : Failure}
    (refuses : Refuses next stack failure) : step next stack = .error failure := by
  rw [step, refuses.perform_eq]

theorem step_eq_ok_iff (next : Step) (stack : Stack) (result : Result) :
    step next stack = .ok result ↔
      ∃ taken made below, Rewrites next taken made ∧ stack = taken ++ below ∧
        result = made.over below := by
  constructor
  · intro stepped
    rcases rewrites_or_refuses next stack with
      ⟨taken, made, below, rewrites, rfl⟩ | ⟨failure, refuses⟩
    · rw [rewrites.step_eq] at stepped
      cases stepped
      exact ⟨taken, made, below, rewrites, rfl, rfl⟩
    · rw [refuses.step_eq] at stepped
      cases stepped
  · rintro ⟨taken, made, below, rewrites, rfl, rfl⟩
    exact rewrites.step_eq below

theorem step_eq_error_iff (next : Step) (stack : Stack) (failure : Failure) :
    step next stack = .error failure ↔ Refuses next stack failure := by
  constructor
  · intro failed
    rcases rewrites_or_refuses next stack with
      ⟨taken, made, below, rewrites, rfl⟩ | ⟨other, refuses⟩
    · rw [rewrites.step_eq] at failed
      cases failed
    · rw [refuses.step_eq] at failed
      cases failed
      exact refuses
  · exact Refuses.step_eq

/-- Too few entries are the first thing that a step finds, and nothing else is called so. -/
theorem step_eq_underflow_iff (next : Step) (stack : Stack) :
    step next stack = .error .underflow ↔ stack.length < next.arity := by
  rw [step_eq_error_iff]
  constructor
  · intro refuses
    cases refuses with
    | underflow few => exact few
  · exact .underflow

/-- A step that has the entries it needs is refused above any others for the same reason. -/
theorem Refuses.append {next : Step} {stack : Stack} {failure : Failure}
    (refuses : Refuses next stack failure) (enough : next.arity ≤ stack.length) (below : Stack) :
    Refuses next (stack ++ below) failure := by
  cases refuses with
  | underflow few => exact absurd few (Nat.not_lt.mpr enough)
  | notAnd projection isOther between => exact .notAnd projection isOther (between ++ below)
  | notOr isOther between => exact .notOr isOther (between ++ below)
  | tooDeep undescribed between => exact .tooDeep undescribed (between ++ below)

/-- A step that has the entries it needs does the same above any others. -/
theorem step_append (next : Step) (stack below : Stack) (enough : next.arity ≤ stack.length) :
    step next (stack ++ below) = (step next stack).map (fun result => result.over below) := by
  rcases rewrites_or_refuses next stack with
    ⟨taken, made, between, rewrites, rfl⟩ | ⟨failure, refuses⟩
  · rw [List.append_assoc, rewrites.step_eq, rewrites.step_eq]
    simp [Except.map, Result.over]
  · rw [(refuses.append enough below).step_eq, refuses.step_eq]
    rfl

theorem step_append_of_ok {next : Step} {stack : Stack} {result : Result}
    (stepped : step next stack = .ok result) (below : Stack) :
    step next (stack ++ below) = .ok (result.over below) := by
  rcases (step_eq_ok_iff next stack result).mp stepped with
    ⟨taken, made, between, rewrites, rfl, rfl⟩
  rw [List.append_assoc, rewrites.step_eq]
  simp [Result.over]

theorem run_cons_eq_ok_iff (next : Step) (rest : List Step) (stack after : Stack) :
    run (next :: rest) stack = .ok after ↔
      ∃ result, step next stack = .ok result ∧ run rest result.stack = .ok after := by
  simp only [run, List.foldlM_cons]
  cases step next stack with
  | error failure => simp [Except.map, bind, Except.bind]
  | ok result => simp [Except.map, bind, Except.bind]

theorem run_append_below {steps : List Step} {stack after : Stack}
    (ran : run steps stack = .ok after) (below : Stack) :
    run steps (stack ++ below) = .ok (after ++ below) := by
  induction steps generalizing stack with
  | nil =>
      cases ran
      rfl
  | cons next rest ih =>
      rcases (run_cons_eq_ok_iff next rest stack after).mp ran with ⟨result, stepped, restRan⟩
      rw [run_cons_eq_ok_iff]
      exact ⟨result.over below, step_append_of_ok stepped below, ih restRan⟩

theorem advance_of_ok {next : Step} {stack : Stack} {result : Result}
    (stepped : step next stack = .ok result) : advance stack next = result.stack := by
  rcases (step_eq_ok_iff next stack result).mp stepped with
    ⟨taken, made, below, rewrites, rfl, rfl⟩
  rw [advance, rewrites.perform_eq]
  rfl

/-- What a failed step leaves behind is the stack as it was. -/
theorem advance_of_error {next : Step} {stack : Stack} {failure : Failure}
    (failed : step next stack = .error failure) : advance stack next = stack := by
  rw [advance, ((step_eq_error_iff next stack failure).mp failed).perform_eq]

/-- The steps of a script that succeed where they are taken. -/
def effective : List Step → Stack → List Step
  | [], _ => []
  | next :: rest, stack =>
      match step next stack with
      | .ok result => next :: effective rest result.stack
      | .error _ => effective rest stack

/-- The steps that fail may be left out of a script. -/
theorem run_effective (steps : List Step) (stack : Stack) :
    run (effective steps stack) stack = .ok (steps.foldl advance stack) := by
  induction steps generalizing stack with
  | nil => rfl
  | cons next rest ih =>
      rw [effective, List.foldl_cons]
      cases stepped : step next stack with
      | error failure =>
          rw [advance_of_error stepped]
          exact ih stack
      | ok result =>
          rw [advance_of_ok stepped]
          exact (run_cons_eq_ok_iff next _ stack _).mpr ⟨result, stepped, ih result.stack⟩

end Stack

end Evidence

end Conform
