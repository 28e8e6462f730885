import Conform.Evidence.Basic
import Conform.Value.Debug

/-!
# Stacks of evidence

A stack machine over evidence. Each step looks at the top of the stack only, and one that fails
leaves the stack as it was. Nothing puts entries back, so the entries that a step needs are checked
before anything is taken off.
-/

namespace Conform

namespace Evidence

/-- A stack of evidence, its top first. -/
abbrev Stack := List Evidence

namespace Stack

inductive Step where
  | push (value : Value)
  | dup
  | swap
  | drop
  | and
  | orLeft
  | orRight
  | projectLeft
  | projectRight
  | project
  | cases
  | debug

inductive Failure where
  | underflow
  | notAnd
  | notOr
  /-- The top has a part that is not a value. -/
  | tooDeep
deriving DecidableEq, Repr

/-- A stack after a step, with what the step has to say. -/
structure Result where
  stack : Stack
  note : Option String

/-- The text of evidence that is not nested: a value, or a connective over values. -/
def describe : Evidence → Except Failure String
  | fact value => .ok value.debug
  | both (fact first) (fact second) => .ok ("And(" ++ first.debug ++ ", " ++ second.debug ++ ")")
  | left (fact side) => .ok ("Left(" ++ side.debug ++ ")")
  | right (fact side) => .ok ("Right(" ++ side.debug ++ ")")
  | _ => .error .tooDeep

/-- A part of a run, which takes entries off the stack and puts others on. Where it fails, the stack
stays as it is at this point: what has been taken off before is lost. -/
abbrev Machine := ExceptT Failure (StateM Stack)

namespace Machine

def need (entries : Nat) : Machine Unit := do
  if (← get).length < entries then throw .underflow

def top : Machine Evidence := do
  match ← get with
  | [] => throw .underflow
  | top :: _ => return top

def pop : Machine Evidence := do
  match ← get with
  | [] => throw .underflow
  | top :: rest =>
      set rest
      return top

def put (evidence : Evidence) : Machine Unit := modify (fun stack => evidence :: stack)

/-- The parts of the conjunction on top, which is left there. -/
def parts : Machine (Evidence × Evidence) := do
  match (← top).parts? with
  | some parts => return parts
  | none => throw .notAnd

end Machine

/-- Performs a step and returns what it has to say. -/
def perform : Step → Machine (Option String)
  | .push value => do
      Machine.put (fact value)
      return none
  | .dup => do
      Machine.put (← Machine.top)
      return none
  | .swap => do
      Machine.need 2
      let upper ← Machine.pop
      let lower ← Machine.pop
      Machine.put upper
      Machine.put lower
      return none
  | .drop => do
      let _ ← Machine.pop
      return none
  | .and => do
      Machine.need 2
      let second ← Machine.pop
      let first ← Machine.pop
      Machine.put (both first second)
      return none
  | .orLeft => do
      Machine.put (left (← Machine.pop))
      return none
  | .orRight => do
      Machine.put (right (← Machine.pop))
      return none
  | .projectLeft => do
      let (first, _) ← Machine.parts
      let _ ← Machine.pop
      Machine.put first
      return none
  | .projectRight => do
      let (_, second) ← Machine.parts
      let _ ← Machine.pop
      Machine.put second
      return none
  | .project => do
      let (first, second) ← Machine.parts
      let _ ← Machine.pop
      Machine.put first
      Machine.put second
      return none
  | .cases => do
      let outcome := (← Machine.top).cases? (fun side => (both side side, "left"))
        (fun side => (left side, "right"))
      match outcome with
      | some (result, note) =>
          let _ ← Machine.pop
          Machine.put result
          return some note
      | none => throw .notOr
  | .debug => do
      match describe (← Machine.top) with
      | .ok text => return some text
      | .error failure => throw failure

/-- The result of a step, or why it fails. -/
def step (next : Step) (stack : Stack) : Except Failure Result :=
  match (perform next).run stack with
  | (.ok note, after) => .ok ⟨after, note⟩
  | (.error failure, _) => .error failure

/-- The stack behind a step, whether it succeeds or fails. -/
def advance (stack : Stack) (next : Step) : Stack := ((perform next).run stack).2

/-- Takes steps one after the other and fails with the first that fails. -/
def run (steps : List Step) (stack : Stack) : Except Failure Stack :=
  steps.foldlM (fun stack next => (step next stack).map Result.stack) stack

end Stack

end Evidence

end Conform
