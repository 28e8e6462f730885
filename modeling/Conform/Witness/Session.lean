import Conform.Witness.Basic

/-!
# Sessions

A session runs steps over witnesses. Every step has a register of its own, numbered in the order
of the steps: it holds the witness that the step makes and stays empty if the step is rejected or
makes none. Later steps refer to earlier registers, and no step changes a register that is already
there.
-/

namespace Conform

/-- The registers of the steps taken so far. -/
structure Session where
  registers : List (Option Witness)
deriving DecidableEq

namespace Session

def empty : Session := ⟨[]⟩

inductive Step where
  | refl (type : Ty)
  | structural (source target : Ty)
  | copy (register : Nat)
  | sym (register : Nat)
  | trans (first second : Nat)
  | sub1 (first second : Nat)
  | sub2 (first second : Nat)
  | coerce (register : Nat) (datum : Datum)
  | coerceBack (register : Nat) (datum : Datum)
  | cast (register : Nat) (datum : Datum)
  | debug (register : Nat)

inductive Answer where
  | witness (made : Witness)
  | datum (converted : Datum)
  | text (shown : String)

/-- The witness that an answer leaves in the register of its step. -/
def Answer.witness? : Answer → Option Witness
  | witness made => some made
  | datum _ => none
  | text _ => none

def lookup (session : Session) (register : Nat) : Except Failure Witness :=
  match session.registers[register]? with
  | some (some witness) => .ok witness
  | _ => .error .noWitness

/-- Two registers, the first looked up before the second. -/
def lookupBoth (session : Session) (first second : Nat) : Except Failure (Witness × Witness) := do
  let left ← session.lookup first
  let right ← session.lookup second
  return (left, right)

/-- Runs a conversion on a datum of the given type, and on no other datum. -/
def convert (type : Ty) (conversion : Datum → Except Failure Datum) (datum : Datum) :
    Except Failure Answer :=
  if type.admits datum then (conversion datum).map .datum else .error .badValue

def answer (session : Session) : Step → Except Failure Answer
  | .refl type => .ok (.witness (Witness.refl type))
  | .structural source target => (Witness.structural source target).map .witness
  | .copy register => (session.lookup register).map .witness
  | .sym register => (session.lookup register).map (fun witness => .witness witness.sym)
  | .trans first second => do
      let (left, right) ← session.lookupBoth first second
      return .witness (← left.trans right)
  | .sub1 first second => do
      let (left, right) ← session.lookupBoth first second
      return .witness (← left.sub1 right)
  | .sub2 first second => do
      let (left, right) ← session.lookupBoth first second
      return .witness (← left.sub2 right)
  | .coerce register datum => do
      let witness ← session.lookup register
      convert witness.source witness.coerce datum
  | .coerceBack register datum => do
      let witness ← session.lookup register
      convert witness.target witness.coerceBack datum
  | .cast register datum => do
      let witness ← session.lookup register
      convert witness.source witness.cast datum
  | .debug register => (session.lookup register).map (fun witness => .text witness.debug)

def record (session : Session) (register : Option Witness) : Session :=
  ⟨session.registers ++ [register]⟩

def step (session : Session) (step : Step) : Session :=
  match session.answer step with
  | .ok answer => session.record answer.witness?
  | .error _ => session.record none

def run (session : Session) (steps : List Step) : Session := steps.foldl Session.step session

end Session

end Conform
