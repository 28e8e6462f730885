import Conform.Relation.Verdict
import Conform.Ty.Read

/-!
# Equality witnesses

A witness stands for the equality of two types and holds a conversion in each direction.
Reflexivity converts by doing nothing. Between two types of equal shape there is the structural
witness, which writes a datum out and reads it back as the other type. Transitivity, and with it
both substitutions, is an axiom: its witnesses have the right ends, but their conversions are
forged and fail when run.
-/

namespace Conform

/-- One direction of a witness. -/
inductive Conversion where
  | identity
  /-- The datum is written out and read back as the target type. -/
  | reshape (target : Ty)
  /-- There is no conversion behind the axiom. -/
  | forged
deriving DecidableEq

/-- Evidence that two types are equal. -/
structure Witness where
  source : Ty
  target : Ty
  /-- The conversion from the source to the target. -/
  forward : Conversion
  /-- The conversion from the target back to the source. -/
  backward : Conversion
deriving DecidableEq

/-- Why a step over witnesses fails. -/
inductive Failure where
  | notEqual
  /-- The ends of two witnesses do not meet. -/
  | typeMismatch
  | noWitness
  /-- A datum does not belong to the type that is converted. -/
  | badValue
  /-- The conversion of an axiom was run. -/
  | axiomRun
  /-- A written datum does not read back as the equal type. -/
  | doesNotFit
deriving DecidableEq, Repr

namespace Failure

/-- What is reported where the conversion of an axiom is run. -/
def axiomMessage : String :=
  "internal error: entered unreachable code: conversion of a witness built by `trans` " ++
    "was run, but `trans` is an axiom"

def message? : Failure → Option String
  | axiomRun => some axiomMessage
  | _ => none

end Failure

namespace Conversion

def run : Conversion → Datum → Except Failure Datum
  | identity, datum => .ok datum
  | reshape target, datum =>
      match target.convert? datum with
      | some converted => .ok converted
      | none => .error .doesNotFit
  | forged, _ => .error .axiomRun

@[simp]
theorem run_reshape {target : Ty} {datum converted : Datum} :
    (reshape target).run datum = .ok converted ↔ target.convert? datum = some converted := by
  simp only [run]
  cases target.convert? datum <;> simp

end Conversion

namespace Witness

def refl (type : Ty) : Witness := ⟨type, type, .identity, .identity⟩

/-- Types of equal shape are equal. -/
def structural (source target : Ty) : Except Failure Witness :=
  if (source.relate target).equal then .ok ⟨source, target, .reshape target, .reshape source⟩
  else .error .notEqual

theorem structural_eq_ok {source target : Ty} {witness : Witness} :
    structural source target = .ok witness ↔
      (source.relate target).equal = true ∧
        witness = ⟨source, target, .reshape target, .reshape source⟩ := by
  unfold structural
  split
  · rename_i equal
    simp only [equal, true_and, Except.ok.injEq]
    exact eq_comm
  · simp [*]

def sym (witness : Witness) : Witness :=
  ⟨witness.target, witness.source, witness.backward, witness.forward⟩

/-- Equality is transitive: the target of the first witness is the source of the second. -/
def trans (first second : Witness) : Except Failure Witness :=
  if first.target = second.source then .ok ⟨first.source, second.target, .forged, .forged⟩
  else .error .typeMismatch

theorem trans_eq_ok {first second witness : Witness} :
    trans first second = .ok witness ↔
      first.target = second.source ∧
        witness = ⟨first.source, second.target, .forged, .forged⟩ := by
  unfold trans
  split
  · rename_i meet
    simp only [meet, true_and, Except.ok.injEq]
    exact eq_comm
  · simp [*]

/-- Replaces the source of the first witness by the target of the second, which has the same
source. -/
def sub1 (first second : Witness) : Except Failure Witness := trans second.sym first

/-- Replaces the target of the first witness by the target of the second. -/
def sub2 (first second : Witness) : Except Failure Witness := trans first second

def coerce (witness : Witness) (datum : Datum) : Except Failure Datum := witness.forward.run datum

def coerceBack (witness : Witness) (datum : Datum) : Except Failure Datum :=
  witness.backward.run datum

/-- The forward conversion on its own. -/
def cast (witness : Witness) : Datum → Except Failure Datum := witness.forward.run

/-- The text that shows a witness by the names of its ends. -/
def debug (witness : Witness) : String :=
  "Witness<" ++ witness.source.typeName ++ ", " ++ witness.target.typeName ++ ">"

end Witness

end Conform
