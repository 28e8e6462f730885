import Conform.Proofs.Relation.Equality
import Conform.Proofs.Ty.Reading
import Conform.Proofs.Witness.Steps

/-!
# Witnesses connect equal types

Only the structural witness compares shapes. Transitivity and the substitutions forge their result
from the ends of other witnesses, so nothing in them protects from connecting different types. That
they never do is an invariant of the whole session: every register connects equal types and holds
conversions that end where the witness says. Equality of types is an equivalence, which is what
keeps it under each step, accepted or not.
-/

namespace Conform

/-- The conversion is one from the source to the target: it does nothing only if they are the same,
and it reads nothing but the target. A forged conversion never returns. -/
def Conversion.Joins : Conversion → Ty → Ty → Prop
  | identity, source, target => source = target
  | reshape type, _, target => type = target
  | forged, _, _ => True

theorem Conversion.Joins.admits {conversion : Conversion} {source target : Ty}
    {datum converted : Datum} (joins : conversion.Joins source target)
    (admitted : source.admits datum = true) (ran : conversion.run datum = .ok converted) :
    target.admits converted = true := by
  cases conversion with
  | identity =>
      cases joins
      cases ran
      exact admitted
  | reshape type =>
      cases joins
      exact Ty.read?_admits (run_reshape.mp ran)
  | forged => cases ran

namespace Witness

/-- A witness between equal types with conversions that belong between its ends. -/
structure Valid (witness : Witness) : Prop where
  equal : (witness.source.relate witness.target).equal = true
  forward : witness.forward.Joins witness.source witness.target
  backward : witness.backward.Joins witness.target witness.source

theorem Valid.sym {witness : Witness} (valid : witness.Valid) : witness.sym.Valid :=
  ⟨Ty.equal_symm valid.equal, valid.backward, valid.forward⟩

/-- The forged result of transitivity is valid: its ends are equal by way of the common type, and
its conversions never return. -/
theorem Valid.trans {first second : Witness} (lower : first.Valid) (upper : second.Valid)
    (meet : first.target = second.source) :
    Valid ⟨first.source, second.target, .forged, .forged⟩ := by
  refine ⟨?_, trivial, trivial⟩
  apply Ty.equal_trans lower.equal
  rw [meet]
  exact upper.equal

end Witness

namespace Session

/-- Every register that holds a witness holds a valid one. -/
def Valid (session : Session) : Prop :=
  ∀ register witness, session.lookup register = .ok witness → witness.Valid

variable {session : Session}

theorem Valid.makes (valid : session.Valid) {step : Step} {made : Witness}
    (makes : session.Makes step made) : made.Valid := by
  cases makes with
  | refl type => exact ⟨Ty.equal_refl type, rfl, rfl⟩
  | structural equal => exact ⟨equal, rfl, rfl⟩
  | copy found => exact valid _ _ found
  | sym found => exact (valid _ _ found).sym
  | trans leftFound rightFound meet =>
      exact (valid _ _ leftFound).trans (valid _ _ rightFound) meet
  | sub1 leftFound rightFound meet =>
      exact (valid _ _ rightFound).sym.trans (valid _ _ leftFound) meet
  | sub2 leftFound rightFound meet =>
      exact (valid _ _ leftFound).trans (valid _ _ rightFound) meet

theorem Valid.step (valid : session.Valid) (step : Step) : (session.step step).Valid := by
  intro register witness found
  rcases lookup_step.mp found with earlier | ⟨_, answered⟩
  · exact valid register witness earlier
  · exact valid.makes (makes_of_answer answered)

theorem Valid.run (valid : session.Valid) (steps : List Step) : (session.run steps).Valid := by
  induction steps generalizing session with
  | nil => exact valid
  | cons step rest ih => exact ih (valid.step step)

theorem valid_empty : empty.Valid := by
  intro register witness found
  cases found

/-- The answer is a datum of the type. -/
def Answer.IsDatumOf (answer : Answer) (type : Ty) : Prop :=
  ∃ converted, answer = .datum converted ∧ type.admits converted = true

theorem isDatumOf_of_convert {conversion : Conversion} {source target : Ty} {datum : Datum}
    {answer : Answer} (joins : conversion.Joins source target)
    (converts : convert source conversion.run datum = .ok answer) : answer.IsDatumOf target := by
  rcases exists_of_convert converts with ⟨admitted, converted, ran, same⟩
  exact ⟨converted, same, joins.admits admitted ran⟩

theorem lookup_step_structural {source target : Ty}
    (equal : (source.relate target).equal = true) :
    (session.step (.structural source target)).lookup session.registers.length =
      .ok ⟨source, target, .reshape target, .reshape source⟩ := by
  apply lookup_step.mpr
  right
  refine ⟨rfl, ?_⟩
  rw [answer, Witness.structural_eq_ok.mpr ⟨equal, rfl⟩]
  rfl

/-- After any run, every register with a witness connects equal types, its conversions return only
data of the opposite end, and a step that is rejected leaves the witnesses as they are. No pair of
equal types is left out: a structural step connects it at once. -/
theorem run_connects_equal (steps : List Step) :
    (∀ register witness, (empty.run steps).lookup register = .ok witness →
      (witness.source.relate witness.target).equal = true ∧
        ∀ datum answer,
          ((empty.run steps).answer (.coerce register datum) = .ok answer →
            answer.IsDatumOf witness.target) ∧
          ((empty.run steps).answer (.cast register datum) = .ok answer →
            answer.IsDatumOf witness.target) ∧
          ((empty.run steps).answer (.coerceBack register datum) = .ok answer →
            answer.IsDatumOf witness.source)) ∧
      (∀ step failure, (empty.run steps).answer step = .error failure →
        ∀ register witness, ((empty.run steps).step step).lookup register = .ok witness ↔
          (empty.run steps).lookup register = .ok witness) ∧
      ∀ source target, (source.relate target).equal = true →
        ∃ witness, witness.source = source ∧ witness.target = target ∧
          ((empty.run steps).step (.structural source target)).lookup
            (empty.run steps).registers.length = .ok witness := by
  have valid := valid_empty.run steps
  refine ⟨?_, ?_, ?_⟩
  · intro register witness found
    have witnessValid := valid register witness found
    refine ⟨witnessValid.equal, ?_⟩
    intro datum answer
    refine ⟨?_, ?_, ?_⟩
    · intro answered
      simp only [Session.answer, found] at answered
      exact isDatumOf_of_convert witnessValid.forward answered
    · intro answered
      simp only [Session.answer, found] at answered
      exact isDatumOf_of_convert witnessValid.forward answered
    · intro answered
      simp only [Session.answer, found] at answered
      exact isDatumOf_of_convert witnessValid.backward answered
  · intro step failure rejected register witness
    rw [lookup_step, rejected]
    simp
  · intro source target equal
    exact ⟨_, rfl, rfl, lookup_step_structural equal⟩

/-- Steps that replace the source of a reflexive witness by an equal type. -/
def substitution : List Step :=
  let source := Ty.union (.primitive .f64) (.primitive .string)
  let target := Ty.union (.primitive .string) (.primitive .f64)
  [.structural source target, .refl source, .sub1 1 0]

theorem substitution_connects_equal :
    ∃ witness, (empty.run substitution).lookup 2 = .ok witness ∧
      (witness.source.relate witness.target).equal = true :=
  ⟨_, rfl, ((run_connects_equal substitution).1 2 _ rfl).1⟩

end Session

end Conform
