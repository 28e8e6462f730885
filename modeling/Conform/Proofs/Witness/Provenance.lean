import Conform.Proofs.Witness.Steps
import Mathlib.Algebra.Ring.Parity
import Mathlib.Data.List.Induction

/-!
# Where a witness comes from

A register gets its witness from its step and keeps it. If the step copies or exchanges another
register, the witness is that of the other register, with its ends and conversions exchanged once
more in the second case. Followed back, this leads to the step that made the witness, and to the
number of exchanges on the way.

What the witness does is settled by the two. Each step that makes a witness says what its
conversions are, and an exchange of both directions is all that can have happened to them since.
-/

namespace Conform

namespace Session

variable {session : Session}

/-- The step runs a conversion. -/
def Step.IsConversion : Step → Prop
  | coerce _ _ => True
  | coerceBack _ _ => True
  | cast _ _ => True
  | _ => False

/-- A step adds a register and changes none, and the one that a conversion adds is empty. -/
theorem registers_step (session : Session) (step : Step) :
    ∃ entry, (session.step step).registers = session.registers ++ [entry] ∧
      (step.IsConversion → entry = none) := by
  unfold Session.step
  cases answered : session.answer step with
  | error failure => exact ⟨none, rfl, fun _ => rfl⟩
  | ok answer =>
      refine ⟨answer.witness?, rfl, ?_⟩
      intro conversion
      rw [Option.eq_none_iff_forall_ne_some]
      intro made isWitness
      rw [witness?_eq_some.mp isWitness] at answered
      cases makes_of_answer answered <;> cases conversion

theorem length_registers_step (step : Step) :
    (session.step step).registers.length = session.registers.length + 1 := by
  rcases registers_step session step with ⟨entry, added, _⟩
  rw [added, List.length_append, List.length_singleton]

theorem length_registers_run (steps : List Step) :
    (session.run steps).registers.length = session.registers.length + steps.length := by
  induction steps generalizing session with
  | nil => rfl
  | cons step rest ih =>
      rw [run, List.foldl_cons, ← run, ih, length_registers_step, List.length_cons]
      omega

theorem length_registers_empty_run (steps : List Step) :
    (empty.run steps).registers.length = steps.length := by
  rw [length_registers_run, empty, List.length_nil, Nat.zero_add]

theorem run_append (steps others : List Step) :
    session.run (steps ++ others) = (session.run steps).run others :=
  List.foldl_append

theorem lt_of_lookup {register : Nat} {witness : Witness}
    (found : session.lookup register = .ok witness) : register < session.registers.length := by
  have held := lookup_eq_ok.mp found
  by_contra beyond
  rw [List.getElem?_eq_none (Nat.le_of_not_lt beyond)] at held
  cases held

/-- A register keeps its witness through every run. -/
theorem lookup_run {register : Nat} {witness : Witness}
    (found : session.lookup register = .ok witness) (steps : List Step) :
    (session.run steps).lookup register = .ok witness := by
  induction steps generalizing session with
  | nil => exact found
  | cons step rest ih => exact ih (lookup_step.mpr (Or.inl found))

/-- The witness in a register was made by the step of this register, from the registers before. -/
theorem makes_of_lookup {steps : List Step} {register : Nat} {witness : Witness}
    (found : (empty.run steps).lookup register = .ok witness) :
    ∃ step, steps[register]? = some step ∧
      (empty.run (steps.take register)).Makes step witness := by
  induction steps using List.reverseRecOn with
  | nil => cases found
  | append_singleton earlier last ih =>
      have length := length_registers_empty_run earlier
      rw [run_append] at found
      rcases lookup_step.mp found with before | ⟨isLast, answered⟩
      · rcases ih before with ⟨step, taken, makes⟩
        have older : register < earlier.length := length ▸ lt_of_lookup before
        refine ⟨step, ?_, ?_⟩
        · rw [List.getElem?_append_left older, taken]
        · rw [List.take_append_of_le_length (Nat.le_of_lt older)]
          exact makes
      · have isLength : register = earlier.length := isLast.trans length
        subst isLength
        refine ⟨last, by simp, ?_⟩
        rw [List.take_left]
        exact makes_of_answer answered

/-- What was found before the step of a register is found at the end, and is older. -/
theorem lookup_of_take {steps : List Step} {register source : Nat} {witness : Witness}
    (found : (empty.run (steps.take register)).lookup source = .ok witness) :
    source < register ∧ (empty.run steps).lookup source = .ok witness := by
  constructor
  · have older := lt_of_lookup found
    rw [length_registers_empty_run] at older
    exact Nat.lt_of_lt_of_le older (List.length_take_le register steps)
  · have kept := lookup_run found (steps.drop register)
    rwa [← run_append, List.take_append_drop] at kept

/-- The register that a step copies or exchanges. -/
def Step.source? : Step → Option Nat
  | copy register => some register
  | sym register => some register
  | _ => none

/-- Followed back through copies and exchanges, the register leads to a step that is neither, past
the given number of exchanges. -/
inductive Traces (steps : List Step) : Nat → Step → Nat → Prop where
  | origin {register : Nat} {step : Step} (taken : steps[register]? = some step)
      (original : step.source? = none) : Traces steps register step 0
  | copy {register source exchanges : Nat} {origin : Step}
      (taken : steps[register]? = some (.copy source))
      (back : Traces steps source origin exchanges) : Traces steps register origin exchanges
  | sym {register source exchanges : Nat} {origin : Step}
      (taken : steps[register]? = some (.sym source))
      (back : Traces steps source origin exchanges) : Traces steps register origin (exchanges + 1)

theorem Traces.source?_eq_none {steps : List Step} {register exchanges : Nat} {origin : Step}
    (traces : Traces steps register origin exchanges) : origin.source? = none := by
  induction traces with
  | origin _ original => exact original
  | copy _ _ ih => exact ih
  | sym _ _ ih => exact ih

theorem Traces.unique {steps : List Step} {register exchanges others : Nat} {origin other : Step}
    (first : Traces steps register origin exchanges) (second : Traces steps register other others) :
    origin = other ∧ exchanges = others := by
  induction first generalizing others with
  | origin taken original =>
      cases second with
      | origin again _ => exact ⟨Option.some.inj (taken.symm.trans again), rfl⟩
      | copy again _ =>
          cases taken.symm.trans again
          cases original
      | sym again _ =>
          cases taken.symm.trans again
          cases original
  | copy taken _ ih =>
      cases second with
      | origin again original =>
          cases taken.symm.trans again
          cases original
      | copy again back =>
          cases taken.symm.trans again
          exact ih back
      | sym again _ => cases taken.symm.trans again
  | sym taken _ ih =>
      cases second with
      | origin again original =>
          cases taken.symm.trans again
          cases original
      | copy again _ => cases taken.symm.trans again
      | sym again back =>
          cases taken.symm.trans again
          rcases ih back with ⟨sameOrigin, sameCount⟩
          exact ⟨sameOrigin, congrArg (· + 1) sameCount⟩

/-- A register that holds a witness leads back to a step that made one, and holds what this step
made after as many exchanges as there are on the way. -/
theorem exists_origin {steps : List Step} {register : Nat} {witness : Witness}
    (found : (empty.run steps).lookup register = .ok witness) :
    ∃ origin exchanges earlier made, Traces steps register origin exchanges ∧
      Makes earlier origin made ∧ witness = Witness.sym^[exchanges] made := by
  induction register using Nat.strongRecOn generalizing witness with
  | ind register ih =>
      rcases makes_of_lookup found with ⟨step, taken, makes⟩
      cases originality : step.source? with
      | none => exact ⟨step, 0, _, witness, Traces.origin taken originality, makes, rfl⟩
      | some source =>
          cases makes with
          | copy before =>
              rcases lookup_of_take before with ⟨older, held⟩
              rcases ih _ older held with ⟨origin, exchanges, earlier, made, back, makes, same⟩
              exact ⟨origin, exchanges, earlier, made, Traces.copy taken back, makes, same⟩
          | sym before =>
              rcases lookup_of_take before with ⟨older, held⟩
              rcases ih _ older held with ⟨origin, exchanges, earlier, made, back, makes, same⟩
              refine ⟨origin, exchanges + 1, earlier, made, Traces.sym taken back, makes, ?_⟩
              rw [Function.iterate_succ_apply', same]
          | _ => cases originality

/-- What the reading of a written datum as the target answers. -/
def readAs (target : Ty) (datum : Datum) : Except Failure Answer :=
  match target.read? datum.write with
  | some converted => .ok (.datum converted)
  | none => .error .doesNotFit

/-- The register converts the data of the source in one way, by either name of the forward
conversion, and the data of the target in another. -/
structure Converts (session : Session) (register : Nat) (source target : Ty)
    (forward backward : Datum → Except Failure Answer) : Prop where
  coerce : ∀ datum, source.admits datum = true →
    session.answer (.coerce register datum) = forward datum
  cast : ∀ datum, source.admits datum = true →
    session.answer (.cast register datum) = forward datum
  coerceBack : ∀ datum, target.admits datum = true →
    session.answer (.coerceBack register datum) = backward datum

/-- The register of the witness behaves as its origin says, after the given number of exchanges. -/
def BehavesAs (session : Session) (register : Nat) (witness : Witness) : Step → Nat → Prop
  | .refl type, _ =>
      witness.source = type ∧ witness.target = type ∧
        session.Converts register type type (fun datum => .ok (.datum datum))
          (fun datum => .ok (.datum datum))
  | .structural first second, exchanges =>
      if Even exchanges then
        witness.source = first ∧ witness.target = second ∧
          session.Converts register first second (readAs second) (readAs first)
      else
        witness.source = second ∧ witness.target = first ∧
          session.Converts register second first (readAs first) (readAs second)
  | .trans _ _, _ | .sub1 _ _, _ | .sub2 _ _, _ =>
      session.Converts register witness.source witness.target (fun _ => .error .axiomRun)
        (fun _ => .error .axiomRun)
  | _, _ => False

theorem convert_of_admits {type : Ty} {datum : Datum} (admitted : type.admits datum = true)
    (conversion : Datum → Except Failure Datum) :
    convert type conversion datum = (conversion datum).map .datum := by
  rw [convert, if_pos admitted]

theorem converts_of_lookup {register : Nat} {witness : Witness}
    (found : session.lookup register = .ok witness) :
    session.Converts register witness.source witness.target
      (fun datum => (witness.forward.run datum).map .datum)
      (fun datum => (witness.backward.run datum).map .datum) := by
  constructor
  · intro datum admitted
    rw [answer, found]
    exact convert_of_admits admitted witness.coerce
  · intro datum admitted
    rw [answer, found]
    exact convert_of_admits admitted witness.cast
  · intro datum admitted
    rw [answer, found]
    exact convert_of_admits admitted witness.coerceBack

theorem readAs_eq_run (target : Ty) (datum : Datum) :
    ((Conversion.reshape target).run datum).map Answer.datum = readAs target datum := by
  rw [Conversion.run, readAs, Ty.convert?]
  cases target.read? datum.write <;> rfl

theorem sym_iterate (witness : Witness) (exchanges : Nat) :
    Witness.sym^[exchanges] witness = if Even exchanges then witness else witness.sym := by
  have involutive : Function.Involutive Witness.sym := fun _ => rfl
  split
  · rename_i even
    rw [involutive.iterate_even even, id]
  · rename_i odd
    rw [involutive.iterate_odd (Nat.not_even_iff_odd.mp odd)]

/-- What a step has made behaves as the step says, after any number of exchanges. -/
theorem Makes.behavesAs {earlier : Session} {origin : Step} {made witness : Witness}
    {register exchanges : Nat} (makes : earlier.Makes origin made)
    (original : origin.source? = none)
    (found : session.lookup register = .ok witness)
    (same : witness = Witness.sym^[exchanges] made) :
    session.BehavesAs register witness origin exchanges := by
  have converts := converts_of_lookup found
  rw [sym_iterate] at same
  cases makes with
  | refl type =>
      have isRefl : witness = Witness.refl type := by
        rw [same]
        split <;> rfl
      subst isRefl
      exact ⟨rfl, rfl, converts⟩
  | structural equal =>
      by_cases even : Even exchanges
      · rw [if_pos even] at same
        subst same
        simp only [readAs_eq_run] at converts
        simpa only [BehavesAs, if_pos even, true_and] using converts
      · rw [if_neg even] at same
        subst same
        simp only [Witness.sym, readAs_eq_run] at converts
        simpa only [BehavesAs, if_neg even, Witness.sym, true_and] using converts
  | copy _ => cases original
  | sym _ => cases original
  | trans _ _ _ | sub1 _ _ _ | sub2 _ _ _ =>
      have forged : witness.forward = .forged ∧ witness.backward = .forged := by
        rw [same]
        split <;> exact ⟨rfl, rfl⟩
      rw [forged.1, forged.2] at converts
      exact converts

theorem lookup_step_sym (session : Session) (register : Nat) :
    (session.step (.sym register)).lookup session.registers.length =
      (session.lookup register).map Witness.sym := by
  cases found : session.lookup register with
  | ok witness =>
      apply lookup_step.mpr
      right
      refine ⟨rfl, ?_⟩
      rw [answer, found]
      rfl
  | error failure =>
      have isMissing : failure = .noWitness := by
        unfold lookup at found
        split at found
        · cases found
        · exact (Except.error.inj found).symm
      have rejected : session.step (.sym register) = session.record none := by
        rw [Session.step, answer, found]
        rfl
      rw [rejected, isMissing]
      simp [lookup, record, Except.map]

/-- The exchange of a register converts as the register does, the other way round. -/
theorem answer_sym (session : Session) (register : Nat) (datum : Datum) :
    (session.step (.sym register)).answer (.coerce session.registers.length datum) =
        session.answer (.coerceBack register datum) ∧
      (session.step (.sym register)).answer (.coerceBack session.registers.length datum) =
        session.answer (.coerce register datum) := by
  simp only [answer, lookup_step_sym]
  cases session.lookup register <;> exact ⟨rfl, rfl⟩

theorem message_eq_iff (failure : Failure) :
    failure.message? = some Failure.axiomMessage ↔ failure = .axiomRun := by
  constructor
  · intro isAxiom
    cases failure with
    | axiomRun => rfl
    | _ => cases isAxiom
  · rintro rfl
    rfl

/-- After any run, a register that holds a witness has exactly one origin and behaves as it says: as
the identity from reflexivity, as an axiom from transitivity and the substitutions, and as a reading
of written data from a structural step, in the direction that the number of exchanges gives. Only
the conversion of an axiom fails with the message about it. Either name of the forward conversion
does the same, an exchanged register converts the other way round, and no step changes a register;
that of a conversion is empty. -/
theorem run_behaves_as_origin (steps : List Step) :
    let session := empty.run steps
    (∀ register witness, session.lookup register = .ok witness →
      ∃ origin exchanges, Traces steps register origin exchanges ∧
        (∀ other others, Traces steps register other others →
          origin = other ∧ exchanges = others) ∧
        session.BehavesAs register witness origin exchanges) ∧
      (∀ failure : Failure, failure.message? = some Failure.axiomMessage ↔
        failure = .axiomRun) ∧
      (∀ register datum,
        session.answer (.cast register datum) = session.answer (.coerce register datum) ∧
          (session.step (.sym register)).answer (.coerce session.registers.length datum) =
            session.answer (.coerceBack register datum) ∧
          (session.step (.sym register)).answer (.coerceBack session.registers.length datum) =
            session.answer (.coerce register datum)) ∧
      ∀ step, ∃ entry, (session.step step).registers = session.registers ++ [entry] ∧
        (step.IsConversion → entry = none) := by
  refine ⟨?_, message_eq_iff, ?_, registers_step _⟩
  · intro register witness found
    rcases exists_origin found with ⟨origin, exchanges, earlier, made, traces, makes, same⟩
    refine ⟨origin, exchanges, traces, fun _ _ other => traces.unique other, ?_⟩
    exact makes.behavesAs traces.source?_eq_none found same
  · intro register datum
    exact ⟨rfl, answer_sym _ register datum⟩

def numberOrText : Ty := .union (.primitive .f64) (.primitive .string)

def textOrNumber : Ty := .union (.primitive .string) (.primitive .f64)

/-- A structural witness that is exchanged, copied and exchanged again. -/
def exchangedTwice : List Step :=
  [.structural numberOrText textOrNumber, .sym 0, .copy 1, .sym 2]

theorem exchangedTwice_behaves :
    let session := empty.run exchangedTwice
    (∃ witness, session.lookup 3 = .ok witness ∧
      session.BehavesAs 3 witness (.structural numberOrText textOrNumber) 2) ∧
      session.answer (.coerce 3 (.left (.scalar (.f64 1)))) =
        .ok (.datum (.right (.scalar (.f64 1)))) := by
  rcases (run_behaves_as_origin exchangedTwice).1 3 _ rfl with
    ⟨origin, exchanges, _, unique, behaves⟩
  have traces : Traces exchangedTwice 3 (.structural numberOrText textOrNumber) 2 :=
    Traces.sym rfl (Traces.copy rfl (Traces.sym rfl (Traces.origin rfl rfl)))
  rcases unique _ _ traces with ⟨rfl, rfl⟩
  refine ⟨⟨_, rfl, behaves⟩, ?_⟩
  simp only [BehavesAs, if_pos even_two] at behaves
  exact (behaves.2.2.coerce (.left (.scalar (.f64 1))) rfl).trans rfl

end Session

end Conform
