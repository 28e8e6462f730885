import Conform.Witness.Session

/-!
# What a step does

A step leaves one more register behind, and earlier registers as they are. This file says when the
new register holds a witness and which one it is. Invariants and histories of sessions follow from
this list of cases and do not look at the answers themselves.
-/

namespace Conform

namespace Failure

variable {First Second : Type}

theorem exists_of_bind {first : Except Failure First} {next : First → Except Failure Second}
    {result : Second} (succeeds : first >>= next = .ok result) :
    ∃ middle, first = .ok middle ∧ next middle = .ok result := by
  cases first with
  | error failure => cases succeeds
  | ok middle => exact ⟨middle, rfl, succeeds⟩

theorem exists_of_map {first : Except Failure First} {next : First → Second} {result : Second}
    (succeeds : first.map next = .ok result) :
    ∃ middle, first = .ok middle ∧ next middle = result := by
  cases first with
  | error failure => cases succeeds
  | ok middle => exact ⟨middle, rfl, Except.ok.inj succeeds⟩

end Failure

namespace Session

variable {session : Session}

theorem lookup_eq_ok {register : Nat} {witness : Witness} :
    session.lookup register = .ok witness ↔ session.registers[register]? = some (some witness) := by
  unfold lookup
  split <;> simp_all

theorem lookupBoth_eq_ok {first second : Nat} {left right : Witness} :
    session.lookupBoth first second = .ok (left, right) ↔
      session.lookup first = .ok left ∧ session.lookup second = .ok right := by
  unfold lookupBoth
  cases session.lookup first <;> cases session.lookup second <;>
    simp [bind, Except.bind, pure, Except.pure]

/-- The witnesses that the steps of a session can make. -/
inductive Makes (session : Session) : Step → Witness → Prop where
  | refl (type : Ty) : Makes session (.refl type) (Witness.refl type)
  | structural {source target : Ty} (equal : (source.relate target).equal = true) :
      Makes session (.structural source target)
        ⟨source, target, .reshape target, .reshape source⟩
  | copy {register : Nat} {witness : Witness} (found : session.lookup register = .ok witness) :
      Makes session (.copy register) witness
  | sym {register : Nat} {witness : Witness} (found : session.lookup register = .ok witness) :
      Makes session (.sym register) witness.sym
  | trans {first second : Nat} {left right : Witness} (leftFound : session.lookup first = .ok left)
      (rightFound : session.lookup second = .ok right) (meet : left.target = right.source) :
      Makes session (.trans first second) ⟨left.source, right.target, .forged, .forged⟩
  | sub1 {first second : Nat} {left right : Witness} (leftFound : session.lookup first = .ok left)
      (rightFound : session.lookup second = .ok right) (meet : right.source = left.source) :
      Makes session (.sub1 first second) ⟨right.target, left.target, .forged, .forged⟩
  | sub2 {first second : Nat} {left right : Witness} (leftFound : session.lookup first = .ok left)
      (rightFound : session.lookup second = .ok right) (meet : left.target = right.source) :
      Makes session (.sub2 first second) ⟨left.source, right.target, .forged, .forged⟩

theorem lookup_record {entry : Option Witness} {register : Nat} {witness : Witness} :
    (session.record entry).lookup register = .ok witness ↔
      session.lookup register = .ok witness ∨
        register = session.registers.length ∧ entry = some witness := by
  simp only [lookup_eq_ok, record]
  rcases Nat.lt_trichotomy register session.registers.length with older | newest | later
  · rw [List.getElem?_append_left older]
    simp [Nat.ne_of_lt older]
  · subst newest
    simp
  · rw [List.getElem?_append_right (Nat.le_of_lt later), List.getElem?_eq_none (by simp; omega),
      List.getElem?_eq_none (Nat.le_of_lt later)]
    simp [Nat.ne_of_gt later]

theorem witness?_eq_some {answer : Answer} {made : Witness} :
    answer.witness? = some made ↔ answer = .witness made := by
  cases answer <;> simp [Answer.witness?]

/-- After a step, a register holds the witness it held before, or it is the new register and the
step answers with the witness. -/
theorem lookup_step {step : Step} {register : Nat} {witness : Witness} :
    (session.step step).lookup register = .ok witness ↔
      session.lookup register = .ok witness ∨
        register = session.registers.length ∧ session.answer step = .ok (.witness witness) := by
  unfold Session.step
  cases session.answer step with
  | ok answer => simp [lookup_record, witness?_eq_some]
  | error failure => simp [lookup_record]

theorem exists_of_convert {type : Ty} {conversion : Datum → Except Failure Datum} {datum : Datum}
    {answer : Answer} (answered : convert type conversion datum = .ok answer) :
    type.admits datum = true ∧
      ∃ converted, conversion datum = .ok converted ∧ answer = .datum converted := by
  unfold convert at answered
  split at answered
  · rename_i admitted
    rcases Failure.exists_of_map answered with ⟨converted, ran, rfl⟩
    exact ⟨admitted, converted, ran, rfl⟩
  · cases answered

/-- A combination of two registers is made from the witnesses in them. -/
theorem exists_of_combine {first second : Nat} {made : Witness}
    {combine : Witness → Witness → Except Failure Witness}
    (answered : (do
      let (left, right) ← session.lookupBoth first second
      return Answer.witness (← combine left right)) = .ok (.witness made)) :
    ∃ left right, session.lookup first = .ok left ∧ session.lookup second = .ok right ∧
      combine left right = .ok made := by
  rcases Failure.exists_of_bind answered with ⟨⟨left, right⟩, found, rest⟩
  rcases Failure.exists_of_bind rest with ⟨witness, combined, same⟩
  cases same
  rcases lookupBoth_eq_ok.mp found with ⟨leftFound, rightFound⟩
  exact ⟨left, right, leftFound, rightFound, combined⟩

theorem makes_of_answer {step : Step} {made : Witness}
    (answered : session.answer step = .ok (.witness made)) : session.Makes step made := by
  cases step with
  | refl type =>
      cases answered
      exact Makes.refl type
  | structural source target =>
      rcases Failure.exists_of_map answered with ⟨witness, built, same⟩
      cases same
      rcases Witness.structural_eq_ok.mp built with ⟨equal, rfl⟩
      exact Makes.structural equal
  | copy register =>
      rcases Failure.exists_of_map answered with ⟨witness, found, same⟩
      cases same
      exact Makes.copy found
  | sym register =>
      rcases Failure.exists_of_map answered with ⟨witness, found, same⟩
      cases same
      exact Makes.sym found
  | trans first second =>
      rcases exists_of_combine answered with ⟨left, right, leftFound, rightFound, combined⟩
      rcases Witness.trans_eq_ok.mp combined with ⟨meet, rfl⟩
      exact Makes.trans leftFound rightFound meet
  | sub1 first second =>
      rcases exists_of_combine answered with ⟨left, right, leftFound, rightFound, combined⟩
      rcases Witness.trans_eq_ok.mp combined with ⟨meet, rfl⟩
      exact Makes.sub1 leftFound rightFound meet
  | sub2 first second =>
      rcases exists_of_combine answered with ⟨left, right, leftFound, rightFound, combined⟩
      rcases Witness.trans_eq_ok.mp combined with ⟨meet, rfl⟩
      exact Makes.sub2 leftFound rightFound meet
  | coerce register datum =>
      rcases Failure.exists_of_bind answered with ⟨witness, _, converts⟩
      rcases exists_of_convert converts with ⟨_, converted, _, differ⟩
      cases differ
  | coerceBack register datum =>
      rcases Failure.exists_of_bind answered with ⟨witness, _, converts⟩
      rcases exists_of_convert converts with ⟨_, converted, _, differ⟩
      cases differ
  | cast register datum =>
      rcases Failure.exists_of_bind answered with ⟨witness, _, converts⟩
      rcases exists_of_convert converts with ⟨_, converted, _, differ⟩
      cases differ
  | debug register =>
      rcases Failure.exists_of_map answered with ⟨witness, _, differ⟩
      cases differ

end Session

end Conform
