import Conform.Datum.Basic
import Mathlib.Data.List.Forall2

/-!
# Equality of values and of data

Equality as a program sees it compares floating-point numbers as numbers: a NaN differs from itself
and the two zeros are equal although their words differ. On values this is a relation that is
neither identity nor reflexive, so what depends on a value may have to be compared anew for equal
ones.

Two facts about values are enough for that. Equal values are scalars of the same type or records
that agree field by field, and hence what a name finds in them is found in both or in neither and is
equal again. Data are equal only if they took the same sides, and what they are written as is equal.
-/

namespace Conform

namespace Scalar

/-- The scalar is a floating-point number and not a number. -/
def isNaN : Scalar → Bool
  | f32 word => Binary.Format.single.isNaN word.toNat
  | f64 word => Binary.Format.double.isNaN word.toNat
  | _ => false

/-- The scalar is a floating-point zero, of either sign. -/
def isZero : Scalar → Bool
  | f32 word => Binary.Format.single.isZero word.toNat
  | f64 word => Binary.Format.double.isZero word.toNat
  | _ => false

/-- Equal scalars are the same or two zeros of the same type, and none of them is a NaN. -/
theorem equal_iff (left right : Scalar) :
    left.equal right = true ↔
      left.isNaN = false ∧ right.isNaN = false ∧
        (left = right ∨
          left.primitive = right.primitive ∧ left.isZero = true ∧ right.isZero = true) := by
  cases left <;> cases right <;>
    simp [equal, isNaN, isZero, primitive, Binary.Format.equal, UInt32.toNat_inj,
      UInt64.toNat_inj, and_assoc]

theorem primitive_eq_of_equal {left right : Scalar} (equal : left.equal right = true) :
    left.primitive = right.primitive := by
  rcases (equal_iff left right).mp equal with ⟨_, _, rfl | ⟨samePrimitive, _⟩⟩
  · rfl
  · exact samePrimitive

theorem eq_unit_of_primitive {content : Scalar} (isUnit : content.primitive = .unit) :
    content = .unit := by
  cases content <;> simp_all [primitive]

end Scalar

namespace Value

/-- The values are equal as a program compares them. -/
def Equals (first second : Value) : Prop := first.equal second = true

instance (first second : Value) : Decidable (first.Equals second) :=
  inferInstanceAs (Decidable (_ = true))

/-- Two fields of the same name and with equal values. -/
def FieldEquals (first second : String × Value) : Prop :=
  first.1 = second.1 ∧ first.2.Equals second.2

theorem fieldsEqual_iff (fields others : List (String × Value)) :
    fieldsEqual fields others = true ↔ List.Forall₂ FieldEquals fields others := by
  induction fields generalizing others with
  | nil => cases others <;> simp [fieldsEqual]
  | cons field rest ih =>
      cases others with
      | nil => simp [fieldsEqual]
      | cons other others => simp [fieldsEqual, ih, FieldEquals, Equals]

theorem equals_scalar_iff (left right : Scalar) :
    (scalar left).Equals (scalar right) ↔ left.equal right = true := by
  simp [Equals, equal]

theorem equals_record_iff (fields others : List (String × Value)) :
    (record fields).Equals (record others) ↔ List.Forall₂ FieldEquals fields others := by
  rw [Equals, equal, fieldsEqual_iff]

/-- Equal values are equal scalars, or records that agree field by field. -/
theorem Equals.inversion {first second : Value} (equals : first.Equals second) :
    (∃ left right, first = scalar left ∧ second = scalar right ∧ left.equal right = true) ∨
      ∃ fields others, first = record fields ∧ second = record others ∧
        List.Forall₂ FieldEquals fields others := by
  cases first with
  | scalar left =>
      cases second with
      | scalar right => exact Or.inl ⟨left, right, rfl, rfl, (equals_scalar_iff _ _).mp equals⟩
      | record others => simp [Equals, equal] at equals
  | record fields =>
      cases second with
      | scalar right => simp [Equals, equal] at equals
      | record others =>
          exact Or.inr ⟨fields, others, rfl, rfl, (equals_record_iff _ _).mp equals⟩

theorem lookup_equals {fields others : List (String × Value)}
    (fieldwise : List.Forall₂ FieldEquals fields others) (name : String) :
    Option.Rel Equals (fields.lookup name) (others.lookup name) := by
  induction fieldwise with
  | nil => exact Option.Rel.none
  | @cons field other _ _ head tail ih =>
      rcases head with ⟨sameName, equals⟩
      rw [List.lookup_cons, List.lookup_cons, ← sameName]
      cases name == field.1 with
      | true => exact Option.Rel.some equals
      | false => exact ih

/-- A name is found in both of two equal values or in neither, and what is found is equal again. -/
theorem Equals.field? {first second : Value} (equals : first.Equals second) (name : String) :
    Option.Rel Equals (first.field? name) (second.field? name) := by
  rcases equals.inversion with ⟨left, right, rfl, rfl, _⟩ | ⟨fields, others, rfl, rfl, fieldwise⟩
  · exact Option.Rel.none
  · exact lookup_equals fieldwise name

theorem Equals.eq_unit_iff {first second : Value} (equals : first.Equals second) :
    first = unit ↔ second = unit := by
  rcases equals.inversion with ⟨left, right, rfl, rfl, equal⟩ | ⟨fields, others, rfl, rfl, _⟩
  · have samePrimitive := Scalar.primitive_eq_of_equal equal
    simp only [scalar.injEq]
    constructor
    · rintro rfl
      exact Scalar.eq_unit_of_primitive samePrimitive.symm
    · rintro rfl
      exact Scalar.eq_unit_of_primitive samePrimitive
  · simp

mutual

/-- The scalars in a value, at every depth. -/
def scalars : Value → List Scalar
  | scalar content => [content]
  | record fields => fieldScalars fields

def fieldScalars : List (String × Value) → List Scalar
  | [] => []
  | (_, value) :: rest => value.scalars ++ fieldScalars rest

end

mutual

/-- A value equals itself unless there is a NaN in it. -/
theorem equal_self_iff : (value : Value) →
    (value.equal value = true ↔ ∀ content ∈ value.scalars, content.isNaN = false)
  | .scalar content => by simp [equal, scalars, Scalar.equal_iff]
  | .record fields => by simpa [equal, scalars] using fieldsEqual_self_iff fields

theorem fieldsEqual_self_iff : (fields : List (String × Value)) →
    (fieldsEqual fields fields = true ↔ ∀ content ∈ fieldScalars fields, content.isNaN = false)
  | [] => by simp [fieldsEqual, fieldScalars]
  | (name, value) :: rest => by
      simp [fieldsEqual, fieldScalars, equal_self_iff value, fieldsEqual_self_iff rest, or_imp,
        forall_and]

end

end Value

namespace Datum

/-- The data are equal as a program compares them. -/
def Equals (first second : Datum) : Prop := first.equal second = true

instance (first second : Datum) : Decidable (first.Equals second) :=
  inferInstanceAs (Decidable (_ = true))

mutual

/-- Equal data are written as equal values. -/
theorem write_equals (first second : Datum) (equals : first.Equals second) :
    first.write.Equals second.write := by
  cases first with
  | scalar content =>
      cases second with
      | scalar other => exact (Value.equals_scalar_iff content other).mpr equals
      | _ => cases equals
  | left inner =>
      cases second with
      | left other => exact write_equals inner other equals
      | _ => cases equals
  | right inner =>
      cases second with
      | right other => exact write_equals inner other equals
      | _ => cases equals
  | none =>
      cases second with
      | none => decide
      | _ => cases equals
  | some inner =>
      cases second with
      | some other => exact write_equals inner other equals
      | _ => cases equals
  | record fields =>
      cases second with
      | record others =>
          exact (Value.equals_record_iff _ _).mpr (writeFields_equals fields others equals)
      | _ => cases equals

theorem writeFields_equals (fields others : List (Label × Datum))
    (equals : fieldsEqual fields others = true) :
    List.Forall₂ Value.FieldEquals (writeFields fields) (writeFields others) := by
  cases fields with
  | nil =>
      cases others with
      | nil => exact List.Forall₂.nil
      | cons => cases equals
  | cons field rest =>
      cases others with
      | nil => cases equals
      | cons other others =>
          simp only [fieldsEqual, Bool.and_eq_true, decide_eq_true_eq] at equals
          rcases equals with ⟨⟨sameLabel, head⟩, tail⟩
          have sameName := congrArg Label.name sameLabel
          apply List.Forall₂.cons
          · exact ⟨sameName, write_equals field.2 other.2 head⟩
          · exact writeFields_equals rest others tail

end

end Datum

end Conform
