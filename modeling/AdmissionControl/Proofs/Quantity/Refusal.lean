/-
  AdmissionControl.Proofs.Quantity.Refusal

  Which values a refusal can show.

  The message of a refusal shows the value, and an integer of more than 4300 digits has no text
  (`Json.isWritable_int_iff_abs`).  So what holds such an integer is not refused with a message: it
  fails without one, and nothing else does (`parse_eq_unshown_iff`).
-/

import AdmissionControl.Proofs.Json.Leaves
import AdmissionControl.Quantity.Basic
import Mathlib.Algebra.Order.Group.Unbundled.Abs
import Mathlib.Data.Rat.Cast.Order
import Mathlib.Tactic.NormNum

namespace AdmissionControl

theorem Json.isWritable_int_iff_abs {n : Int} :
    (Json.int n).isWritable = true ↔ |n| < 10 ^ 4300 := by
  have hcast : ∀ count : Nat, n.natAbs < 10 ^ count ↔ (n.natAbs : Int) < 10 ^ count := by
    intro count
    exact_mod_cast Iff.rfl
  rw [isWritable_int, hcast, Int.abs_eq_natAbs, greatestDigitCount]

/-- The least integer that has no text. -/
theorem Json.isWritable_tenToThe4300 : (Json.int (10 ^ 4300)).isWritable = false := by
  rw [Bool.eq_false_iff, ne_eq, isWritable_int_iff_abs]
  exact not_lt.mpr (le_abs_self _)

namespace Quantity

variable {cause : Json → QuantityError} {value : Json} {q : Rat}

theorem refuse_of_isWritable (h : value.isWritable = true) :
    refuse cause value = .error (.refused (cause value)) := if_pos h

theorem refuse_of_not_isWritable (h : value.isWritable = false) :
    refuse cause value = .error .unshown := by
  rw [refuse, h]
  rfl

theorem refuse_ne_ok : refuse cause value ≠ .ok q := by
  unfold refuse
  split <;> nofun

/-- A value that is let through is the value itself, within the bound. -/
theorem bounded_eq_ok {shown : Json} {number : Rat} (h : bounded number shown = .ok q) :
    q = number ∧ |q| ≤ greatest := by
  unfold bounded at h
  split at h
  · exact absurd h refuse_ne_ok
  next hwithin =>
    simp only [Bool.or_eq_true, decide_eq_true_eq, not_or, not_lt] at hwithin
    cases h
    exact ⟨rfl, abs_le.mpr ⟨hwithin.2, hwithin.1⟩⟩

theorem bounded_eq (number : Rat) (shown : Json) : bounded number shown =
    if |number| ≤ 2 ^ 63 - 1 then .ok number else refuse .tooLarge shown := by
  have hbound : (2 ^ 63 - 1 : Rat) = greatest := by
    rw [greatest]
    norm_num
  have hwithin : |number| ≤ greatest ↔ ¬ (greatest < number ∨ number < -greatest) := by
    rw [abs_le, not_or, not_lt, not_lt]
    exact and_comm
  rw [bounded, hbound]
  simp only [Bool.or_eq_true, decide_eq_true_eq, hwithin, ite_not]

/-- An integer without a text is far beyond the bound. -/
theorem lt_abs_of_not_isWritable {n : Int} (h : (Json.int n).isWritable = false) :
    2 ^ 63 - 1 < |n| := by
  have hlong : (10 : Int) ^ 4300 ≤ |n| := by
    rw [← not_lt, ← Json.isWritable_int_iff_abs, h]
    decide
  have hpower : (10 : Int) ^ 19 ≤ 10 ^ 4300 := pow_le_pow_right₀ (by decide) (by decide)
  have hsmall : (2 : Int) ^ 63 - 1 < 10 ^ 19 := by norm_num
  exact hsmall.trans_le (hpower.trans hlong)

theorem parse_int_eq (n : Int) : parse (.int n) =
    if |n| ≤ 2 ^ 63 - 1 then .ok (n : Rat) else refuse .tooLarge (.int n) := by
  have hcast : |(n : Rat)| ≤ 2 ^ 63 - 1 ↔ |n| ≤ 2 ^ 63 - 1 := by
    rw [← Int.cast_abs]
    exact_mod_cast Iff.rfl
  rw [parse, bounded_eq]
  simp only [hcast]

/-- What is no quantity is refused for one of three causes. -/
theorem exists_refuse_of_parse_eq_error {failure : QuantityFailure}
    (h : parse value = .error failure) :
    ∃ cause ∈ ([.invalid, .exponentOutOfRange, .tooLarge] : List (Json → QuantityError)),
      refuse cause value = .error failure := by
  -- A number beyond the bound is refused as too large, whatever it was written as.
  have hbounded : ∀ number, bounded number value = .error failure →
      refuse .tooLarge value = .error failure := by
    intro number hnumber
    unfold bounded at hnumber
    split at hnumber
    · exact hnumber
    · cases hnumber
  cases value with
  | str s =>
    simp only [parse, parseText] at h
    split at h
    · exact ⟨_, by simp, h⟩
    · split at h
      · exact ⟨_, by simp, hbounded _ h⟩
      · exact ⟨.exponentOutOfRange, by simp, h⟩
  | int n => exact ⟨_, by simp, hbounded _ h⟩
  | float x =>
    cases x with
    | finite negative significand exponent canonical => exact ⟨_, by simp, hbounded _ h⟩
    | _ => exact ⟨.invalid, by simp, h⟩
  | _ => exact ⟨.invalid, by simp, h⟩

/-- What is refused and can be shown is refused with a message. -/
theorem parse_ne_unshown (h : value.isWritable = true) : parse value ≠ .error .unshown := by
  intro hunshown
  obtain ⟨cause, -, hrefuse⟩ := exists_refuse_of_parse_eq_error hunshown
  rw [refuse_of_isWritable h] at hrefuse
  cases hrefuse

/-- A value fails without a message exactly if it holds an integer without a text. -/
theorem parse_eq_unshown_iff : parse value = .error .unshown ↔ value.isWritable = false := by
  constructor
  · intro h
    rw [Bool.eq_false_iff]
    exact fun hwritable => parse_ne_unshown hwritable h
  · intro h
    -- A value without a text is a long integer, or holds one; neither is a quantity.
    cases value with
    | int n =>
      rw [parse_int_eq, if_neg (not_le.mpr (lt_abs_of_not_isWritable h)),
        refuse_of_not_isWritable h]
    | arr items => exact refuse_of_not_isWritable h
    | obj members => exact refuse_of_not_isWritable h
    | _ => cases h

end Quantity

end AdmissionControl
