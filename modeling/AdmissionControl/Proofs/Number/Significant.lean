/-
  AdmissionControl.Proofs.Number.Significant

  The significant digits of a decimal.

  A decimal other than zero is written by its digits without trailing zeros and the power of ten of
  the first one.  `Scientific` says what this means: the digits, moved to their place, are the
  magnitude, and the magnitude lies between that power of ten and the next.
-/

import AdmissionControl.Number.Shortest
import AdmissionControl.Proofs.Number.Printed
import Mathlib.Algebra.Order.Field.Power
import Mathlib.Data.List.TakeWhile
import Mathlib.Data.Rat.Cast.Order
import Mathlib.Tactic.NormNum
import Mathlib.Tactic.Positivity
import Mathlib.Tactic.Ring

namespace AdmissionControl

/-! ## The value of a decimal -/

namespace Decimal

theorem toRat_eq (d : Decimal) :
    d.toRat = (if d.negative then -1 else 1) * (d.coefficient * 10 ^ d.exponent) := by
  have hsigned : ((if d.negative then -(d.coefficient : Int) else d.coefficient : Int) : Rat) =
      (if d.negative then -1 else 1) * d.coefficient := by
    cases d.negative <;> simp
  rw [toRat, Rat.mkRat_eq_div]
  simp only [Nat.pow_eq, Int.cast_mul, hsigned]
  push_cast
  -- One of the two powers is the zeroth.
  rcases Int.eq_nat_or_neg d.exponent with ⟨k, hk | hk⟩
  · simp only [hk, Int.toNat_natCast, Int.toNat_neg_natCast, pow_zero, div_one, zpow_natCast]
    ring
  · simp only [hk, neg_neg, Int.toNat_natCast, Int.toNat_neg_natCast, pow_zero, zpow_neg,
      zpow_natCast]
    ring

theorem abs_toRat (d : Decimal) : |d.toRat| = d.coefficient * 10 ^ d.exponent := by
  have hnonneg : (0 : Rat) ≤ d.coefficient * 10 ^ d.exponent := by positivity
  rw [toRat_eq]
  cases d.negative
  · rw [if_neg (by decide), one_mul, abs_of_nonneg hnonneg]
  · rw [if_pos rfl, neg_one_mul, abs_neg, abs_of_nonneg hnonneg]

end Decimal

/-! ## Trailing zeros -/

/-- The digits that are kept, with zeros behind them, are those of the number. -/
theorem exists_trailing_zeros (digits : List Char) :
    ∃ zeros,
      digits = (digits.reverse.dropWhile (· == '0')).reverse ++ List.replicate zeros '0' := by
  refine ⟨(digits.reverse.takeWhile (· == '0')).length, ?_⟩
  have hzeros : digits.reverse.takeWhile (· == '0') =
      List.replicate (digits.reverse.takeWhile (· == '0')).length '0' := by
    rw [List.eq_replicate_iff]
    exact ⟨rfl, fun c hc => by simpa using List.mem_takeWhile_imp hc⟩
  have hsplit := congrArg List.reverse
    (List.takeWhile_append_dropWhile (p := (· == '0')) (l := digits.reverse))
  rw [List.reverse_append, List.reverse_reverse, hzeros, List.reverse_replicate] at hsplit
  exact hsplit.symm

/-- Digits with the power of ten of the first one write a magnitude. -/
structure Scientific (digits : List Char) (exponent : Int) (magnitude : Rat) : Prop where
  isDigit : ∀ c ∈ digits, c.isDigit = true
  ne_nil : digits ≠ []
  value : (Nat.ofDigitChars 10 digits 0 : Rat) * 10 ^ (exponent + 1 - digits.length) = magnitude
  least : (10 : Rat) ^ exponent ≤ magnitude
  below : magnitude < (10 : Rat) ^ (exponent + 1)

/-- A number lies between the powers of ten that the count of its digits gives. -/
theorem length_toDigits_bounds {n : Nat} (hpos : 0 < n) :
    10 ^ ((Nat.toDigits 10 n).length - 1) ≤ n ∧ n < 10 ^ (Nat.toDigits 10 n).length := by
  have hlength : 0 < (Nat.toDigits 10 n).length := Nat.length_toDigits_pos
  constructor
  · by_contra hless
    rw [not_le] at hless
    by_cases hone : (Nat.toDigits 10 n).length - 1 = 0
    · rw [hone, Nat.pow_zero] at hless
      omega
    · have hshort := (Nat.length_toDigits_le_iff (by decide) (Nat.pos_of_ne_zero hone)).mpr hless
      omega
  · exact (Nat.length_toDigits_le_iff (by decide) hlength).mp le_rfl

theorem scientific_significantDigits {d : Decimal} (hne : d.coefficient ≠ 0) :
    Scientific d.significantDigits.1 d.significantDigits.2 |d.toRat| := by
  have hpos : 0 < d.coefficient := Nat.pos_of_ne_zero hne
  obtain ⟨zeros, hdigits⟩ := exists_trailing_zeros (Nat.toDigits 10 d.coefficient)
  obtain ⟨hlow, hhigh⟩ := length_toDigits_bounds hpos
  have hlength : 0 < (Nat.toDigits 10 d.coefficient).length := Nat.length_toDigits_pos
  have hvalue := Nat.ofDigitChars_ten_toDigits (n := d.coefficient)
  have hall : ∀ c ∈ Nat.toDigits 10 d.coefficient, c.isDigit = true :=
    fun _ => isDigit_of_mem_toDigits
  rw [Decimal.significantDigits, d.abs_toRat]
  simp only
  -- The digits are what is kept and zeros behind it, so the zeros can be read off the length.
  generalize ((Nat.toDigits 10 d.coefficient).reverse.dropWhile (· == '0')).reverse = kept
    at hdigits ⊢
  generalize Nat.toDigits 10 d.coefficient = digits at *
  subst hdigits
  rw [Nat.ofDigitChars_append, Nat.ofDigitChars_replicate_zero] at hvalue
  have hkept : kept ≠ [] := by
    rintro rfl
    rw [Nat.ofDigitChars_nil, Nat.mul_zero] at hvalue
    exact hne hvalue.symm
  have hten : (10 : Rat) ≠ 0 := by norm_num
  have hscale : (0 : Rat) < 10 ^ d.exponent := by positivity
  rw [if_neg (by simpa using hkept)]
  refine ⟨fun c hc => hall c (List.mem_append_left _ hc), hkept, ?_, ?_, ?_⟩
  · -- Three times the power of ten of the last digit, written as the statement needs it.
    have hplace : ((kept ++ List.replicate zeros '0').length : Int) + d.exponent - 1 + 1 -
        kept.length = zeros + d.exponent := by
      rw [List.length_append, List.length_replicate]
      push_cast
      ring
    rw [hplace, zpow_add₀ hten, zpow_natCast, ← hvalue]
    push_cast
    ring
  · have hplace : ((kept ++ List.replicate zeros '0').length : Int) + d.exponent - 1 =
        ((kept ++ List.replicate zeros '0').length - 1 : Nat) + d.exponent := by omega
    rw [hplace, zpow_add₀ hten, zpow_natCast]
    exact mul_le_mul_of_nonneg_right (by exact_mod_cast hlow) hscale.le
  · have hplace : ((kept ++ List.replicate zeros '0').length : Int) + d.exponent - 1 + 1 =
        (kept ++ List.replicate zeros '0').length + d.exponent := by ring
    rw [hplace, zpow_add₀ hten, zpow_natCast]
    exact mul_lt_mul_of_pos_right (by exact_mod_cast hhigh) hscale

end AdmissionControl
