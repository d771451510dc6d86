/-
  AdmissionControl.Proofs.Number.Rounding

  Rounding to a binary64 number stays finite below the format's bound.

  `log2Ratio` finds the power of two that a quotient lies behind (`log2Ratio_bounds`), so the
  scaled quotient lies between 2^52 and 2^53, or is a subnormal one.  Hence `ofRatio` never gives
  an infinity for a quotient below 2^1023 (`isFinite_ofRatio`), and `ofRat` none for a rational of
  such a magnitude (`isFinite_ofRat`).
-/

import AdmissionControl.Number.Binary64
import Mathlib.Algebra.Order.Field.Power
import Mathlib.Data.Nat.Log
import Mathlib.Data.Rat.Cast.Order
import Mathlib.Tactic.FieldSimp
import Mathlib.Tactic.Linarith
import Mathlib.Tactic.NormNum
import Mathlib.Tactic.Positivity
import Mathlib.Tactic.Ring

namespace AdmissionControl.Binary64

/-! ## Scaling -/

theorem scale_right_pos {num den : Nat} (hden : 0 < den) (shift : Int) :
    0 < (scale num den shift).2 :=
  Nat.mul_pos hden (Nat.pow_pos (by decide))

/-- A scaled quotient is the quotient times the power of two. -/
theorem scale_div (num : Nat) {den : Nat} (hden : 0 < den) (shift : Int) :
    ((scale num den shift).1 : Rat) / (scale num den shift).2 = num / den * 2 ^ shift := by
  have hden' : (den : Rat) ≠ 0 := by exact_mod_cast hden.ne'
  rcases Int.eq_nat_or_neg shift with ⟨k, rfl | rfl⟩
  · simp only [scale, Int.toNat_natCast, Int.toNat_neg_natCast, Nat.pow_eq, pow_zero, mul_one,
      Nat.cast_mul, Nat.cast_pow, Nat.cast_ofNat, zpow_natCast]
    ring
  · simp only [scale, neg_neg, Int.toNat_natCast, Int.toNat_neg_natCast, Nat.pow_eq, pow_zero,
      mul_one, Nat.cast_mul, Nat.cast_pow, Nat.cast_ofNat, zpow_neg, zpow_natCast]
    field_simp

/-! ## The power of two behind a quotient -/

theorem log2_bounds {n : Nat} (hn : 0 < n) :
    (2 : Rat) ^ (n.log2 : Int) ≤ n ∧ (n : Rat) < 2 ^ ((n.log2 : Int) + 1) := by
  constructor
  · have h := Nat.log2_self_le hn.ne'
    rw [zpow_natCast]
    exact_mod_cast h
  · have h := Nat.lt_log2_self (n := n)
    have hcast : (2 : Rat) ^ ((n.log2 : Int) + 1) = ((2 ^ (n.log2 + 1) : Nat) : Rat) := by
      push_cast
      rw [← zpow_natCast]
      norm_cast
    rw [hcast]
    exact_mod_cast h

/-- The quotient lies between the power of two that is found and the next one. -/
theorem log2Ratio_bounds {num den : Nat} (hnum : 0 < num) (hden : 0 < den) :
    (2 : Rat) ^ log2Ratio num den ≤ num / den ∧
      (num : Rat) / den < 2 ^ (log2Ratio num den + 1) := by
  obtain ⟨hnum₁, hnum₂⟩ := log2_bounds hnum
  obtain ⟨hden₁, hden₂⟩ := log2_bounds hden
  have hdenpos : (0 : Rat) < den := by exact_mod_cast hden
  -- The estimate is off by one at most, and always to the same side.
  have hupper : (num : Rat) / den < 2 ^ ((num.log2 : Int) - den.log2 + 1) := by
    rw [div_lt_iff₀ hdenpos]
    calc (num : Rat) < 2 ^ ((num.log2 : Int) + 1) := hnum₂
      _ = 2 ^ ((num.log2 : Int) - den.log2 + 1) * 2 ^ (den.log2 : Int) := by
          rw [← zpow_add₀ two_ne_zero]
          congr 1
          ring
      _ ≤ 2 ^ ((num.log2 : Int) - den.log2 + 1) * den :=
          mul_le_mul_of_nonneg_left hden₁ (by positivity)
  have hlower : (2 : Rat) ^ ((num.log2 : Int) - den.log2 - 1) ≤ num / den := by
    rw [le_div_iff₀ hdenpos]
    calc (2 : Rat) ^ ((num.log2 : Int) - den.log2 - 1) * den
        ≤ 2 ^ ((num.log2 : Int) - den.log2 - 1) * 2 ^ ((den.log2 : Int) + 1) :=
          mul_le_mul_of_nonneg_left hden₂.le (by positivity)
      _ = 2 ^ (num.log2 : Int) := by
          rw [← zpow_add₀ two_ne_zero]
          congr 1
          ring
      _ ≤ num := hnum₁
  have hscale := scale_div num hden (-((num.log2 : Int) - den.log2))
  have hpos : (0 : Rat) < (scale num den (-((num.log2 : Int) - den.log2))).2 := by
    exact_mod_cast scale_right_pos hden _
  have htwo : (0 : Rat) < 2 ^ ((num.log2 : Int) - den.log2) := by positivity
  -- The comparison of the scaled quotient with one tells on which side the estimate is off.
  have hcompare : (scale num den (-((num.log2 : Int) - den.log2))).1 <
      (scale num den (-((num.log2 : Int) - den.log2))).2 ↔
        (num : Rat) / den < 2 ^ ((num.log2 : Int) - den.log2) := by
    rw [← Nat.cast_lt (α := Rat), ← div_lt_one hpos, hscale, zpow_neg, ← div_eq_mul_inv,
      div_lt_one htwo]
  rw [log2Ratio]
  simp only []
  split
  next hless =>
    exact ⟨hlower, by rw [sub_add_cancel]; exact hcompare.mp hless⟩
  next hnotless =>
    exact ⟨not_lt.mp fun h => hnotless (hcompare.mpr h), hupper⟩

/-! ## Rounding -/

theorem le_divRound {num den k : Nat} (hden : 0 < den) (h : k * den ≤ num) :
    k ≤ divRound num den := by
  have hk : k ≤ num / den := (Nat.le_div_iff_mul_le hden).mpr h
  unfold divRound
  simp only []
  split
  · exact hk
  · split <;> omega

theorem divRound_le {num den k : Nat} (hden : 0 < den) (h : num < k * den) :
    divRound num den ≤ k := by
  have hk : num / den < k := (Nat.div_lt_iff_lt_mul hden).mpr h
  unfold divRound
  simp only []
  split
  · omega
  · split <;> omega

theorem isFinite_ofFields {negative : Bool} {significand : Nat} {exponent : Int}
    (h : IsCanonical significand exponent) :
    (ofFields negative significand exponent).isFinite = true := by
  rw [ofFields, dif_pos h]
  rfl

/-- A quotient below 2^1023 is rounded to a finite number. -/
theorem isFinite_ofRatio (negative : Bool) {num den : Nat} (hden : 0 < den)
    (h : (num : Rat) / den < 2 ^ (1023 : Int)) :
    (ofRatio negative num den).isFinite = true := by
  unfold ofRatio
  split
  · rfl
  next hnum =>
  obtain ⟨hlow, hhigh⟩ := log2Ratio_bounds (Nat.pos_of_ne_zero hnum) hden
  have hlog : log2Ratio num den < 1023 :=
    (zpow_lt_zpow_iff_right₀ one_lt_two).mp (hlow.trans_lt h)
  generalize log2Ratio num den = e at hlow hhigh hlog ⊢
  generalize hexponent : max (e - 52) (-1074) = exponent
  simp only []
  -- From here on the scaled quotient is n / d, and all that matters of it is its value.
  have hpos : 0 < (scale num den (-exponent)).2 := scale_right_pos hden _
  have hscale := scale_div num hden (-exponent)
  generalize (scale num den (-exponent)).1 = n at hscale ⊢
  generalize (scale num den (-exponent)).2 = d at hpos hscale ⊢
  have hdpos : (0 : Rat) < d := by exact_mod_cast hpos
  have hupper : n < Nat.pow 2 53 * d := by
    have hquotient : (n : Rat) / d < 2 ^ (53 : Int) := by
      rw [hscale]
      calc (num : Rat) / den * 2 ^ (-exponent)
          < 2 ^ (e + 1) * 2 ^ (-exponent) := mul_lt_mul_of_pos_right hhigh (by positivity)
        _ = 2 ^ (e + 1 - exponent) := by rw [← zpow_add₀ two_ne_zero, sub_eq_add_neg]
        _ ≤ 2 ^ (53 : Int) := zpow_le_zpow_right₀ one_le_two (by omega)
    rw [div_lt_iff₀ hdpos] at hquotient
    exact_mod_cast hquotient
  have hround := divRound_le hpos hupper
  split
  · -- The significand was rounded up to 2^53 and is halved.
    exact isFinite_ofFields ⟨by decide, by omega, by omega, .inl (Nat.le_refl _)⟩
  next hcarry =>
  apply isFinite_ofFields
  refine ⟨Nat.lt_of_le_of_ne hround hcarry, by omega, by omega, ?_⟩
  by_cases hsub : exponent = -1074
  · exact .inr hsub
  · -- Above the least exponent the quotient fills all 53 bits.
    left
    have hnormal : exponent = e - 52 := by omega
    apply le_divRound hpos
    have hquotient : (2 : Rat) ^ (52 : Int) ≤ n / d := by
      rw [hscale]
      calc (2 : Rat) ^ (52 : Int) = 2 ^ e * 2 ^ (-exponent) := by
            rw [← zpow_add₀ two_ne_zero, hnormal]
            congr 1
            ring
        _ ≤ num / den * 2 ^ (-exponent) := mul_le_mul_of_nonneg_right hlow (by positivity)
    rw [le_div_iff₀ hdpos] at hquotient
    exact_mod_cast hquotient

/-- A rational of a magnitude below 2^1023 is rounded to a finite number. -/
theorem isFinite_ofRat {q : Rat} (h : |q| < 2 ^ (1023 : Int)) : (ofRat q).isFinite = true := by
  apply isFinite_ofRatio _ q.den_pos
  have habs : ((q.num.natAbs : Nat) : Rat) / q.den = |q| := by
    conv_rhs => rw [← Rat.num_div_den q, abs_div]
    rw [Nat.cast_natAbs, Int.cast_abs, Nat.abs_cast]
  rw [habs]
  exact h

end AdmissionControl.Binary64
