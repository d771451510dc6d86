/-
  AdmissionControl.Proofs.Quantity.Printed

  Printed integers as quantities.

  The ASCII digits of a number denote it among the digits of all scripts, so a printed integer is
  the text of a literal whose parts are known (`Literal.printed`).  What such a text denotes, with
  any suffix behind it, is read off the parts and not by running the reader.
-/

import AdmissionControl.Proofs.Number.Printed
import AdmissionControl.Proofs.Quantity.Language

namespace AdmissionControl

/-! ## Printed digits -/

namespace Text

theorem digitValue?_of_isDigit {c : Char} (h : c.isDigit = true) :
    digitValue? c = some (c.toNat - '0'.toNat) := by
  have hrange : 0x30 ≤ c.toNat ∧ c.toNat < 0x30 + 10 := by
    rw [Char.isDigit, Bool.and_eq_true, decide_eq_true_eq, decide_eq_true_eq] at h
    exact ⟨h.1, Nat.lt_succ_of_le h.2⟩
  rw [digitValue?, decimalZeros, List.find?_cons_of_pos (by simpa using hrange)]
  rfl

theorem digitsValue_of_isDigit {digits : List Char} (h : ∀ c ∈ digits, c.isDigit = true) :
    digitsValue digits = Nat.ofDigitChars 10 digits 0 := by
  -- Both folds add one digit at a time, from any number on.
  suffices hfold : ∀ start, digits.foldl
      (fun total c => 10 * total + (digitValue? c).getD 0) start =
        Nat.ofDigitChars 10 digits start from hfold 0
  induction digits with
  | nil => simp
  | cons c rest ih =>
    intro start
    rw [List.foldl_cons, Nat.ofDigitChars_cons, digitValue?_of_isDigit (h c List.mem_cons_self),
      Option.getD_some, ih fun d hd => h d (List.mem_cons_of_mem _ hd)]

theorem digitsValue_toDigits (n : Nat) : digitsValue (Nat.toDigits 10 n) = n := by
  have hdigits : ∀ c ∈ Nat.toDigits 10 n, c.isDigit = true := fun _ => isDigit_of_mem_toDigits
  rw [digitsValue_of_isDigit hdigits, Nat.ofDigitChars_ten_toDigits]

end Text

namespace Quantity

/-! ## Printed integers -/

/-- The parts of a printed integer with a suffix. -/
def Literal.printed (n : Int) (suffix : Suffix) : Literal where
  sign := if n < 0 then .minus else .none
  whole := Nat.toDigits 10 n.natAbs
  fraction := none
  suffix := suffix

theorem digits_toDigits (n : Nat) : Digits (Nat.toDigits 10 n) := by
  intro c hc
  rw [Text.isDecimalDigit, Text.digitValue?_of_isDigit (isDigit_of_mem_toDigits hc)]
  rfl

theorem Literal.chars_printed (n : Int) (suffix : Suffix) :
    (Literal.printed n suffix).chars = (toString n).toList ++ suffix.chars := by
  have hprinted : (toString n).toList =
      (if n < 0 then Sign.minus else .none).chars ++ Nat.toDigits 10 n.natAbs := by
    rw [toList_toString_int]
    split <;> rfl
  rw [hprinted, Literal.chars, Literal.printed, List.append_assoc]
  rfl

theorem Literal.denotation_printed (n : Int) (suffix : Suffix) :
    Literal.denotation (Literal.printed n suffix) = n * suffix.factor := by
  -- The sign that is written is that of the number.
  have hnumber : (if n < 0 then Sign.minus else .none).factor * (n.natAbs : Rat) = n := by
    by_cases hneg : n < 0
    · have habs : (n.natAbs : Int) = -n := by omega
      rw [if_pos hneg, Sign.factor, ← Int.cast_natCast, habs, Int.cast_neg]
      ring
    · have habs : (n.natAbs : Int) = n := by omega
      rw [if_neg hneg, ← Int.cast_natCast, habs]
      exact one_mul _
  have hmantissa : (Literal.printed n suffix).mantissa = (n.natAbs : Rat) := by
    have hnone : Text.digitsValue [] = 0 := rfl
    simp only [mantissa, printed, fractionDigits, Option.getD_none, Text.digitsValue_toDigits,
      hnone, Nat.cast_zero, zero_div, add_zero]
  rw [Literal.denotation, hmantissa]
  exact congrArg (· * suffix.factor) hnumber

theorem Literal.splits_printed (n : Int) {suffix : Suffix} (h : suffix.WellFormed) :
    (Literal.printed n suffix).Splits
      (Text.ofString (toString n ++ String.ofList suffix.chars)) where
  wellFormed := ⟨.whole (digits_toDigits _) Nat.toDigits_ne_nil, h⟩
  written := by
    rw [chars_printed, Text.ofString, String.toList_append, String.toList_ofList]

end Quantity

end AdmissionControl
