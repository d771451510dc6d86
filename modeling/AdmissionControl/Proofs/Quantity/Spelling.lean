/-
  AdmissionControl.Proofs.Quantity.Spelling

  A number and its text as quantities.

  The text of a float is that of its shortest decimal: digits with a point among them, or with a
  power of ten behind them.  Either is the text of a literal that denotes the decimal
  (`exists_splits_text`), so the float and its text are the same quantity as long as the power of
  ten may be written.  Above the greatest power both are refused, one as too large and one for its
  power.  Below the least the float is a quantity still and its text is not, and this is the only
  way for the two to differ (`numbers_parse_as_their_text`).
-/

import AdmissionControl.Proofs.Number.Significant
import AdmissionControl.Proofs.Quantity.Printed

namespace AdmissionControl.Quantity

/-! ## Digits in their places -/

theorem digitsValue_zeros_append (count : Nat) (digits : List Char) :
    Text.digitsValue (List.replicate count '0' ++ digits) = Text.digitsValue digits := by
  have hzeros : Text.digitsValue (List.replicate count '0') = 0 := by
    rw [Text.digitsValue_of_isDigit fun c hc => (List.eq_of_mem_replicate hc) ▸ rfl,
      Nat.ofDigitChars_replicate_zero, Nat.mul_zero]
  rw [Text.digitsValue_append, hzeros, Nat.zero_mul, Nat.zero_add]

theorem digitsValue_append_zeros (digits : List Char) (count : Nat) :
    Text.digitsValue (digits ++ List.replicate count '0') =
      Text.digitsValue digits * 10 ^ count := by
  have hzeros := digitsValue_zeros_append count []
  rw [List.append_nil] at hzeros
  rw [Text.digitsValue_append, hzeros, List.length_replicate]
  rfl

theorem digits_zeros (count : Nat) : Digits (List.replicate count '0') := by
  intro c hc
  rw [List.eq_of_mem_replicate hc]
  rfl

theorem Digits.append {front behind : List Char} (hfront : Digits front) (hbehind : Digits behind) :
    Digits (front ++ behind) := by
  intro c hc
  exact (List.mem_append.mp hc).elim (hfront c) (hbehind c)

/-- An unsigned literal denotes all its digits as one number, the point moved to its place. -/
theorem Literal.denotation_unsigned {l : Literal} (hsign : l.sign = .none) {power : Int}
    (hsuffix : l.suffix.factor = 10 ^ power) :
    l.denotation =
      Text.digitsValue (l.whole ++ l.fractionDigits) * 10 ^ (power - l.fractionDigits.length) := by
  have hten : (10 : Rat) ≠ 0 := by norm_num
  have hplaces : (10 : Rat) ^ l.fractionDigits.length ≠ 0 := by positivity
  rw [Literal.denotation, mantissa, hsign, hsuffix, Text.digitsValue_append, zpow_sub₀ hten,
    zpow_natCast]
  push_cast
  simp only [Sign.factor]
  field_simp

theorem Literal.denotation_plain {l : Literal} (hsign : l.sign = .none)
    (hsuffix : l.suffix = .none) :
    l.denotation =
      Text.digitsValue (l.whole ++ l.fractionDigits) * 10 ^ (-(l.fractionDigits.length : Int)) := by
  have hfactor : l.suffix.factor = 10 ^ (0 : Int) := by
    rw [hsuffix, zpow_zero]
    rfl
  rw [denotation_unsigned hsign hfactor, zero_sub]

/-! ## Powers of ten behind the letter e -/

/-- A power of ten as the suffix that it is written as. -/
def powerSuffix (width : Nat) (exponent : Int) : Suffix :=
  .exponent false (if exponent < 0 then .minus else .plus)
    (List.replicate (width - (Nat.toDigits 10 exponent.natAbs).length) '0' ++
      Nat.toDigits 10 exponent.natAbs)

theorem chars_powerSuffix (width : Nat) (exponent : Int) :
    (powerSuffix width exponent).chars = exponentText width exponent := by
  rw [powerSuffix, exponentText]
  by_cases hneg : exponent < 0
  · rw [if_pos hneg, if_pos hneg]
    rfl
  · rw [if_neg hneg, if_neg hneg]
    rfl

theorem wellFormed_powerSuffix (width : Nat) (exponent : Int) :
    (powerSuffix width exponent).WellFormed :=
  ⟨(digits_zeros _).append (digits_toDigits _), List.append_ne_nil_of_right_ne_nil _
    Nat.toDigits_ne_nil⟩

theorem factor_powerSuffix (width : Nat) (exponent : Int) :
    (powerSuffix width exponent).factor = 10 ^ exponent := by
  rw [powerSuffix]
  by_cases hneg : exponent < 0
  · have habs : -(exponent.natAbs : Int) = exponent := by omega
    rw [if_pos hneg]
    simp only [Suffix.factor, digitsValue_zeros_append, Text.digitsValue_toDigits, habs]
  · have habs : (exponent.natAbs : Int) = exponent := by omega
    rw [if_neg hneg]
    simp only [Suffix.factor, digitsValue_zeros_append, Text.digitsValue_toDigits, habs]

/-- The zeros in front of a power of ten do not count, so its bound is one on the number. -/
theorem inBounds_powerSuffix (width : Nat) (exponent : Int) :
    (powerSuffix width exponent).InBounds ↔ |exponent| ≤ 36 := by
  have habs : |exponent| ≤ 36 ↔ exponent.natAbs ≤ 36 := by
    rw [Int.abs_eq_natAbs]
    omega
  rw [powerSuffix, Suffix.InBounds, digitsValue_zeros_append, Text.digitsValue_toDigits, habs]
  refine and_iff_right_of_imp fun hsmall => ?_
  have hlength : (Nat.toDigits 10 exponent.natAbs).length ≤ 2 :=
    (Nat.length_toDigits_le_iff (by decide) (by decide)).mpr (by omega)
  rw [List.dropWhile_append_of_pos fun c hc => by rw [List.eq_of_mem_replicate hc]; rfl]
  exact (List.dropWhile_suffix _).length_le.trans hlength

/-! ## The three layouts -/

/-- A literal without a sign has the given characters and value. -/
structure Spells (l : Literal) (cs : List Char) (magnitude : Rat) : Prop where
  wellFormed : l.WellFormed
  unsigned : l.sign = .none
  chars : l.chars = cs
  denotation : l.denotation = magnitude

variable {digits : List Char} {exponent : Int} {magnitude : Rat}

theorem digits_of_scientific (h : Scientific digits exponent magnitude) : Digits digits := by
  intro c hc
  rw [Text.isDecimalDigit, Text.digitValue?_of_isDigit (h.isDigit c hc)]
  rfl

theorem value_of_scientific (h : Scientific digits exponent magnitude) :
    (Text.digitsValue digits : Rat) * 10 ^ (exponent + 1 - digits.length) = magnitude := by
  rw [Text.digitsValue_of_isDigit h.isDigit, h.value]

theorem spells_zero : Spells ⟨.none, ['0'], some ['0'], .none⟩ ['0', '.', '0'] 0 where
  wellFormed := ⟨.pointed (by decide) (by decide) (by decide), trivial⟩
  unsigned := rfl
  chars := rfl
  denotation := by
    have hdigits : Text.digitsValue ['0', '0'] = 0 := by decide
    rw [Literal.denotation_plain rfl rfl]
    simp [Literal.fractionDigits, hdigits]

/-- Below one, zeros stand between the point and the first digit. -/
theorem spells_fraction (h : Scientific digits exponent magnitude) (hneg : exponent < 0) :
    Spells ⟨.none, ['0'], some (List.replicate ((-exponent).toNat - 1) '0' ++ digits), .none⟩
      ('0' :: '.' :: List.replicate ((-exponent).toNat - 1) '0' ++ digits) magnitude where
  wellFormed :=
    ⟨.pointed (digits_zeros 1) (List.cons_ne_nil _ _)
      ((digits_zeros _).append (digits_of_scientific h)), trivial⟩
  unsigned := rfl
  chars := by simp [Literal.chars, Sign.chars, Suffix.chars]
  denotation := by
    -- The zeros behind the point move the digits, and add nothing to their value.
    have hdigits : Text.digitsValue
        (['0'] ++ (List.replicate ((-exponent).toNat - 1) '0' ++ digits)) =
          Text.digitsValue digits := by
      rw [← List.append_assoc]
      exact digitsValue_zeros_append ((-exponent).toNat - 1 + 1) digits
    rw [Literal.denotation_plain rfl rfl]
    simp only [Literal.fractionDigits, Option.getD_some]
    rw [hdigits, ← value_of_scientific h]
    congr 2
    rw [List.length_append, List.length_replicate]
    omega

/-- From one on, the point stands behind as many digits as the exponent says, or behind the zeros
that fill them up. -/
theorem spells_positional (h : Scientific digits exponent magnitude) (hnonneg : 0 ≤ exponent) :
    ∃ l : Literal, l.suffix = .none ∧
      Spells l (positionalText digits (exponent.toNat + 1)) magnitude := by
  have hdigits := digits_of_scientific h
  have hvalue := value_of_scientific h
  generalize hwhole : exponent.toNat + 1 = whole
  by_cases hlong : whole < digits.length
  · -- Some digits are left behind the point.
    have hbehind : digits.drop whole ≠ [] := by simpa using hlong
    refine ⟨⟨.none, digits.take whole, some (digits.drop whole), .none⟩, rfl, ⟨.pointed ?_ ?_ ?_,
      trivial⟩, rfl, ?_, ?_⟩
    · exact fun c hc => hdigits c (List.mem_of_mem_take hc)
    · simpa [← hwhole] using h.ne_nil
    · exact fun c hc => hdigits c (List.mem_of_mem_drop hc)
    · have hfill : whole - digits.length = 0 := by omega
      rw [positionalText, if_neg (by simpa using hlong), hfill]
      simp [Literal.chars, Sign.chars, Suffix.chars]
    · rw [Literal.denotation_plain rfl rfl]
      simp only [Literal.fractionDigits, Option.getD_some, List.take_append_drop]
      rw [← hvalue]
      congr 2
      rw [List.length_drop]
      omega
  · -- All digits stand before the point, with zeros behind them.
    have hbehind : digits.drop whole = [] := List.drop_eq_nil_of_le (not_lt.mp hlong)
    have hfront : digits.take whole = digits := List.take_of_length_le (not_lt.mp hlong)
    refine ⟨⟨.none, digits ++ List.replicate (whole - digits.length) '0', some ['0'], .none⟩, rfl,
      ⟨.pointed (hdigits.append (digits_zeros _)) ?_ (by decide), trivial⟩, rfl, ?_, ?_⟩
    · exact List.append_ne_nil_of_left_ne_nil h.ne_nil _
    · rw [positionalText, hbehind, hfront]
      simp [Literal.chars, Sign.chars, Suffix.chars]
    · have hzero : digits ++ List.replicate (whole - digits.length) '0' ++ ['0'] =
          digits ++ List.replicate (whole - digits.length + 1) '0' := by
        rw [List.append_assoc, List.replicate_succ']
      rw [Literal.denotation_plain rfl rfl]
      simp only [Literal.fractionDigits, Option.getD_some, hzero, digitsValue_append_zeros]
      rw [← hvalue]
      push_cast
      rw [mul_assoc, ← zpow_natCast, ← zpow_add₀ (by norm_num)]
      congr 2
      rw [List.length_singleton]
      omega

/-- Digits with a point behind the first of them, if there are more. -/
def mantissaText (digits : List Char) : List Char :=
  match digits with
  | first :: more@(_ :: _) => first :: '.' :: more
  | _ => digits

/-- With a power of ten, the point stands behind the first digit. -/
theorem spells_power (h : Scientific digits exponent magnitude) (width : Nat) :
    ∃ l : Literal, l.suffix = powerSuffix width exponent ∧
      Spells l (mantissaText digits ++ exponentText width exponent) magnitude := by
  have hdigits := digits_of_scientific h
  have hvalue := value_of_scientific h
  have hsuffix := wellFormed_powerSuffix width exponent
  have hfactor := factor_powerSuffix width exponent
  obtain ⟨first, more, rfl⟩ := List.exists_cons_of_ne_nil h.ne_nil
  obtain ⟨hfirst, hmore⟩ := List.forall_mem_cons.mp hdigits
  have hwhole : Digits [first] := by simpa [Digits] using hfirst
  -- A single digit is written without a point.
  cases more with
  | nil =>
    refine ⟨⟨.none, [first], none, powerSuffix width exponent⟩, rfl,
      ⟨.whole hwhole (List.cons_ne_nil _ _), hsuffix⟩, rfl, ?_, ?_⟩
    · simp [Literal.chars, Sign.chars, chars_powerSuffix, mantissaText]
    · rw [Literal.denotation_unsigned rfl hfactor]
      simp only [Literal.fractionDigits, Option.getD_none, List.append_nil]
      rw [← hvalue]
      congr 2
      simp
  | cons second rest =>
    refine ⟨⟨.none, [first], some (second :: rest), powerSuffix width exponent⟩, rfl,
      ⟨.pointed hwhole (List.cons_ne_nil _ _) hmore, hsuffix⟩, rfl, ?_, ?_⟩
    · simp [Literal.chars, Sign.chars, chars_powerSuffix, mantissaText]
    · rw [Literal.denotation_unsigned rfl hfactor]
      simp only [Literal.fractionDigits, Option.getD_some, List.singleton_append]
      rw [← hvalue]
      congr 2
      simp

/-! ## The text of a decimal -/

/-- A minus sign in front negates. -/
theorem Spells.splits {l : Literal} {cs : List Char} (h : Spells l cs magnitude)
    (negative : Bool) :
    let signed : Literal := { l with sign := if negative then .minus else .none }
    signed.Splits (Text.ofChars (if negative then '-' :: cs else cs)) ∧
      signed.denotation = (if negative then -1 else 1) * magnitude := by
  obtain ⟨sign, whole, fraction, suffix⟩ := l
  obtain ⟨hwellFormed, rfl, hchars, hdenotation⟩ := h
  rw [← hchars, ← hdenotation]
  cases negative with
  | false => exact ⟨⟨hwellFormed, rfl⟩, (one_mul _).symm⟩
  | true =>
    refine ⟨⟨⟨hwellFormed.mantissa, hwellFormed.suffix⟩, rfl⟩, ?_⟩
    simp only [Literal.denotation, Literal.mantissa, Literal.fractionDigits, Sign.factor, if_true]
    ring

/-- A decimal's text splits into parts that denote the decimal.  Their power of ten is in range
unless it is written and beyond 36. -/
theorem exists_splits_text (layout : FloatLayout) (hleast : -36 ≤ layout.leastPositional)
    (hgreatest : layout.greatestPositional ≤ 36) (d : Decimal) :
    ∃ l : Literal, l.Splits (Text.ofChars (d.text layout)) ∧ l.denotation = d.toRat ∧
      (l.suffix.InBounds ↔ d.coefficient = 0 ∨ |d.significantDigits.2| ≤ 36) := by
  rw [Decimal.text, d.toRat_eq]
  -- Zero has a text of its own, without a power of ten.
  by_cases hzero : d.coefficient = 0
  · obtain ⟨hsplits, hdenotation⟩ := spells_zero.splits d.negative
    refine ⟨_, by simpa [hzero] using hsplits, by simpa [hzero] using hdenotation, ?_⟩
    exact iff_of_true trivial (.inl hzero)
  · have h := scientific_significantDigits hzero
    rw [d.abs_toRat] at h
    generalize d.significantDigits = significant at h ⊢
    obtain ⟨digits, exponent⟩ := significant
    simp only at h ⊢
    rw [if_neg hzero]
    simp only [or_iff_right hzero]
    by_cases hpositional : (decide (layout.leastPositional ≤ exponent) &&
        decide (exponent ≤ layout.greatestPositional)) = true
    · rw [if_pos hpositional]
      rw [Bool.and_eq_true, decide_eq_true_eq, decide_eq_true_eq] at hpositional
      -- In the positional form there is no power of ten to be out of range, nor is one needed.
      have hsmall : |exponent| ≤ 36 := by
        rw [abs_le]
        omega
      by_cases hneg : exponent < 0
      · obtain ⟨hsplits, hdenotation⟩ := (spells_fraction h hneg).splits d.negative
        rw [if_pos hneg]
        exact ⟨_, hsplits, hdenotation, iff_of_true trivial hsmall⟩
      · obtain ⟨l, hsuffix, hspells⟩ := spells_positional h (not_lt.mp hneg)
        obtain ⟨hsplits, hdenotation⟩ := hspells.splits d.negative
        rw [if_neg hneg]
        refine ⟨_, hsplits, hdenotation, iff_of_true ?_ hsmall⟩
        simp only [hsuffix]
        trivial
    · -- Otherwise the power of ten is written out, and it is its range that counts.
      obtain ⟨l, hsuffix, hspells⟩ := spells_power h layout.exponentDigits
      obtain ⟨hsplits, hdenotation⟩ := hspells.splits d.negative
      rw [if_neg hpositional]
      refine ⟨_, hsplits, hdenotation, ?_⟩
      simp only [hsuffix]
      exact inBounds_powerSuffix _ _

/-! ## Numbers -/

/-- Both are one quantity, or both are refused. -/
inductive SameOutcome : Except QuantityFailure Rat → Except QuantityFailure Rat → Prop where
  | read (q : Rat) : SameOutcome (.ok q) (.ok q)
  | refused (cause cause' : QuantityError) :
      SameOutcome (.error (.refused cause)) (.error (.refused cause'))

/-- The decimal text of an integer is the quantity that the integer is, or refused with it. -/
theorem sameOutcome_toString {n : Int} (h : (Json.int n).isWritable = true) :
    SameOutcome (parse (.str (toString n : String))) (parse (.int n)) := by
  have hsplits := @Literal.splits_printed n .none trivial
  have htext : Text.ofString (toString n ++ String.ofList Suffix.none.chars) = toString n := by
    simp [Suffix.chars]
  have hvalue : Literal.denotation (.printed n .none) = n := by
    rw [Literal.denotation_printed, Suffix.factor, mul_one]
  rw [htext] at hsplits
  rw [parse_of_splits hsplits trivial, hvalue, parse, bounded_eq, refuse_of_isWritable h]
  split
  · exact .read _
  · exact .refused _ _

theorem parse_float {x : Binary64} (h : x.isFinite = true) :
    parse (.float x) = if |x.shortest.toRat| ≤ 2 ^ 63 - 1 then .ok x.shortest.toRat
      else .error (.refused (.tooLarge (.float x))) := by
  cases x with
  | finite negative significand exponent canonical =>
    rw [parse, bounded_eq, refuse_of_isWritable rfl]
  | nan => cases h
  | infinity negative => cases h

theorem ofString_text {x : Binary64} (h : x.isFinite = true) (layout : FloatLayout) :
    Text.ofString (x.text layout) = Text.ofChars (x.shortest.text layout) := by
  cases x with
  | finite negative significand exponent canonical =>
    exact congrArg Text.ofChars String.toList_ofList
  | nan => cases h
  | infinity negative => cases h

/-- A float is a quantity, not zero, and below 10^-36 in magnitude. -/
def Tiny (x : Binary64) : Prop :=
  ∃ q, parse (.float x) = .ok q ∧ 0 < |q| ∧ |q| < 10 ^ (-36 : Int)

theorem not_tiny {x : Binary64} (h : x.isFinite = true)
    (hsize : x.shortest.coefficient = 0 ∨ -36 ≤ x.shortest.significantDigits.2) : ¬ Tiny x := by
  rintro ⟨q, hq, hpos, hsmall⟩
  rw [parse_float h] at hq
  split at hq
  next =>
    obtain rfl := Except.ok.inj hq
    -- A tiny quantity is other than zero, so its digits begin below the least power of ten.
    by_cases hzero : x.shortest.coefficient = 0
    · rw [Decimal.abs_toRat, hzero, Nat.cast_zero, zero_mul] at hpos
      exact lt_irrefl 0 hpos
    · have hleast := (scientific_significantDigits hzero).least
      have hpower : (10 : Rat) ^ (-36 : Int) ≤ 10 ^ x.shortest.significantDigits.2 :=
        zpow_le_zpow_right₀ (by norm_num) (hsize.resolve_left hzero)
      exact absurd (hpower.trans hleast) (not_le.mpr hsmall)
  next => cases hq

/-- The text of a float has the same outcome; or its power of ten is out of range and the float is
tiny. -/
theorem parse_text_cases {x : Binary64} (h : x.isFinite = true) :
    SameOutcome (parse (.str (x.text .message))) (parse (.float x)) ∧ ¬ Tiny x ∨
      parse (.str (x.text .message)) =
        .error (.refused (.exponentOutOfRange (.str (x.text .message)))) ∧ Tiny x := by
  obtain ⟨l, hsplits, hdenotation, hrange⟩ :=
    exists_splits_text .message (by decide) (by decide) x.shortest
  rw [← ofString_text h] at hsplits
  have hfloat := parse_float h
  by_cases hbounds : l.suffix.InBounds
  · left
    refine ⟨?_, not_tiny h ((hrange.mp hbounds).imp_right fun hsmall => (abs_le.mp hsmall).1)⟩
    rw [parse_of_splits hsplits hbounds, hdenotation, hfloat]
    split
    · exact .read _
    · exact .refused _ _
  · -- The text is refused for its power of ten, so all depends on what becomes of the float.
    have htext := parse_of_not_inBounds hsplits hbounds
    obtain ⟨hzero, hlarge⟩ := not_or.mp (mt hrange.mpr hbounds)
    have hdigits := scientific_significantDigits hzero
    rw [abs_le, not_and_or, not_le, not_le] at hlarge
    rcases hlarge with hbelow | habove
    · -- The magnitude is below the next power of ten, which is still below any bound.
      right
      have hpower : (10 : Rat) ^ (x.shortest.significantDigits.2 + 1) ≤ 10 ^ (-36 : Int) :=
        zpow_le_zpow_right₀ (by norm_num) (by omega)
      have hsmall := hdigits.below.trans_le hpower
      have hpos : 0 < |x.shortest.toRat| :=
        lt_of_lt_of_le (by positivity) hdigits.least
      have hbound : |x.shortest.toRat| ≤ 2 ^ 63 - 1 := hsmall.le.trans (by norm_num)
      exact ⟨htext, _, hfloat.trans (if_pos hbound), hpos, hsmall⟩
    · -- Beyond the greatest power of ten the float is too large as well.
      left
      have hpower : (10 : Rat) ^ (37 : Int) ≤ 10 ^ x.shortest.significantDigits.2 :=
        zpow_le_zpow_right₀ (by norm_num) (by omega)
      have hbound : ¬ |x.shortest.toRat| ≤ 2 ^ 63 - 1 := by
        rw [not_le]
        exact lt_of_lt_of_le (by norm_num) (hpower.trans hdigits.least)
      refine ⟨?_, not_tiny h (.inr (by omega))⟩
      rw [htext, hfloat, if_neg hbound]
      exact .refused _ _

/-- An integer of at most 4300 digits and its decimal text are the same quantity or both refused.
So are a float and its text, except for a quantity other than zero below 10^-36: the power of ten in
its text is refused. -/
theorem numbers_parse_as_their_text :
    (∀ n : Int, |n| < 10 ^ 4300 →
      SameOutcome (parse (.str (toString n : String))) (parse (.int n))) ∧
    ∀ x : Binary64, x.isFinite = true →
      (SameOutcome (parse (.str (x.text .message))) (parse (.float x)) ↔ ¬ Tiny x) ∧
      (Tiny x → parse (.str (x.text .message)) =
        .error (.refused (.exponentOutOfRange (.str (x.text .message))))) := by
  refine ⟨fun n h => sameOutcome_toString (Json.isWritable_int_iff_abs.mpr h), fun x h => ?_⟩
  rcases parse_text_cases h with ⟨hsame, hnot⟩ | ⟨htext, htiny⟩
  · exact ⟨iff_of_true hsame hnot, fun htiny => absurd htiny hnot⟩
  · refine ⟨iff_of_false ?_ (not_not_intro htiny), fun _ => htext⟩
    obtain ⟨q, hq, -, -⟩ := htiny
    rw [htext, hq]
    exact nofun

/-- One quarter. -/
def quarter : Binary64 := .finite false 4503599627370496 (-54) (by decide)

/-- The float nearest to 10^-40. -/
def tenToMinusForty : Binary64 := Decimal.toBinary64 ⟨false, 1, -40⟩

theorem isFinite_tenToMinusForty : tenToMinusForty.isFinite = true := by decide +kernel

theorem tiny_tenToMinusForty : Tiny tenToMinusForty := by
  have hvalue : tenToMinusForty.shortest.toRat = 1 / 10 ^ 40 := by decide +kernel
  have hmagnitude : |(1 / 10 ^ 40 : Rat)| = 1 / 10 ^ 40 := abs_of_nonneg (by norm_num)
  have hparse := parse_float isFinite_tenToMinusForty
  rw [hvalue, hmagnitude, if_pos (by norm_num)] at hparse
  exact ⟨_, hparse, by norm_num, by norm_num⟩

theorem integer_quarter_and_tenToMinusForty_as_text :
    |(-7 : Int)| < 10 ^ 4300 ∧
      SameOutcome (parse (.str (toString (-7 : Int) : String))) (parse (.int (-7))) ∧
      SameOutcome (parse (.str (quarter.text .message))) (parse (.float quarter)) ∧
      parse (.str (tenToMinusForty.text .message)) =
        .error (.refused (.exponentOutOfRange (.str (tenToMinusForty.text .message)))) := by
  obtain ⟨hintegers, hfloats⟩ := numbers_parse_as_their_text
  have hseven : |(-7 : Int)| < 10 ^ 4300 := Json.isWritable_int_iff_abs.mp rfl
  refine ⟨hseven, hintegers (-7) hseven, ?_, ?_⟩
  · exact (hfloats quarter rfl).1.mpr (not_tiny rfl (.inr (by decide +kernel)))
  · exact (hfloats tenToMinusForty isFinite_tenToMinusForty).2 tiny_tenToMinusForty

/-- The float 10^-40 is a quantity, and its text is none. -/
theorem tenToMinusForty_is_quantity_and_its_text_is_none :
    tenToMinusForty.isFinite = true ∧ tenToMinusForty.text .message = "1e-40" ∧
      (parse (.float tenToMinusForty)).toOption = some (mkRat 1 (10 ^ 40)) ∧
      (parse (.str (tenToMinusForty.text .message))).toOption = none := by
  decide +kernel

end AdmissionControl.Quantity
