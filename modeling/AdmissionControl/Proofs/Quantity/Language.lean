/-
  AdmissionControl.Proofs.Quantity.Language

  Which texts and integers are quantities, and what they denote.

  A literal denotes its sign times its mantissa times what its suffix stands for, as an exact
  rational (`Literal.denotation`).  Parsing a text has one of four outcomes, each under its own
  condition on the split of the text: the denotation, or the error that there is no split, that the
  power of ten is out of range, or that the denotation is beyond the bound
  (`parse_str_eq_ok_iff`, `parse_str_eq_error_iff`).  An integer denotes itself; beyond the bound it
  is refused if it has a text (`parse_int_eq_refused_iff`), and fails without a message if not.

  What a quantity's text cannot be is read off its characters: digits, signs, a point, and one
  letter that begins a suffix (`not_splits_of_malformed`).
-/

import AdmissionControl.Proofs.Quantity.Grammar
import AdmissionControl.Proofs.Quantity.Refusal
import AdmissionControl.Text.Blank
import Mathlib.Tactic.FieldSimp
import Mathlib.Tactic.NormNum
import Mathlib.Tactic.Ring

namespace AdmissionControl

/-! ## The number of some digits -/

namespace Text

theorem digitsValue_foldl (start : Nat) (digits : List Char) :
    digits.foldl (fun total c => 10 * total + (digitValue? c).getD 0) start =
      start * 10 ^ digits.length + digitsValue digits := by
  induction digits generalizing start with
  | nil => simp [digitsValue]
  | cons c rest ih =>
    rw [digitsValue, List.foldl_cons, List.foldl_cons, ih, ih (10 * 0 + _), List.length_cons]
    ring

theorem digitsValue_append (front behind : List Char) :
    digitsValue (front ++ behind) =
      digitsValue front * 10 ^ behind.length + digitsValue behind := by
  rw [digitsValue, List.foldl_append, digitsValue_foldl]
  rfl

theorem digitsValue_cons (c : Char) (rest : List Char) :
    digitsValue (c :: rest) = (digitValue? c).getD 0 * 10 ^ rest.length + digitsValue rest := by
  rw [← List.singleton_append, digitsValue_append]
  simp [digitsValue]

end Text

namespace Quantity

/-- Leading zeros count for nothing. -/
theorem digitsValue_significant (digits : List Char) :
    Text.digitsValue (significant digits) = Text.digitsValue digits := by
  induction digits with
  | nil => rfl
  | cons c rest ih =>
    by_cases hzero : c = '0'
    · subst hzero
      rw [Text.digitsValue_cons, Text.digitValue?_zero, ← ih]
      simp [significant]
    · simp [significant, hzero]

/-! ## What a literal denotes -/

/-- Minus one for a minus sign. -/
def Sign.factor : Sign → Rat
  | .minus => -1
  | _ => 1

/-- What a suffix stands for: a power of 2 or of 10. -/
def Suffix.factor : Suffix → Rat
  | .none => 1
  | .binary unit => 2 ^ unit.power
  | .decimal unit => 10 ^ unit.power
  | .exponent _ .minus digits => 10 ^ (-(Text.digitsValue digits : Int))
  | .exponent _ _ digits => 10 ^ (Text.digitsValue digits : Int)

/-- The digits before the point, and those behind it in their places. -/
def Literal.mantissa (l : Literal) : Rat :=
  Text.digitsValue l.whole + Text.digitsValue l.fractionDigits / 10 ^ l.fractionDigits.length

/-- Sign times mantissa times what the suffix stands for. -/
def Literal.denotation (l : Literal) : Rat := l.sign.factor * l.mantissa * l.suffix.factor

/-- A power of ten has at most two digits behind its leading zeros, and is at most 36. -/
def Suffix.InBounds : Suffix → Prop
  | .exponent _ _ digits =>
    (digits.dropWhile (· == '0')).length ≤ 2 ∧ Text.digitsValue digits ≤ 36
  | _ => True

theorem Suffix.inRange_iff (suffix : Suffix) : suffix.inRange = true ↔ suffix.InBounds := by
  cases suffix with
  | exponent capital sign digits =>
    simp only [inRange, InBounds, Bool.and_eq_true, decide_eq_true_eq, digitsValue_significant,
      greatestExponent]
    rfl
  | _ => simp [inRange, InBounds]

theorem Literal.number_eq (l : Literal) : l.number = l.sign.factor * l.mantissa := by
  have hsum : ((Text.digitsValue (l.whole ++ l.fractionDigits) : Nat) : Rat) =
      Text.digitsValue l.whole * 10 ^ l.fractionDigits.length +
        Text.digitsValue l.fractionDigits := by
    rw [Text.digitsValue_append]
    push_cast
    ring
  -- The sign goes to the numerator.
  have hsigned : ∀ n : Nat, ((if l.sign = .minus then -(n : Int) else n : Int) : Rat) =
      l.sign.factor * n := by
    intro n
    cases l.sign <;> simp [Sign.factor]
  have hpow : (10 : Rat) ^ l.fractionDigits.length ≠ 0 := by positivity
  rw [number, mantissa, Rat.mkRat_eq_div]
  simp only [hsigned, hsum, Nat.pow_eq, Nat.cast_pow, Nat.cast_ofNat]
  field_simp

theorem DecimalUnit.multiplier_eq (unit : DecimalUnit) :
    (Suffix.decimal unit).multiplier = (10 : Rat) ^ unit.power := by
  rw [Suffix.multiplier, Rat.mkRat_eq_div]
  -- One of the two powers is the zeroth.
  rcases Int.eq_nat_or_neg unit.power with ⟨k, hk | hk⟩
  · simp [hk]
  · simp [hk, zpow_neg]

theorem Suffix.multiplier_eq (suffix : Suffix) : suffix.multiplier = suffix.factor := by
  cases suffix with
  | none => rfl
  | binary unit => simp [multiplier, factor, Rat.mkRat_eq_div]
  | decimal unit => exact unit.multiplier_eq
  | exponent capital sign digits =>
    cases sign with
    | minus =>
      simp [multiplier, factor, Rat.mkRat_eq_div, digitsValue_significant, zpow_neg]
    | none => simp [multiplier, factor, Rat.mkRat_eq_div, digitsValue_significant]
    | plus => simp [multiplier, factor, Rat.mkRat_eq_div, digitsValue_significant]

/-- The value that is computed of a literal is what it denotes. -/
theorem Literal.value_eq (l : Literal) : l.value = l.denotation := by
  rw [value, denotation, number_eq, Suffix.multiplier_eq]

/-! ## Parsing a text -/

variable {s : Text} {l l' : Literal}

theorem Literal.Splits.unique (h : l.Splits s) (h' : l'.Splits s) : l = l' := by
  have hchars := Text.chars?_ofChars l.chars
  rw [← h.written, h'.written, Text.chars?_ofChars] at hchars
  exact h.wellFormed.chars_inj h'.wellFormed (Option.some.inj hchars).symm

/-- A text is read as the parts into which it splits. -/
theorem bind_read?_eq_some_iff : s.chars?.bind Literal.read? = some l ↔ l.Splits s := by
  constructor
  · intro h
    obtain ⟨cs, hcs, hread⟩ := Option.bind_eq_some_iff.mp h
    obtain ⟨hwellFormed, rfl⟩ := Literal.of_read? hread
    exact ⟨hwellFormed, Text.eq_ofChars_of_chars? hcs⟩
  · rintro ⟨hwellFormed, rfl⟩
    rw [Text.chars?_ofChars, Option.bind_some, Literal.read?_chars hwellFormed]

theorem parse_of_not_splits (h : ∀ l : Literal, ¬ l.Splits s) :
    parse (.str s) = .error (.refused (.invalid (.str s))) := by
  have hread : s.chars?.bind Literal.read? = none := by
    rw [Option.eq_none_iff_forall_ne_some]
    exact fun l hl => h l (bind_read?_eq_some_iff.mp hl)
  rw [parse, parseText, hread]
  exact refuse_of_isWritable rfl

theorem parse_of_not_inBounds (h : l.Splits s) (hbounds : ¬ l.suffix.InBounds) :
    parse (.str s) = .error (.refused (.exponentOutOfRange (.str s))) := by
  rw [parse, parseText, bind_read?_eq_some_iff.mpr h]
  simp only
  rw [if_neg (fun hrange => hbounds (l.suffix.inRange_iff.mp hrange))]
  exact refuse_of_isWritable rfl

/-- A text that splits into parts with a power of ten in range is its denotation, if that is within
the bound. -/
theorem parse_of_splits (h : l.Splits s) (hbounds : l.suffix.InBounds) :
    parse (.str s) = if |l.denotation| ≤ 2 ^ 63 - 1 then .ok l.denotation
      else .error (.refused (.tooLarge (.str s))) := by
  rw [parse, parseText, bind_read?_eq_some_iff.mpr h]
  simp only
  rw [if_pos (l.suffix.inRange_iff.mpr hbounds), bounded_eq, l.value_eq, refuse_of_isWritable rfl]

/-- A text does not split, or into parts with a power of ten out of range or in range. -/
theorem splits_cases (s : Text) :
    (∀ l : Literal, ¬ l.Splits s) ∨ (∃ l : Literal, l.Splits s ∧ ¬ l.suffix.InBounds) ∨
      ∃ l : Literal, l.Splits s ∧ l.suffix.InBounds := by
  by_cases hsplit : ∃ l : Literal, l.Splits s
  · obtain ⟨l, hl⟩ := hsplit
    by_cases hbounds : l.suffix.InBounds
    · exact .inr (.inr ⟨l, hl, hbounds⟩)
    · exact .inr (.inl ⟨l, hl, hbounds⟩)
  · exact .inl (not_exists.mp hsplit)

/-- Why a text is no quantity. -/
inductive Refused (s : Text) : QuantityError → Prop where
  | unsplit : (∀ l : Literal, ¬ l.Splits s) → Refused s (.invalid (.str s))
  | exponent {l : Literal} : l.Splits s → ¬ l.suffix.InBounds →
      Refused s (.exponentOutOfRange (.str s))
  | magnitude {l : Literal} : l.Splits s → l.suffix.InBounds → 2 ^ 63 - 1 < |l.denotation| →
      Refused s (.tooLarge (.str s))

theorem parse_str_eq_ok_iff {q : Rat} : parse (.str s) = .ok q ↔
    ∃ l : Literal, l.Splits s ∧ l.suffix.InBounds ∧ |l.denotation| ≤ 2 ^ 63 - 1 ∧
      q = l.denotation := by
  constructor
  · intro h
    rcases splits_cases s with hnone | ⟨l, hl, hbounds⟩ | ⟨l, hl, hbounds⟩
    · rw [parse_of_not_splits hnone] at h
      cases h
    · rw [parse_of_not_inBounds hl hbounds] at h
      cases h
    · rw [parse_of_splits hl hbounds] at h
      split at h
      next hmagnitude => exact ⟨l, hl, hbounds, hmagnitude, (Except.ok.inj h).symm⟩
      next => cases h
  · rintro ⟨l, hl, hbounds, hmagnitude, rfl⟩
    rw [parse_of_splits hl hbounds, if_pos hmagnitude]

theorem parse_str_eq_error_iff {failure : QuantityFailure} : parse (.str s) = .error failure ↔
    ∃ cause, Refused s cause ∧ failure = .refused cause := by
  constructor
  · intro h
    -- A text does not split, splits with a power out of range, or splits in bounds.
    rcases splits_cases s with hnone | ⟨l, hl, hbounds⟩ | ⟨l, hl, hbounds⟩
    · rw [parse_of_not_splits hnone] at h
      exact ⟨_, .unsplit hnone, (Except.error.inj h).symm⟩
    · rw [parse_of_not_inBounds hl hbounds] at h
      exact ⟨_, .exponent hl hbounds, (Except.error.inj h).symm⟩
    · rw [parse_of_splits hl hbounds] at h
      split at h
      next => cases h
      next hmagnitude =>
        exact ⟨_, .magnitude hl hbounds (not_le.mp hmagnitude), (Except.error.inj h).symm⟩
  · rintro ⟨cause, hrefused, rfl⟩
    cases hrefused with
    | unsplit hsplit => exact parse_of_not_splits hsplit
    | exponent hl hbounds => exact parse_of_not_inBounds hl hbounds
    | magnitude hl hbounds hmagnitude =>
      rw [parse_of_splits hl hbounds, if_neg (not_le.mpr hmagnitude)]

/-! ## Texts that do not split -/

/-- Shapes that no quantity has: a blank anywhere, a suffix without digits before it, the letter e
with nothing behind it, and two suffixes in a row. -/
inductive Malformed : List Char → Prop where
  | blank {cs : List Char} {c : Char} : c ∈ cs → Text.isBlank c = true → Malformed cs
  | bareSuffix (sign : Sign) (suffix : Suffix) : Malformed (sign.chars ++ suffix.chars)
  | lonePower (front : List Char) : Malformed (front ++ ['e'])
  | twoSuffixes (front : List Char) {first second : Suffix} : first ≠ .none → second ≠ .none →
      Malformed (front ++ first.chars ++ second.chars)

theorem not_isBlank_of_digit {c : Char} (h : Text.isDecimalDigit c = true) :
    Text.isBlank c = false := by
  obtain ⟨first, hfirst⟩ : ∃ first, Text.decimalZeros.find?
      (fun first => first ≤ c.toNat && c.toNat < first + 10) = some first := by
    rw [Text.isDecimalDigit, Text.digitValue?, Option.isSome_map] at h
    exact Option.isSome_iff_exists.mp h
  have hrun := List.find?_some hfirst
  -- The runs of digits lie in the gaps between the blanks.
  have hgap : ∀ first ∈ Text.decimalZeros, first = 0x30 ∨ 0xa0 < first ∧ first + 9 < 0x1680 ∨
      0x1680 < first ∧ first + 9 < 0x2000 ∨ 0x3000 < first := by decide
  have hplace := hgap first (List.mem_of_find?_eq_some hfirst)
  simp only [Bool.and_eq_true, decide_eq_true_eq] at hrun
  simp only [Text.isBlank, Text.isWhiteSpace, Bool.or_eq_false_iff, Bool.and_eq_false_iff,
    decide_eq_false_iff_not]
  omega

/-- Before the suffix there are signs, digits and points only. -/
theorem Literal.WellFormed.front_cases (h : l.WellFormed) {c : Char}
    (hc : c ∈ l.sign.chars ++ l.whole ++ Literal.pointChars l.fraction) :
    c = '+' ∨ c = '-' ∨ c = '.' ∨ Text.isDecimalDigit c = true := by
  obtain ⟨hwhole, hfraction⟩ := h.mantissa.digits
  -- The front is the sign, the digits before the point, and the point with the digits behind it.
  rcases List.mem_append.mp hc with hc | hc
  · rcases List.mem_append.mp hc with hc | hc
    · cases hsign : l.sign with
      | none => simp [hsign, Sign.chars] at hc
      | plus => exact .inl (by simpa [hsign, Sign.chars] using hc)
      | minus => exact .inr (.inl (by simpa [hsign, Sign.chars] using hc))
    · exact .inr (.inr (.inr (hwhole c hc)))
  · cases hpoint : l.fraction with
    | none => simp [hpoint, Literal.pointChars] at hc
    | some fraction =>
      rw [hpoint] at hc hfraction
      rcases List.mem_cons.mp hc with rfl | hc
      · exact .inr (.inr (.inl rfl))
      · exact .inr (.inr (.inr (hfraction c hc)))

/-- A suffix is letters, and behind one of them perhaps a sign and digits. -/
theorem Suffix.WellFormed.chars_cases {suffix : Suffix} (h : suffix.WellFormed) {c : Char}
    (hc : c ∈ suffix.chars) :
    isSuffixLetter c = true ∨ c = 'i' ∨ c = '+' ∨ c = '-' ∨ Text.isDecimalDigit c = true := by
  cases suffix with
  | none => cases hc
  | binary unit =>
    simp only [Suffix.chars, List.mem_cons, List.not_mem_nil, or_false] at hc
    rcases hc with rfl | rfl
    · exact .inl (by cases unit <;> rfl)
    · exact .inr (.inl rfl)
  | decimal unit =>
    simp only [Suffix.chars, List.mem_singleton] at hc
    subst hc
    exact .inl (by cases unit <;> rfl)
  | exponent capital sign digits =>
    -- A power of ten begins with its letter; its sign and its digits follow.
    rcases List.mem_append.mp hc with hc | hc
    · rcases List.mem_cons.mp hc with rfl | hc
      · exact .inl (by cases capital <;> rfl)
      · cases sign with
        | none => cases hc
        | plus => exact .inr (.inr (.inl (by simpa [Sign.chars] using hc)))
        | minus => exact .inr (.inr (.inr (.inl (by simpa [Sign.chars] using hc))))
    · exact .inr (.inr (.inr (.inr (h.1 c hc))))

theorem Literal.front_suffix (l : Literal) :
    l.chars = (l.sign.chars ++ l.whole ++ Literal.pointChars l.fraction) ++ l.suffix.chars := rfl

theorem not_isBlank_of_isSuffixLetter {c : Char} (h : isSuffixLetter c = true) :
    Text.isBlank c = false := by
  simp only [isSuffixLetter, List.contains_iff_mem, List.mem_cons, List.not_mem_nil, or_false] at h
  rcases h with rfl | rfl | rfl | rfl | rfl | rfl | rfl | rfl | rfl | rfl | rfl <;> decide

theorem Literal.WellFormed.not_isBlank (h : l.WellFormed) {c : Char} (hc : c ∈ l.chars) :
    Text.isBlank c = false := by
  rw [l.front_suffix] at hc
  rcases List.mem_append.mp hc with hc | hc
  · -- The characters of a literal are known, and none of them is blank.
    rcases h.front_cases hc with rfl | rfl | rfl | hdigit
    · decide
    · decide
    · decide
    · exact not_isBlank_of_digit hdigit
  · rcases h.suffix.chars_cases hc with hletter | rfl | rfl | rfl | hdigit
    · exact not_isBlank_of_isSuffixLetter hletter
    · decide
    · decide
    · decide
    · exact not_isBlank_of_digit hdigit

theorem not_isSuffixLetter_of_digit {c : Char} (h : Text.isDecimalDigit c = true) :
    isSuffixLetter c = false := by
  rw [Bool.eq_false_iff]
  intro hletter
  rw [(Suffix.not_digit_of_isSuffixLetter hletter).1] at h
  cases h

/-- A quantity has at most one of the letters that begin a suffix. -/
theorem Literal.WellFormed.countP_isSuffixLetter (h : l.WellFormed) :
    l.chars.countP isSuffixLetter ≤ 1 := by
  -- Signs, digits and the point are no letters.
  have hfront : (l.sign.chars ++ l.whole ++ Literal.pointChars l.fraction).countP
      isSuffixLetter = 0 := by
    rw [List.countP_eq_zero]
    intro c hc
    rcases h.front_cases hc with rfl | rfl | rfl | hdigit
    · decide
    · decide
    · decide
    · simp [not_isSuffixLetter_of_digit hdigit]
  have hsuffix : l.suffix.chars.countP isSuffixLetter ≤ 1 := by
    have hwellFormed := h.suffix
    cases hs : l.suffix with
    | none => decide
    | binary unit => cases unit <;> decide
    | decimal unit => cases unit <;> decide
    | exponent capital sign digits =>
      -- Behind the first letter there are a sign and digits, none of them a letter.
      rw [hs] at hwellFormed
      have hdigits : digits.countP isSuffixLetter = 0 := by
        rw [List.countP_eq_zero]
        exact fun c hc => by simp [not_isSuffixLetter_of_digit (hwellFormed.1 c hc)]
      have hsign : sign.chars.countP isSuffixLetter = 0 := by cases sign <;> decide
      have hletter : ∀ c : Char, [c].countP isSuffixLetter ≤ 1 := fun c => List.countP_le_length
      rw [Suffix.chars, List.cons_append, ← List.singleton_append, List.countP_append,
        List.countP_append, hdigits, hsign]
      exact hletter _
  rw [l.front_suffix, List.countP_append, hfront, Nat.zero_add]
  exact hsuffix

theorem Suffix.one_le_countP {suffix : Suffix} (h : suffix ≠ .none) :
    1 ≤ suffix.chars.countP isSuffixLetter := by
  rcases suffix.chars_eq with hnone | ⟨c, rest, hchars, hletter⟩
  · exact absurd hnone h
  · rw [hchars, List.countP_cons_of_pos hletter]
    exact Nat.le_add_left 1 _

/-- No quantity ends with the letter e. -/
theorem Literal.WellFormed.getLast?_ne (h : l.WellFormed) : l.chars.getLast? ≠ some 'e' := by
  have hwellFormed := h.suffix
  rw [l.front_suffix]
  intro hlast
  cases hs : l.suffix with
  | none =>
    -- Without a suffix the front stands last, and nothing in it is a letter.
    rw [hs, Suffix.chars, List.append_nil] at hlast
    rcases h.front_cases (List.mem_of_getLast? hlast) with hc | hc | hc | hc <;>
      exact absurd hc (by decide)
  | binary unit =>
    rw [hs] at hlast
    simp [Suffix.chars] at hlast
  | decimal unit =>
    rw [hs] at hlast
    cases unit <;> simp [Suffix.chars, DecimalUnit.letter] at hlast
  | exponent capital sign digits =>
    -- A power of ten ends with a digit.
    rw [hs] at hwellFormed hlast
    rw [Suffix.chars, ← List.append_assoc, List.getLast?_append_of_ne_nil _ hwellFormed.2] at hlast
    exact absurd (hwellFormed.1 'e' (List.mem_of_getLast? hlast)) (by decide)

theorem read?_bareSuffix (sign : Sign) (suffix : Suffix) :
    Literal.read? (sign.chars ++ suffix.chars) = none := by
  obtain ⟨hdigit, hsign, -⟩ := suffix.outside_chars
  -- Neither digits nor a point are found before the suffix.
  have hnone : Digits [] := fun c hc => absurd hc List.not_mem_nil
  have hwhole : suffix.chars.takeWhile Text.isDecimalDigit = [] :=
    takeWhile_of_outside hnone hdigit
  have hbehind : suffix.chars.dropWhile Text.isDecimalDigit = suffix.chars :=
    dropWhile_of_outside hnone hdigit
  have hpoint : Literal.splitPoint suffix.chars = (none, suffix.chars) :=
    @Literal.splitPoint_chars none hnone suffix
  rw [Literal.read?_eq, Sign.split_chars sign hsign]
  simp [hwhole, hbehind, hpoint]

/-- A text of such a shape is no quantity. -/
theorem not_splits_of_malformed {cs : List Char} (h : Malformed cs) (l : Literal) :
    ¬ l.Splits (Text.ofChars cs) := by
  rintro ⟨hwellFormed, hwritten⟩
  -- What is written determines its characters, so each fault can be looked for in a literal.
  have hcs : cs = l.chars := by
    have hchars := Text.chars?_ofChars cs
    rw [hwritten, Text.chars?_ofChars] at hchars
    exact (Option.some.inj hchars).symm
  cases h with
  | blank hc hblank =>
    rw [hcs] at hc
    rw [hwellFormed.not_isBlank hc] at hblank
    cases hblank
  | bareSuffix sign suffix =>
    have hread := read?_bareSuffix sign suffix
    rw [hcs, Literal.read?_chars hwellFormed] at hread
    cases hread
  | lonePower front =>
    apply hwellFormed.getLast?_ne
    rw [← hcs, List.getLast?_concat]
  | twoSuffixes front hfirst hsecond =>
    -- A literal has one letter of a suffix at most, and here there are two.
    have hcount := hwellFormed.countP_isSuffixLetter
    have hone := Suffix.one_le_countP hfirst
    have htwo := Suffix.one_le_countP hsecond
    rw [← hcs, List.countP_append, List.countP_append] at hcount
    omega

/-! ## Integers, and the whole of it -/

theorem parse_int_eq_ok_iff {n : Int} {q : Rat} :
    parse (.int n) = .ok q ↔ |n| ≤ 2 ^ 63 - 1 ∧ q = n := by
  rw [parse_int_eq]
  split
  next hbound =>
    constructor
    · intro h
      exact ⟨hbound, (Except.ok.inj h).symm⟩
    · rintro ⟨-, rfl⟩
      rfl
  next hbound => exact ⟨fun h => absurd h refuse_ne_ok, fun h => absurd h.1 hbound⟩

/-- An integer beyond the bound is refused if it has a text. -/
theorem parse_int_eq_refused_iff {n : Int} {cause : QuantityError} :
    parse (.int n) = .error (.refused cause) ↔
      2 ^ 63 - 1 < |n| ∧ |n| < 10 ^ 4300 ∧ cause = .tooLarge (.int n) := by
  rw [← Json.isWritable_int_iff_abs, parse_int_eq]
  split
  next hbound => exact ⟨nofun, fun h => absurd hbound (not_le.mpr h.1)⟩
  next hbound =>
    -- Beyond 64 bits it depends on the message: it holds the text of the integer, if there is one.
    cases hwritable : (Json.int n).isWritable with
    | false =>
      rw [refuse_of_not_isWritable hwritable]
      exact ⟨nofun, fun h => absurd h.2.1 (by decide)⟩
    | true =>
      rw [refuse_of_isWritable hwritable]
      constructor
      · rintro ⟨⟩
        exact ⟨not_le.mp hbound, rfl, rfl⟩
      · rintro ⟨-, -, rfl⟩
        rfl

theorem parse_int_eq_unshown_iff {n : Int} :
    parse (.int n) = .error .unshown ↔ 10 ^ 4300 ≤ |n| := by
  rw [parse_eq_unshown_iff, Bool.eq_false_iff, ne_eq, Json.isWritable_int_iff_abs, not_lt]

/-- A text is a quantity exactly when it splits into parts with a power of ten in range and a
denotation within 64 bits, and then it is this denotation; no text has two splits.  An integer is
itself within 64 bits.  Everything else of the two kinds is refused for its one reason, but for
integers of more than 4300 digits: these fail without one. -/
theorem parse_accepts_exactly_quantities (s : Text) (n : Int) :
    (∀ q, parse (.str s) = .ok q ↔
      ∃ l : Literal, l.Splits s ∧ l.suffix.InBounds ∧ |l.denotation| ≤ 2 ^ 63 - 1 ∧
        q = l.denotation) ∧
    (∀ l l' : Literal, l.Splits s → l'.Splits s → l = l') ∧
    (∀ failure, parse (.str s) = .error failure ↔
      ∃ cause, Refused s cause ∧ failure = .refused cause) ∧
    (∀ q, parse (.int n) = .ok q ↔ |n| ≤ 2 ^ 63 - 1 ∧ q = n) ∧
    (∀ cause, parse (.int n) = .error (.refused cause) ↔
      2 ^ 63 - 1 < |n| ∧ |n| < 10 ^ 4300 ∧ cause = .tooLarge (.int n)) ∧
    (parse (.int n) = .error .unshown ↔ 10 ^ 4300 ≤ |n|) ∧
    (∀ cs, s = Text.ofChars cs → Malformed cs →
      parse (.str s) = .error (.refused (.invalid (.str s)))) := by
  refine ⟨fun _ => parse_str_eq_ok_iff, fun _ _ => Literal.Splits.unique,
    fun _ => parse_str_eq_error_iff, fun _ => parse_int_eq_ok_iff,
    fun _ => parse_int_eq_refused_iff, parse_int_eq_unshown_iff, ?_⟩
  rintro cs rfl hmalformed
  exact parse_of_not_splits (not_splits_of_malformed hmalformed)

/-- The parts of +1.5Ki. -/
def kibiLiteral : Literal := ⟨.plus, ['1'], some ['5'], .binary .ki⟩

theorem parse_kibiLiteral :
    kibiLiteral.Splits "+1.5Ki" ∧ Malformed ['1', 'k', '\n'] ∧
    parse (.str "+1.5Ki") = .ok 1536 ∧
    (∀ l' : Literal, l'.Splits "+1.5Ki" → kibiLiteral = l') ∧
    parse (.str (Text.ofChars ['1', 'k', '\n'])) =
      .error (.refused (.invalid (.str (Text.ofChars ['1', 'k', '\n'])))) := by
  have hsplits : kibiLiteral.Splits "+1.5Ki" :=
    ⟨⟨.pointed (by decide) (by decide) (by decide), trivial⟩, rfl⟩
  have hnewline : Malformed ['1', 'k', '\n'] := .blank (c := '\n') (by decide) (by decide)
  have hvalue : kibiLiteral.denotation = 1536 := by
    have hone : Text.digitsValue ['1'] = 1 := by decide
    have hfive : Text.digitsValue ['5'] = 5 := by decide
    simp only [Literal.denotation, Literal.mantissa, Literal.fractionDigits, kibiLiteral,
      Option.getD_some, hone, hfive, Sign.factor, Suffix.factor, BinaryUnit.power]
    norm_num
  obtain ⟨haccepts, hunique, -⟩ := parse_accepts_exactly_quantities "+1.5Ki" 0
  -- The second text is refused, so a theorem about any text is asked about both.
  obtain ⟨-, -, -, -, -, -, hmalformed⟩ :=
    parse_accepts_exactly_quantities (Text.ofChars ['1', 'k', '\n']) 0
  refine ⟨hsplits, hnewline, ?_, fun l' h => hunique _ _ hsplits h, hmalformed _ rfl hnewline⟩
  rw [haccepts]
  refine ⟨kibiLiteral, hsplits, trivial, ?_, hvalue.symm⟩
  rw [hvalue]
  norm_num

/-- An integer of 4301 digits, far beyond 64 bits, is not refused with an error of its own. -/
theorem integer_of_4301_digits_unshown :
    (10 : Int) ^ 4300 > 2 ^ 63 - 1 ∧ parse (.int (10 ^ 4300)) = .error .unshown := by
  have hlong := lt_abs_of_not_isWritable Json.isWritable_tenToThe4300
  rw [abs_of_nonneg (by positivity)] at hlong
  exact ⟨hlong, parse_eq_unshown_iff.mpr Json.isWritable_tenToThe4300⟩

end Quantity

end AdmissionControl
