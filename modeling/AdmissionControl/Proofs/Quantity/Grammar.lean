/-
  AdmissionControl.Proofs.Quantity.Grammar

  The language of quantities, apart from the reader.

  `Literal.WellFormed` says which parts make a quantity: a mantissa of digits with at most one point
  among or around them, and behind it at most one suffix.  The reader takes exactly the texts of
  such parts apart (`Literal.read?_chars`, `Literal.of_read?`), so no text has two splits
  (`Literal.WellFormed.chars_inj`).

  Each part ends where the next begins: digits before a point or a letter, and a sign before a digit
  or a point.  `Outside` states this of the first character of what follows.
-/

import AdmissionControl.Quantity.Basic
import Mathlib.Data.List.TakeWhile

namespace AdmissionControl.Quantity

/-! ## Where a run of characters ends -/

/-- Some characters are empty or begin with one outside of a class. -/
def Outside (p : Char → Bool) (cs : List Char) : Prop := ∀ c ∈ cs.head?, p c = false

theorem outside_nil (p : Char → Bool) : Outside p [] := by
  simp [Outside]

theorem outside_cons {p : Char → Bool} {c : Char} {cs : List Char} :
    Outside p (c :: cs) ↔ p c = false := by
  simp [Outside]

/-- Behind characters that are not empty there can stand anything. -/
theorem Outside.append {p : Char → Bool} {front behind : List Char} (hfront : Outside p front)
    (hbehind : front = [] → Outside p behind) : Outside p (front ++ behind) := by
  cases front with
  | nil => exact hbehind rfl
  | cons c rest => exact outside_cons.mpr (outside_cons.mp hfront)

theorem takeWhile_of_outside {p : Char → Bool} {run behind : List Char}
    (hrun : ∀ c ∈ run, p c = true) (hbehind : Outside p behind) :
    (run ++ behind).takeWhile p = run := by
  rw [List.takeWhile_append_of_pos hrun]
  cases behind with
  | nil => simp
  | cons c rest => simp [outside_cons.mp hbehind]

theorem dropWhile_of_outside {p : Char → Bool} {run behind : List Char}
    (hrun : ∀ c ∈ run, p c = true) (hbehind : Outside p behind) :
    (run ++ behind).dropWhile p = behind := by
  rw [List.dropWhile_append_of_pos hrun]
  cases behind with
  | nil => rfl
  | cons c rest => simp [outside_cons.mp hbehind]

/-! ## Signs -/

/-- The characters of the two signs. -/
def isSign (c : Char) : Bool := c == '+' || c == '-'

theorem Sign.split_chars (sign : Sign) {behind : List Char} (h : Outside isSign behind) :
    Sign.split (sign.chars ++ behind) = (sign, behind) := by
  cases sign with
  | plus => rfl
  | minus => rfl
  | none =>
    -- Without a sign, the first character behind must not look like one.
    cases behind with
    | nil => rfl
    | cons c rest =>
      have hc := outside_cons.mp h
      simp only [isSign, Bool.or_eq_false_iff, beq_eq_false_iff_ne] at hc
      simp only [Sign.chars, List.nil_append]
      unfold Sign.split
      split
      next heq => exact absurd (List.cons.inj heq).1 hc.1
      next heq => exact absurd (List.cons.inj heq).1 hc.2
      next => rfl

theorem Sign.chars_split (cs : List Char) :
    (Sign.split cs).1.chars ++ (Sign.split cs).2 = cs := by
  unfold Sign.split
  split <;> rfl

/-! ## Parts of a quantity -/

/-- Characters that are decimal digits. -/
def Digits (cs : List Char) : Prop := ∀ c ∈ cs, Text.isDecimalDigit c = true

instance (cs : List Char) : Decidable (Digits cs) :=
  List.decidableBAll (fun c => Text.isDecimalDigit c = true) cs

/-- A digit is no sign. -/
theorem Digits.outside_isSign {cs : List Char} (h : Digits cs) : Outside isSign cs := by
  cases cs with
  | nil => exact outside_nil _
  | cons c rest =>
    have hc := h c List.mem_cons_self
    rw [outside_cons, isSign, Bool.or_eq_false_iff, beq_eq_false_iff_ne, beq_eq_false_iff_ne]
    constructor
    · rintro rfl
      exact absurd hc (by decide)
    · rintro rfl
      exact absurd hc (by decide)

/-- The digits before and behind the point of a number: digits without a point, digits with a point
behind or among them, or a point before digits. -/
inductive Mantissa : List Char → Option (List Char) → Prop where
  | whole {whole : List Char} : Digits whole → whole ≠ [] → Mantissa whole none
  | pointed {whole fraction : List Char} : Digits whole → whole ≠ [] → Digits fraction →
      Mantissa whole (some fraction)
  | fraction {fraction : List Char} : Digits fraction → fraction ≠ [] →
      Mantissa [] (some fraction)

/-- A power of ten has digits; every other suffix is one of finitely many. -/
def Suffix.WellFormed : Suffix → Prop
  | .exponent _ _ digits => Digits digits ∧ digits ≠ []
  | _ => True

/-- The parts of a quantity. -/
structure Literal.WellFormed (l : Literal) : Prop where
  mantissa : Mantissa l.whole l.fraction
  suffix : l.suffix.WellFormed

/-- A text splits into the parts of a quantity. -/
structure Literal.Splits (l : Literal) (s : Text) : Prop where
  wellFormed : l.WellFormed
  written : s = Text.ofChars l.chars

theorem Mantissa.digits {whole : List Char} {fraction : Option (List Char)}
    (h : Mantissa whole fraction) : Digits whole ∧ Digits (fraction.getD []) := by
  cases h with
  | whole hwhole _ => exact ⟨hwhole, by simp [Digits]⟩
  | pointed hwhole _ hfraction => exact ⟨hwhole, hfraction⟩
  | fraction hfraction _ => exact ⟨by simp [Digits], hfraction⟩

theorem Mantissa.not_empty {whole : List Char} {fraction : Option (List Char)}
    (h : Mantissa whole fraction) : (whole.isEmpty && (fraction.getD []).isEmpty) = false := by
  cases h with
  | whole _ hne => simp [hne]
  | pointed _ hne _ => simp [hne]
  | fraction _ hne => simp [hne]

/-- Digits around at most one point, not all of them absent, are a mantissa. -/
theorem mantissa_of_digits {whole : List Char} {fraction : Option (List Char)}
    (hwhole : Digits whole) (hfraction : Digits (fraction.getD []))
    (hne : ¬ (whole.isEmpty && (fraction.getD []).isEmpty) = true) : Mantissa whole fraction := by
  cases fraction with
  | none => exact .whole hwhole fun h => hne (by simp [h])
  | some fraction =>
    by_cases hempty : whole = []
    · subst hempty
      exact .fraction hfraction fun h => hne (by simp [h])
    · exact .pointed hwhole hempty hfraction

/-! ## Suffixes -/

/-- The letters that a suffix begins with. -/
def isSuffixLetter (c : Char) : Bool :=
  ['K', 'M', 'G', 'T', 'P', 'E', 'n', 'u', 'm', 'k', 'e'].contains c

namespace Suffix

/-- A suffix begins with one of its letters, if there is one. -/
theorem chars_eq (suffix : Suffix) :
    suffix = .none ∨ ∃ c rest, suffix.chars = c :: rest ∧ isSuffixLetter c = true := by
  cases suffix with
  | none => exact .inl rfl
  | binary unit => exact .inr ⟨_, _, rfl, by cases unit <;> rfl⟩
  | decimal unit => exact .inr ⟨_, _, rfl, by cases unit <;> rfl⟩
  | exponent capital sign digits => exact .inr ⟨_, _, rfl, by cases capital <;> rfl⟩

theorem not_digit_of_isSuffixLetter {c : Char} (h : isSuffixLetter c = true) :
    Text.isDecimalDigit c = false ∧ c ≠ '.' ∧ isSign c = false := by
  simp only [isSuffixLetter, List.contains_iff_mem, List.mem_cons, List.not_mem_nil, or_false] at h
  rcases h with rfl | rfl | rfl | rfl | rfl | rfl | rfl | rfl | rfl | rfl | rfl <;> decide

/-- Neither digits nor a sign go on into a suffix. -/
theorem outside_chars (suffix : Suffix) :
    Outside Text.isDecimalDigit suffix.chars ∧ Outside isSign suffix.chars ∧
      ∀ c ∈ suffix.chars.head?, c ≠ '.' := by
  rcases suffix.chars_eq with rfl | ⟨c, rest, hchars, hletter⟩
  · simp [chars, Outside]
  · obtain ⟨hdigit, hpoint, hsign⟩ := not_digit_of_isSuffixLetter hletter
    rw [hchars]
    exact ⟨outside_cons.mpr hdigit, outside_cons.mpr hsign, by simpa using hpoint⟩

theorem readExponent?_chars (capital : Bool) (sign : Sign) {digits : List Char}
    (hdigits : Digits digits) (hne : digits ≠ []) :
    readExponent? capital (sign.chars ++ digits) = some (.exponent capital sign digits) := by
  have hall : digits.all Text.isDecimalDigit = true := List.all_eq_true.mpr hdigits
  simp [readExponent?, Sign.split_chars sign hdigits.outside_isSign, hall, hne]

/-- A letter e with something behind it that is no i begins a power of ten. -/
theorem read?_exponent {capital : Bool} {behind : List Char} (hne : behind ≠ [])
    (hi : behind ≠ ['i']) :
    read? ((if capital then 'E' else 'e') :: behind) = readExponent? capital behind := by
  cases capital <;>
  · simp only [Bool.false_eq_true, if_true, if_false]
    rw [read?]
    · exact hne
    · exact hi

/-- A suffix reads back from its characters. -/
theorem read?_chars {suffix : Suffix} (h : suffix.WellFormed) :
    read? suffix.chars = some suffix := by
  cases suffix with
  | none => rfl
  | binary unit => cases unit <;> rfl
  | decimal unit => cases unit <;> rfl
  | exponent capital sign digits =>
    obtain ⟨hdigits, hne⟩ := h
    have hpower : sign.chars ++ digits ≠ [] := by simp [hne]
    -- The last character is a digit, so what is behind the letter is not the i of a binary unit.
    have hi : sign.chars ++ digits ≠ ['i'] := by
      intro heq
      have hlast : 'i' ∈ digits := by
        have hget := List.getLast_append_of_ne_nil hpower hne
        simp only [heq, List.getLast_singleton] at hget
        rw [hget]
        exact List.getLast_mem hne
      exact absurd (hdigits 'i' hlast) (by decide)
    rw [chars, List.cons_append, read?_exponent hpower hi]
    exact readExponent?_chars capital sign hdigits hne

theorem of_readExponent? {capital : Bool} {cs : List Char} {suffix : Suffix}
    (h : readExponent? capital cs = some suffix) :
    suffix.WellFormed ∧ suffix.chars = (if capital then 'E' else 'e') :: cs := by
  simp only [readExponent?] at h
  split at h
  next hdigits =>
    simp only [Bool.and_eq_true, Bool.not_eq_true', List.isEmpty_eq_false_iff,
      List.all_eq_true] at hdigits
    obtain rfl := Option.some.inj h
    refine ⟨⟨hdigits.2, hdigits.1⟩, ?_⟩
    rw [chars, List.cons_append, Sign.chars_split]
  next => cases h

/-- What is read as a suffix is well formed, and its characters are those that were read. -/
theorem of_read? {cs : List Char} {suffix : Suffix} (h : read? cs = some suffix) :
    suffix.WellFormed ∧ suffix.chars = cs := by
  unfold read? at h
  split at h
  · obtain rfl := Option.some.inj h
    exact ⟨trivial, rfl⟩
  · obtain ⟨unit, hunit, rfl⟩ := Option.map_eq_some_iff.mp h
    have hletter := List.find?_some hunit
    exact ⟨trivial, by rw [chars, beq_iff_eq.mp hletter]⟩
  · obtain ⟨unit, hunit, rfl⟩ := Option.map_eq_some_iff.mp h
    have hletter := List.find?_some hunit
    exact ⟨trivial, by rw [chars, beq_iff_eq.mp hletter]⟩
  · exact of_readExponent? h
  · exact of_readExponent? h
  · cases h

end Suffix

/-! ## Literals -/

namespace Literal

/-- The point with the digits behind it, if there is one. -/
def pointChars (fraction : Option (List Char)) : List Char := (fraction.map ('.' :: ·)).getD []

theorem chars_eq (l : Literal) :
    l.chars = l.sign.chars ++ (l.whole ++ (pointChars l.fraction ++ l.suffix.chars)) := by
  simp [chars, pointChars, List.append_assoc]

/-- What is behind the whole digits begins with a point, or it is the suffix. -/
theorem outside_pointChars (fraction : Option (List Char)) (suffix : Suffix) :
    Outside Text.isDecimalDigit (pointChars fraction ++ suffix.chars) ∧
      Outside isSign (pointChars fraction ++ suffix.chars) := by
  obtain ⟨hdigit, hsign, -⟩ := suffix.outside_chars
  cases fraction with
  | none => exact ⟨hdigit, hsign⟩
  | some fraction => exact ⟨outside_cons.mpr (by decide), outside_cons.mpr (by decide)⟩

/-- The digits behind a point, or none without one, and what is behind them. -/
def splitPoint (behind : List Char) : Option (List Char) × List Char :=
  match behind with
  | '.' :: tail =>
    (some (tail.takeWhile Text.isDecimalDigit), tail.dropWhile Text.isDecimalDigit)
  | _ => (none, behind)

theorem splitPoint_chars {fraction : Option (List Char)} (hdigits : Digits (fraction.getD []))
    (suffix : Suffix) :
    splitPoint (pointChars fraction ++ suffix.chars) = (fraction, suffix.chars) := by
  obtain ⟨hdigit, -, hpoint⟩ := suffix.outside_chars
  cases fraction with
  | some fraction =>
    rw [Option.getD_some] at hdigits
    show (some ((fraction ++ suffix.chars).takeWhile _),
      (fraction ++ suffix.chars).dropWhile _) = _
    rw [takeWhile_of_outside hdigits hdigit, dropWhile_of_outside hdigits hdigit]
  | none =>
    show splitPoint suffix.chars = _
    unfold splitPoint
    split
    next tail hchars =>
      -- No suffix begins with a point.
      exact absurd rfl (hpoint '.' (by simp [hchars]))
    next => rfl

theorem pointChars_splitPoint (behind : List Char) :
    pointChars (splitPoint behind).1 ++ (splitPoint behind).2 = behind := by
  unfold splitPoint
  split
  · simp [pointChars, List.takeWhile_append_dropWhile]
  · rfl

theorem digits_splitPoint (behind : List Char) : Digits ((splitPoint behind).1.getD []) := by
  unfold splitPoint
  split
  · exact fun c hc => List.mem_takeWhile_imp hc
  · simp [Digits]

theorem read?_eq (cs : List Char) :
    read? cs =
      let whole := (Sign.split cs).2.takeWhile Text.isDecimalDigit
      let point := splitPoint ((Sign.split cs).2.dropWhile Text.isDecimalDigit)
      if whole.isEmpty && (point.1.getD []).isEmpty then none
      else (Suffix.read? point.2).map (⟨(Sign.split cs).1, whole, point.1, ·⟩) := by
  rfl

/-- A literal reads back from its characters. -/
theorem read?_chars {l : Literal} (h : l.WellFormed) : read? l.chars = some l := by
  obtain ⟨sign, whole, fraction, suffix⟩ := l
  obtain ⟨hmantissa, hsuffix⟩ := h
  simp only at hmantissa hsuffix
  obtain ⟨hwhole, hfraction⟩ := hmantissa.digits
  obtain ⟨hbehind, hbehindsign⟩ := outside_pointChars fraction suffix
  have hsign : Outside isSign (whole ++ (pointChars fraction ++ suffix.chars)) :=
    hwhole.outside_isSign.append fun _ => hbehindsign
  rw [read?_eq, chars_eq, Sign.split_chars sign hsign]
  simp only [takeWhile_of_outside hwhole hbehind, dropWhile_of_outside hwhole hbehind,
    splitPoint_chars hfraction suffix, hmantissa.not_empty, Suffix.read?_chars hsuffix,
    Bool.false_eq_true, if_false, Option.map_some]

/-- What is read is well formed, and its characters are those that were read. -/
theorem of_read? {cs : List Char} {l : Literal} (h : read? cs = some l) :
    l.WellFormed ∧ l.chars = cs := by
  rw [read?_eq] at h
  simp only at h
  split at h
  next => cases h
  next hne =>
    obtain ⟨suffix, hsuffix, rfl⟩ := Option.map_eq_some_iff.mp h
    obtain ⟨hwellFormed, hchars⟩ := Suffix.of_read? hsuffix
    refine ⟨⟨mantissa_of_digits (fun c hc => List.mem_takeWhile_imp hc) (digits_splitPoint _) hne,
      hwellFormed⟩, ?_⟩
    rw [chars_eq]
    simp only [hchars, pointChars_splitPoint, List.takeWhile_append_dropWhile, Sign.chars_split]

/-- Parts with the same characters are the same. -/
theorem WellFormed.chars_inj {l l' : Literal} (h : l.WellFormed) (h' : l'.WellFormed)
    (heq : l.chars = l'.chars) : l = l' := by
  have hread := read?_chars h
  rw [heq, read?_chars h'] at hread
  exact (Option.some.inj hread).symm

end Literal

end AdmissionControl.Quantity
