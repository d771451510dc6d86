/-
  AdmissionControl.Proofs.Text.Percent

  What percent encoding keeps of a text.

  The encoding of a path leaves a percent sign as it is.  So decoding undoes it exactly for a text
  without an escape of its own (`percentDecode_encode_iff`).  Where there is none, the text comes
  back character by character, since each character is read from its UTF-8 bytes whatever bytes
  follow (`utf8Codes_utf8Char`).  An escape takes three characters and gives one byte, and one byte
  more makes at most one character more (`length_charsOfUtf8_cons`); so with an escape the decoded
  text is shorter.
-/

import AdmissionControl.Text.Percent

namespace AdmissionControl.Text

/-! ## Characters from their bytes -/

theorem toNat_ofNat_of_lt {n : Nat} (h : n < 256) : (UInt8.ofNat n).toNat = n := by
  rw [UInt8.toNat_ofNat']
  exact Nat.mod_eq_of_lt h

/-- A byte within its bounds gives six more bits. -/
theorem continueUtf8_ofNat {value low high count n : Nat} {rest : List UInt8} (hn : n < 64)
    (hlow : low ≤ n + 128) (hhigh : n + 128 ≤ high) :
    continueUtf8 value low high (count + 1) (UInt8.ofNat (n + 128) :: rest) =
      continueUtf8 (value * 0x40 + n) 0x80 0xbf count rest := by
  have hbyte : (UInt8.ofNat (n + 128)).toNat = n + 128 := toNat_ofNat_of_lt (by omega)
  have hbits : (n + 128) % 0x40 = n := by omega
  rw [continueUtf8, hbyte, hbits, if_pos (by simp [hlow, hhigh])]

section Characters

variable {halves : Bool}

/-- A lead and the bytes that continue it are one code point. -/
theorem utf8Codes_of_lead {n code : Nat} {lead : Utf8Lead} {rest bytes : List UInt8}
    (hn : 0xc2 ≤ n ∧ n < 0xf5) (hlead : Utf8Lead.ofByte? halves (UInt8.ofNat n) = some lead)
    (hcode : continueUtf8 lead.bits lead.low lead.high lead.count rest = (some code, bytes)) :
    utf8Codes halves (UInt8.ofNat n :: rest) = some code :: utf8Codes halves bytes := by
  have hbyte : (UInt8.ofNat n).toNat = n := toNat_ofNat_of_lt (by omega)
  rw [utf8Codes, hbyte, if_neg (by omega), hlead]
  simp only [hcode]

theorem ofByte?_two {n : Nat} (hlow : 0xc2 ≤ n) (hhigh : n < 0xe0) :
    Utf8Lead.ofByte? halves (UInt8.ofNat n) = some ⟨n - 0xc0, 0x80, 0xbf, 1⟩ := by
  have hbyte : (UInt8.ofNat n).toNat = n := toNat_ofNat_of_lt (by omega)
  simp only [Utf8Lead.ofByte?, hbyte]
  rw [if_neg (by omega), if_pos hhigh]

theorem ofByte?_three {n : Nat} (hlow : 0xe0 ≤ n) (hhigh : n < 0xf0) :
    Utf8Lead.ofByte? halves (UInt8.ofNat n) = some ⟨n - 0xe0, if n = 0xe0 then 0xa0 else 0x80,
      if n = 0xed && !halves then 0x9f else 0xbf, 2⟩ := by
  have hbyte : (UInt8.ofNat n).toNat = n := toNat_ofNat_of_lt (by omega)
  simp only [Utf8Lead.ofByte?, hbyte]
  rw [if_neg (by omega), if_neg (by omega), if_pos hhigh]

theorem ofByte?_four {n : Nat} (hlow : 0xf0 ≤ n) (hhigh : n < 0xf5) :
    Utf8Lead.ofByte? halves (UInt8.ofNat n) = some ⟨n - 0xf0, if n = 0xf0 then 0x90 else 0x80,
      if n = 0xf4 then 0x8f else 0xbf, 3⟩ := by
  have hbyte : (UInt8.ofNat n).toNat = n := toNat_ofNat_of_lt (by omega)
  simp only [Utf8Lead.ofByte?, hbyte]
  rw [if_neg (by omega), if_neg (by omega), if_neg (by omega), if_pos hhigh]

theorem utf8Codes_two {v : Nat} (hlow : 0x80 ≤ v) (hhigh : v < 0x800) (bytes : List UInt8) :
    utf8Codes halves (UInt8.ofNat (v / 64 % 32 + 192) :: UInt8.ofNat (v % 64 + 128) :: bytes) =
      some v :: utf8Codes halves bytes := by
  refine utf8Codes_of_lead (by omega) (ofByte?_two (by omega) (by omega)) ?_
  have hcode : (v / 64 % 32 + 192 - 192) * 64 + v % 64 = v := by omega
  rw [continueUtf8_ofNat (by omega) (by dsimp only; omega) (by dsimp only; omega), hcode]
  rfl

/-- The bounds of the second byte hold: the code point is not too small for three bytes, and no half
of a surrogate pair. -/
theorem utf8Codes_three {v : Nat} (hlow : 0x800 ≤ v) (hhigh : v < 0x10000)
    (hhalf : v < 0xd800 ∨ 0xdfff < v) (bytes : List UInt8) :
    utf8Codes halves (UInt8.ofNat (v / 4096 % 16 + 224) :: UInt8.ofNat (v / 64 % 64 + 128) ::
      UInt8.ofNat (v % 64 + 128) :: bytes) = some v :: utf8Codes halves bytes := by
  refine utf8Codes_of_lead (by omega) (ofByte?_three (by omega) (by omega)) ?_
  have hcode : ((v / 4096 % 16 + 224 - 224) * 64 + v / 64 % 64) * 64 + v % 64 = v := by omega
  have hbound : v / 64 % 64 + 128 ≤
      if v / 4096 % 16 + 224 = 0xed && !halves then 0x9f else 0xbf := by
    simp only [Bool.and_eq_true, decide_eq_true_eq]
    split <;> omega
  rw [continueUtf8_ofNat (by omega) (by dsimp only; split <;> omega) hbound,
    continueUtf8_ofNat (by omega) (by omega) (by omega), hcode]
  rfl

/-- The bounds of the second byte hold: the code point is not too small for four bytes, and in
range. -/
theorem utf8Codes_four {v : Nat} (hlow : 0x10000 ≤ v) (hhigh : v < 0x110000)
    (bytes : List UInt8) :
    utf8Codes halves (UInt8.ofNat (v / 262144 % 8 + 240) :: UInt8.ofNat (v / 4096 % 64 + 128) ::
      UInt8.ofNat (v / 64 % 64 + 128) :: UInt8.ofNat (v % 64 + 128) :: bytes) =
      some v :: utf8Codes halves bytes := by
  refine utf8Codes_of_lead (by omega) (ofByte?_four (by omega) (by omega)) ?_
  have hcode : (((v / 262144 % 8 + 240 - 240) * 64 + v / 4096 % 64) * 64 + v / 64 % 64) * 64 +
      v % 64 = v := by omega
  rw [continueUtf8_ofNat (by omega) (by dsimp only; split <;> omega)
      (by dsimp only; split <;> omega),
    continueUtf8_ofNat (by omega) (by omega) (by omega),
    continueUtf8_ofNat (by omega) (by omega) (by omega), hcode]
  rfl

/-- Whatever bytes follow, a character is read from its own. -/
theorem utf8Codes_utf8Char (c : Char) (bytes : List UInt8) :
    utf8Codes halves (utf8Char c ++ bytes) = some c.toNat :: utf8Codes halves bytes := by
  have hvalid : c.toNat < 0xd800 ∨ 0xdfff < c.toNat ∧ c.toNat < 0x110000 := c.valid
  have hval : c.val.toNat = c.toNat := rfl
  unfold utf8Char String.utf8EncodeChar
  rw [hval]
  dsimp only
  -- One case for each number of bytes.
  by_cases hone : c.toNat ≤ 127
  · have hbyte : (UInt8.ofNat c.toNat).toNat = c.toNat := toNat_ofNat_of_lt (by omega)
    rw [if_pos hone, List.singleton_append, utf8Codes, hbyte, if_pos (by omega)]
  · rw [if_neg hone]
    by_cases htwo : c.toNat ≤ 2047
    · rw [if_pos htwo]
      exact utf8Codes_two (by omega) (by omega) bytes
    · rw [if_neg htwo]
      by_cases hthree : c.toNat ≤ 65535
      · rw [if_pos hthree]
        exact utf8Codes_three (by omega) (by omega) (by omega) bytes
      · rw [if_neg hthree]
        exact utf8Codes_four (by omega) (by omega) bytes

end Characters

theorem charsOfUtf8_utf8Char (c : Char) (bytes : List UInt8) :
    charsOfUtf8 (utf8Char c ++ bytes) = c :: charsOfUtf8 bytes := by
  rw [charsOfUtf8, utf8Codes_utf8Char, List.map_cons, Option.map_some, Option.getD_some,
    Char.ofNat_toNat]
  rfl

/-! ## The number of characters -/

/-- A byte that only continues a character makes one of its own. -/
theorem length_utf8Codes_continuation {byte : UInt8} (hlow : 0x80 ≤ byte.toNat)
    (hhigh : byte.toNat ≤ 0xbf) (rest : List UInt8) :
    (utf8Codes false (byte :: rest)).length = (utf8Codes false rest).length + 1 := by
  have hnone : Utf8Lead.ofByte? false byte = none := by
    simp only [Utf8Lead.ofByte?]
    rw [if_pos (by omega)]
  rw [utf8Codes, if_neg (by omega), hnone, List.length_cons]

/-- The bytes behind a character are not more characters than with those that continue it. -/
theorem length_utf8Codes_continueUtf8 {value low high count : Nat} {bytes : List UInt8}
    (hlow : 0x80 ≤ low) (hhigh : high ≤ 0xbf) :
    (utf8Codes false (continueUtf8 value low high count bytes).2).length ≤
      (utf8Codes false bytes).length := by
  induction count generalizing value low high bytes with
  | zero => exact Nat.le_refl _
  | succ count ih =>
    cases bytes with
    | nil => exact Nat.le_refl _
    | cons byte rest =>
      rw [continueUtf8]
      split
      · next hinside =>
        rw [Bool.and_eq_true, decide_eq_true_eq, decide_eq_true_eq] at hinside
        -- A continuation byte that is read would have been a character by itself.
        have hone := length_utf8Codes_continuation (by omega : 0x80 ≤ byte.toNat) (by omega) rest
        have hrest := @ih (value * 0x40 + byte.toNat % 0x40) 0x80 0xbf rest (Nat.le_refl _)
          (Nat.le_refl _)
        omega
      · exact Nat.le_refl _

theorem bounds_of_ofByte? {byte : UInt8} {lead : Utf8Lead}
    (h : Utf8Lead.ofByte? false byte = some lead) : 0x80 ≤ lead.low ∧ lead.high ≤ 0xbf := by
  -- A lead of two, three or four bytes; some of them bound the byte behind them more closely.
  simp only [Utf8Lead.ofByte?] at h
  split at h
  · cases h
  · split at h
    · rw [Option.some.injEq] at h
      subst h
      exact ⟨Nat.le_refl _, Nat.le_refl _⟩
    · split at h
      · rw [Option.some.injEq] at h
        subst h
        constructor <;> dsimp only <;> split <;> omega
      · split at h
        · rw [Option.some.injEq] at h
          subst h
          constructor <;> dsimp only <;> split <;> omega
        · cases h

/-- One byte more makes at most one character more. -/
theorem length_charsOfUtf8_cons (byte : UInt8) (bytes : List UInt8) :
    (charsOfUtf8 (byte :: bytes)).length ≤ (charsOfUtf8 bytes).length + 1 := by
  rw [charsOfUtf8, charsOfUtf8, List.length_map, List.length_map, utf8Codes]
  split
  · exact Nat.le_refl _
  · split
    · exact Nat.le_refl _
    · next lead hlead =>
      obtain ⟨hlow, hhigh⟩ := bounds_of_ofByte? hlead
      rw [List.length_cons]
      exact Nat.succ_le_succ (length_utf8Codes_continueUtf8 hlow hhigh)

/-! ## Bytes from percent encoding -/

theorem hexValue?_digitChar : ∀ n < 16, hexValue? (Nat.digitChar n).toUpper = some n := by decide

theorem percentBytes_percentByte (byte : UInt8) (cs : List Char) :
    percentBytes (percentByte byte ++ cs) = byte :: percentBytes cs := by
  have hbound : byte.toNat < 256 := byte.toNat_lt
  have hhigh := hexValue?_digitChar (byte.toNat / 16) (by omega)
  have hlow := hexValue?_digitChar (byte.toNat % 16) (by omega)
  have hbyte : 16 * (byte.toNat / 16) + byte.toNat % 16 = byte.toNat := by omega
  simp only [percentByte, List.cons_append, List.nil_append, percentBytes, hhigh, hlow]
  rw [hbyte, UInt8.ofNat_toNat]

theorem percentBytes_flatMap (bytes : List UInt8) (cs : List Char) :
    percentBytes (bytes.flatMap percentByte ++ cs) = bytes ++ percentBytes cs := by
  induction bytes with
  | nil => rfl
  | cons byte rest ih =>
    rw [List.flatMap_cons, List.append_assoc, percentBytes_percentByte, ih, List.cons_append]

/-- Whether a text begins with a hexadecimal digit. -/
def beginsDigit : List Char → Bool
  | [] => false
  | c :: _ => (hexValue? c).isSome

/-- Whether a text begins with two hexadecimal digits. -/
def beginsDigits : List Char → Bool
  | [] => false
  | c :: rest => (hexValue? c).isSome && beginsDigit rest

/-- Whether a text begins with a percent sign and two hexadecimal digits. -/
def beginsEscape : List Char → Bool
  | [] => false
  | c :: rest => c == '%' && beginsDigits rest

/-- Whether a percent sign and two hexadecimal digits stand anywhere in a text. -/
def hasEscape : List Char → Bool
  | [] => false
  | c :: rest => beginsEscape (c :: rest) || hasEscape rest

/-- A character that begins no escape stands for itself. -/
theorem percentBytes_cons {c : Char} {rest : List Char} (h : beginsEscape (c :: rest) = false) :
    percentBytes (c :: rest) = utf8Char c ++ percentBytes rest := by
  by_cases hc : c = '%'
  · subst hc
    -- A percent sign with fewer than two characters behind it begins no escape.
    match rest with
    | [] => rfl
    | [high] => rfl
    | high :: low :: more =>
      simp only [beginsEscape, beginsDigits, beginsDigit, BEq.rfl, Bool.true_and] at h
      rw [percentBytes]
      split
      · next hhigh hlow =>
        rw [hhigh, hlow] at h
        cases h
      · rfl
  · rw [percentBytes]
    intro high low more hpercent
    exact absurd hpercent hc

/-- An escape stands for one byte. -/
theorem percentBytes_escape {c : Char} {rest : List Char} (h : beginsEscape (c :: rest) = true) :
    ∃ high low more byte, rest = high :: low :: more ∧ c = '%' ∧
      (hexValue? high).isSome ∧ (hexValue? low).isSome ∧
      ∀ cs, percentBytes (c :: high :: low :: cs) = byte :: percentBytes cs := by
  rw [beginsEscape, Bool.and_eq_true, beq_iff_eq] at h
  obtain ⟨rfl, hdigits⟩ := h
  -- Two digits must stand behind the percent sign.
  match rest, hdigits with
  | [], hdigits => cases hdigits
  | [high], hdigits => simp [beginsDigits, beginsDigit] at hdigits
  | high :: low :: more, hdigits =>
    rw [beginsDigits, beginsDigit, Bool.and_eq_true] at hdigits
    obtain ⟨h, hhigh⟩ := Option.isSome_iff_exists.mp hdigits.1
    obtain ⟨l, hlow⟩ := Option.isSome_iff_exists.mp hdigits.2
    refine ⟨high, low, more, UInt8.ofNat (16 * h + l), rfl, rfl, hdigits.1, hdigits.2, ?_⟩
    intro cs
    simp only [percentBytes, hhigh, hlow]

/-! ## Encoded paths -/

theorem percentEncode_cons (safe : Char → Bool) (c : Char) (rest : List Char) :
    percentEncode safe (c :: rest) =
      (if safe c then [c] else (utf8Char c).flatMap percentByte) ++ percentEncode safe rest := rfl

/-- An encoded byte begins with a percent sign, and a character has a byte. -/
theorem percentByte_utf8Char (c : Char) :
    ∃ rest, (utf8Char c).flatMap percentByte = '%' :: rest := by
  cases hbytes : utf8Char c with
  | nil => exact absurd hbytes String.utf8EncodeChar_ne_nil
  | cons byte rest => exact ⟨_, rfl⟩

theorem isPathSafe_of_hexValue? {c : Char} (h : (hexValue? c).isSome) : isPathSafe c = true := by
  rw [isPathSafe, isVisibleExcept, Bool.and_eq_true, Bool.and_eq_true, decide_eq_true_eq,
    decide_eq_true_eq, Bool.not_eq_true', List.contains_eq_mem, decide_eq_false_iff_not]
  -- Digits and the letters up to f, so none of the characters that are excepted.
  have hbounds : 48 ≤ c.toNat ∧ c.toNat ≤ 57 ∨ 65 ≤ c.toNat ∧ c.toNat ≤ 70 ∨
      97 ≤ c.toNat ∧ c.toNat ≤ 102 := by
    simp only [hexValue?, Char.isDigit, Bool.and_eq_true, decide_eq_true_eq] at h
    split at h
    · next hdigit => exact .inl ⟨hdigit.1, hdigit.2⟩
    · split at h
      · next hlower => exact .inr (.inr ⟨hlower.1, hlower.2⟩)
      · split at h
        · next hupper => exact .inr (.inl ⟨hupper.1, hupper.2⟩)
        · cases h
  refine ⟨⟨by omega, by omega⟩, fun hmem => ?_⟩
  simp only [List.mem_cons, List.not_mem_nil, or_false] at hmem
  rcases hmem with rfl | rfl | rfl | rfl | rfl | rfl | rfl | rfl <;> revert hbounds <;> decide

theorem hexValue?_of_not_isPathSafe {c : Char} (h : ¬ isPathSafe c = true) :
    (hexValue? c).isSome = false :=
  Bool.eq_false_iff.mpr fun hdigit => h (isPathSafe_of_hexValue? hdigit)

/-- The encoding of a path begins with a hexadecimal digit where the path does. -/
theorem beginsDigit_percentEncode (cs : List Char) :
    beginsDigit (percentEncode isPathSafe cs) = beginsDigit cs := by
  cases cs with
  | nil => rfl
  | cons c rest =>
    rw [percentEncode_cons]
    split
    · rfl
    · next hunsafe =>
      -- The percent sign of an encoded character is no digit, and neither is the character.
      obtain ⟨more, hbytes⟩ := percentByte_utf8Char c
      rw [hbytes, List.cons_append, beginsDigit, beginsDigit, hexValue?_of_not_isPathSafe hunsafe]
      rfl

theorem beginsDigits_percentEncode (cs : List Char) :
    beginsDigits (percentEncode isPathSafe cs) = beginsDigits cs := by
  cases cs with
  | nil => rfl
  | cons c rest =>
    rw [percentEncode_cons]
    split
    · rw [List.singleton_append, beginsDigits, beginsDigits, beginsDigit_percentEncode]
    · next hunsafe =>
      obtain ⟨more, hbytes⟩ := percentByte_utf8Char c
      rw [hbytes, List.cons_append, beginsDigits, beginsDigits,
        hexValue?_of_not_isPathSafe hunsafe]
      rfl

@[simp] theorem percentDecode_nil : percentDecode [] = [] := by
  rw [percentDecode, percentBytes, charsOfUtf8, utf8Codes, List.map_nil]

/-- A character that begins no escape comes back from the encoding. -/
theorem percentDecode_encode_cons {c : Char} {rest : List Char}
    (h : beginsEscape (c :: rest) = false) :
    percentDecode (percentEncode isPathSafe (c :: rest)) =
      c :: percentDecode (percentEncode isPathSafe rest) := by
  rw [percentEncode_cons, percentDecode, percentDecode, ← charsOfUtf8_utf8Char]
  split
  · have hbegin : beginsEscape (c :: percentEncode isPathSafe rest) = false := by
      rw [beginsEscape, beginsDigits_percentEncode]
      exact h
    rw [List.singleton_append, percentBytes_cons hbegin]
  · rw [percentBytes_flatMap]

/-- An escape is decoded to one byte, which makes one character at most. -/
theorem length_percentDecode_encode_escape {c : Char} {rest : List Char}
    (h : beginsEscape (c :: rest) = true) :
    ∃ high low more, rest = high :: low :: more ∧
      (percentDecode (percentEncode isPathSafe (c :: rest))).length ≤
        (percentDecode (percentEncode isPathSafe more)).length + 1 := by
  obtain ⟨high, low, more, byte, rfl, rfl, hhigh, hlow, hbytes⟩ := percentBytes_escape h
  refine ⟨high, low, more, rfl, ?_⟩
  have hencoded : percentEncode isPathSafe ('%' :: high :: low :: more) =
      '%' :: high :: low :: percentEncode isPathSafe more := by
    have hpercent : isPathSafe '%' = true := by decide
    rw [percentEncode_cons, percentEncode_cons, percentEncode_cons, if_pos hpercent,
      if_pos (isPathSafe_of_hexValue? hhigh), if_pos (isPathSafe_of_hexValue? hlow)]
    rfl
  rw [hencoded, percentDecode, hbytes]
  exact length_charsOfUtf8_cons byte _

theorem length_percentDecode_encode_le (cs : List Char) :
    (percentDecode (percentEncode isPathSafe cs)).length ≤ cs.length := by
  match cs with
  | [] => simp [percentEncode]
  | c :: rest =>
    -- An escape takes three characters and comes to one byte.
    cases hbegin : beginsEscape (c :: rest) with
    | false =>
      rw [percentDecode_encode_cons hbegin, List.length_cons, List.length_cons]
      exact Nat.succ_le_succ (length_percentDecode_encode_le rest)
    | true =>
      obtain ⟨high, low, more, rfl, hlength⟩ := length_percentDecode_encode_escape hbegin
      have hmore := length_percentDecode_encode_le more
      simp only [List.length_cons]
      omega
termination_by cs.length

/-- An escape makes the decoded text shorter. -/
theorem length_percentDecode_encode_lt {cs : List Char} (h : hasEscape cs = true) :
    (percentDecode (percentEncode isPathSafe cs)).length < cs.length := by
  induction cs with
  | nil => cases h
  | cons c rest ih =>
    -- The first escape makes the text shorter, and nothing behind it makes up for that.
    cases hbegin : beginsEscape (c :: rest) with
    | false =>
      rw [hasEscape, hbegin, Bool.false_or] at h
      rw [percentDecode_encode_cons hbegin, List.length_cons, List.length_cons]
      exact Nat.succ_lt_succ (ih h)
    | true =>
      obtain ⟨high, low, more, rfl, hlength⟩ := length_percentDecode_encode_escape hbegin
      have hmore := length_percentDecode_encode_le more
      simp only [List.length_cons]
      omega

/-- A path comes back from its encoding exactly when no escape is in it. -/
theorem percentDecode_encode_iff (cs : List Char) :
    percentDecode (percentEncode isPathSafe cs) = cs ↔ hasEscape cs = false := by
  constructor
  · intro hsame
    refine Bool.eq_false_iff.mpr fun hescape => ?_
    -- An escape is decoded, and what was written is shorter by then.
    have hless := length_percentDecode_encode_lt hescape
    rw [hsame] at hless
    exact Nat.lt_irrefl _ hless
  · intro hnone
    induction cs with
    | nil => exact percentDecode_nil
    | cons c rest ih =>
      rw [hasEscape, Bool.or_eq_false_iff] at hnone
      rw [percentDecode_encode_cons hnone.1, ih hnone.2]

/-! ## The characters of an encoding -/

theorem mem_percentByte {byte : UInt8} {c : Char} (h : c ∈ percentByte byte) :
    c = '%' ∨ (hexValue? c).isSome := by
  have hbound : byte.toNat < 256 := byte.toNat_lt
  have hhigh := hexValue?_digitChar (byte.toNat / 16) (by omega)
  have hlow := hexValue?_digitChar (byte.toNat % 16) (by omega)
  simp only [percentByte, List.mem_cons, List.not_mem_nil, or_false] at h
  rcases h with rfl | rfl | rfl
  · exact .inl rfl
  · exact .inr (by rw [hhigh]; rfl)
  · exact .inr (by rw [hlow]; rfl)

/-- An encoding has the safe characters of the text, percent signs and digits. -/
theorem mem_percentEncode {safe : Char → Bool} {cs : List Char} {c : Char}
    (h : c ∈ percentEncode safe cs) :
    c ∈ cs ∧ safe c = true ∨ c = '%' ∨ (hexValue? c).isSome := by
  obtain ⟨d, hd, hc⟩ := List.mem_flatMap.mp h
  split at hc
  · next hsafe =>
    obtain rfl := List.mem_singleton.mp hc
    exact .inl ⟨hd, hsafe⟩
  · obtain ⟨byte, -, hbyte⟩ := List.mem_flatMap.mp hc
    exact .inr (mem_percentByte hbyte)

theorem isPathSafe_of_mem_percentEncode {cs : List Char} {c : Char}
    (h : c ∈ percentEncode isPathSafe cs) : isPathSafe c = true := by
  rcases mem_percentEncode h with ⟨-, hsafe⟩ | rfl | hdigit
  · exact hsafe
  · decide
  · exact isPathSafe_of_hexValue? hdigit

/-- An encoding without a percent sign is the text itself. -/
theorem eq_of_percentEncode {safe : Char → Bool} {cs ds : List Char}
    (h : percentEncode safe cs = ds) (hpercent : '%' ∉ ds) : cs = ds := by
  subst h
  induction cs with
  | nil => rfl
  | cons c rest ih =>
    rw [percentEncode_cons, List.mem_append, not_or] at hpercent
    have hrest := ih hpercent.2
    split at hpercent
    · next hsafe => rw [percentEncode_cons, if_pos hsafe, List.singleton_append, ← hrest]
    · obtain ⟨more, hbytes⟩ := percentByte_utf8Char c
      rw [hbytes] at hpercent
      exact absurd List.mem_cons_self hpercent.1

/-- What is safe already is its own encoding. -/
theorem percentEncode_of_safe {safe : Char → Bool} {cs : List Char} (h : ∀ c ∈ cs, safe c = true) :
    percentEncode safe cs = cs := by
  induction cs with
  | nil => rfl
  | cons c rest ih =>
    rw [List.forall_mem_cons] at h
    rw [percentEncode_cons, if_pos h.1, ih h.2, List.singleton_append]

theorem percentEncode_append (safe : Char → Bool) (cs ds : List Char) :
    percentEncode safe (cs ++ ds) = percentEncode safe cs ++ percentEncode safe ds :=
  List.flatMap_append

/-! ## Segments -/

/-- What stands before the first separator joins the first part behind it. -/
theorem splitOn_append_of_not_mem {separator : Char} {cs : List Char} (h : separator ∉ cs)
    (rest : List Char) :
    (cs ++ rest).splitOn separator = (rest.splitOn separator).modifyHead (cs ++ ·) := by
  induction cs with
  | nil =>
    rw [List.nil_append]
    cases rest.splitOn separator <;> rfl
  | cons c more ih =>
    rw [List.mem_cons, not_or] at h
    have hc : (c == separator) = false := beq_eq_false_iff_ne.mpr fun heq => h.1 heq.symm
    rw [List.cons_append, List.splitOn_cons_eq_if_modifyHead, hc, ih h.2]
    cases rest.splitOn separator <;> rfl

/-- The segments of an encoded path are those of the path, encoded. -/
theorem splitOn_percentEncode (cs : List Char) :
    (percentEncode isPathSafe cs).splitOn '/' =
      (cs.splitOn '/').map (percentEncode isPathSafe) := by
  induction cs with
  | nil => rfl
  | cons c rest ih =>
    rw [percentEncode_cons, List.splitOn_cons_eq_if_modifyHead]
    by_cases hslash : c = '/'
    · subst hslash
      rw [if_pos BEq.rfl, List.map_cons, ← ih]
      exact List.splitOn_cons_eq_if_modifyHead '/' _
    · -- What is written for another character holds no slash.
      have hpiece : '/' ∉ (if isPathSafe c then [c] else (utf8Char c).flatMap percentByte) := by
        intro hmem
        have hencoded : '/' ∈ percentEncode isPathSafe [c] := by
          rw [percentEncode_cons]
          exact List.mem_append_left _ hmem
        rcases mem_percentEncode hencoded with ⟨hmem, -⟩ | hpercent | hdigit
        · exact hslash (List.mem_singleton.mp hmem).symm
        · cases hpercent
        · cases hdigit
      have hother : ¬ (c == '/') = true := fun heq => hslash (beq_iff_eq.mp heq)
      rw [splitOn_append_of_not_mem hpiece, ih, if_neg hother]
      cases rest.splitOn '/' <;> rfl

end AdmissionControl.Text
