/-
  AdmissionControl.Proofs.Text.Encoding

  Text sent as UTF-8 is received as that text.

  The encoding form of some bytes is guessed from a mark before them and from the zero bytes among
  the first four.  Bytes of UTF-8 are never those of another form's mark, and they are zero only for
  the character zero; so the guess is right for a text that does not begin with the mark and has no
  character zero (`decode?_utf8`).
-/

import AdmissionControl.Proofs.Text.Percent
import AdmissionControl.Text.Encoding

namespace AdmissionControl.Text

/-- The bytes of a character are not zero, unless that is the character, and none of them occurs in
the marks of the other encoding forms. -/
theorem bytes_utf8Char {c : Char} (hc : c ≠ '\x00') :
    ∀ byte ∈ utf8Char c, 0 < byte.toNat ∧ byte.toNat < 0xfe := by
  have hvalid : c.toNat < 0x110000 := by
    have h : c.toNat < 0xd800 ∨ 0xdfff < c.toNat ∧ c.toNat < 0x110000 := c.valid
    omega
  have hpos : 0 < c.toNat := by
    refine Nat.pos_of_ne_zero fun hzero => hc ?_
    rw [← Char.ofNat_toNat c, hzero]
  -- A byte below 0xfe is as it was computed.
  have hbyte (n : Nat) (hlow : 0 < n) (hhigh : n < 0xfe) :
      0 < (UInt8.ofNat n).toNat ∧ (UInt8.ofNat n).toNat < 0xfe := by
    rw [toNat_ofNat_of_lt (by omega)]
    exact ⟨hlow, hhigh⟩
  have hval : c.val.toNat = c.toNat := rfl
  -- One byte to four, each of them within its own bounds.
  unfold utf8Char String.utf8EncodeChar
  rw [hval]
  intro byte hmem
  dsimp only at hmem
  split at hmem
  · obtain rfl := List.mem_singleton.mp hmem
    exact hbyte _ hpos (by omega)
  · split at hmem
    · simp only [List.mem_cons, List.not_mem_nil, or_false] at hmem
      rcases hmem with rfl | rfl
      · exact hbyte _ (by omega) (by omega)
      · exact hbyte _ (by omega) (by omega)
    · split at hmem
      · simp only [List.mem_cons, List.not_mem_nil, or_false] at hmem
        rcases hmem with rfl | rfl | rfl
        · exact hbyte _ (by omega) (by omega)
        · exact hbyte _ (by omega) (by omega)
        · exact hbyte _ (by omega) (by omega)
      · simp only [List.mem_cons, List.not_mem_nil, or_false] at hmem
        rcases hmem with rfl | rfl | rfl | rfl
        · exact hbyte _ (by omega) (by omega)
        · exact hbyte _ (by omega) (by omega)
        · exact hbyte _ (by omega) (by omega)
        · exact hbyte _ (by omega) (by omega)

theorem ofZeros_eq_utf8 {bytes : List UInt8} (h : ∀ byte ∈ bytes, byte ≠ 0) :
    EncodingForm.ofZeros bytes = .utf8 := by
  unfold EncodingForm.ofZeros
  split
  next a b =>
    have ha : a ≠ 0 := h a (by simp)
    have hb : b ≠ 0 := h b (by simp)
    simp [ha, hb]
  next a b c d rest =>
    have ha : a ≠ 0 := h a (by simp)
    have hb : b ≠ 0 := h b (by simp)
    simp [ha, hb]
  next => rfl

/-- Bytes without zeros and without marks are taken for UTF-8. -/
theorem detect_eq_utf8 {bytes : List UInt8}
    (hbytes : ∀ byte ∈ bytes, 0 < byte.toNat ∧ byte.toNat < 0xfe)
    (hmark : ∀ rest, bytes ≠ 0xef :: 0xbb :: 0xbf :: rest) :
    EncodingForm.detect bytes = (.utf8, bytes) := by
  -- A mark is the one of UTF-8, or has a byte that no character has.
  have hmarks : ∀ entry ∈ EncodingForm.marks,
      entry.1 = [0xef, 0xbb, 0xbf] ∨ (0 : UInt8) ∈ entry.1 ∨ (0xfe : UInt8) ∈ entry.1 := by
    simp [EncodingForm.marks]
  have hnone : EncodingForm.marks.find? (fun entry => entry.1.isPrefixOf bytes) = none := by
    rw [List.find?_eq_none]
    intro entry hentry hprefix
    obtain ⟨rest, rfl⟩ := List.isPrefixOf_iff_prefix.mp hprefix
    rcases hmarks entry hentry with heq | hzero | hfe
    · exact hmark rest (by rw [heq]; rfl)
    · exact absurd (hbytes 0 (List.mem_append_left _ hzero)).1 (by decide)
    · exact absurd (hbytes 0xfe (List.mem_append_left _ hfe)).2 (by decide)
  have hzeros : EncodingForm.ofZeros bytes = .utf8 := by
    refine ofZeros_eq_utf8 fun byte hmem hzero => ?_
    rw [hzero] at hmem
    exact absurd (hbytes 0 hmem).1 (by decide)
  rw [EncodingForm.detect, hnone]
  exact congrArg (·, bytes) hzeros

/-- The code points of UTF-8 bytes are those of the characters. -/
theorem utf8Codes_utf8 (halves : Bool) (cs : List Char) :
    utf8Codes halves (utf8 cs) = cs.map fun c => some c.toNat := by
  induction cs with
  | nil => simp [utf8, utf8Codes]
  | cons c cs ih =>
    rw [utf8, List.flatMap_cons, utf8Codes_utf8Char, List.map_cons]
    exact congrArg _ ih

theorem ofUtf8?_utf8 (cs : List Char) : ofUtf8? (utf8 cs) = some (cs.map Symbol.char) := by
  rw [ofUtf8?, utf8Codes_utf8]
  induction cs with
  | nil => rfl
  | cons c cs ih =>
    have hc : Symbol.ofCode? c.toNat = some (.char c) := Symbol.ofCode?_code (.char c)
    rw [List.map_cons, List.mapM_cons, ih, Option.bind_some, hc]
    rfl

/-- The text of UTF-8 bytes, where no mark and no character zero misleads. -/
theorem decode?_utf8 {cs : List Char} (hmark : cs.head? ≠ some '\ufeff') (hzero : '\x00' ∉ cs) :
    decode? (utf8 cs) = some (.ofChars cs) := by
  have hbytes : ∀ byte ∈ utf8 cs, 0 < byte.toNat ∧ byte.toNat < 0xfe := by
    intro byte hmem
    obtain ⟨c, hc, hbyte⟩ := List.mem_flatMap.mp hmem
    exact bytes_utf8Char (by rintro rfl; exact hzero hc) byte hbyte
  have hno : ∀ rest, utf8 cs ≠ 0xef :: 0xbb :: 0xbf :: rest := by
    -- The mark is the UTF-8 of a character, which would then be the first.
    intro rest h
    have hfirst := congrArg (fun bytes => (utf8Codes true bytes).head?) h
    have hcodes : utf8Codes true (0xef :: 0xbb :: 0xbf :: rest) =
        some 0xfeff :: utf8Codes true rest :=
      utf8Codes_utf8Char '\ufeff' rest
    rw [hcodes, utf8Codes_utf8] at hfirst
    cases cs with
    | nil => simp at hfirst
    | cons c cs =>
      have hcode : c.toNat = 0xfeff := by simpa using hfirst
      have hc : c = '\ufeff' := by
        rw [← Char.ofNat_toNat c, hcode]
      exact hmark (congrArg some hc)
  rw [decode?, detect_eq_utf8 hbytes hno]
  show (ofUtf8? (utf8 cs)).map Text.mk = _
  rw [ofUtf8?_utf8]
  rfl

end AdmissionControl.Text
