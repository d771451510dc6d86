/-
  Text.

  A text is a sequence of symbols.  Most symbols are Unicode characters; but a string of JSON may
  also hold half of a surrogate pair that stands without the other half, and no `String` can.
  Every `String` is a text, and a text without such halves is a `String`.  Texts are compared by
  the code points of their symbols.
-/

namespace AdmissionControl

/-- A symbol of a text: a character, or half of a surrogate pair that stands alone. -/
inductive Symbol where
  | char (c : Char)
  /-- Half of a surrogate pair, counted from the first of them. -/
  | half (offset : Fin 2048)
  deriving DecidableEq

namespace Symbol

def code : Symbol → Nat
  | .char c => c.toNat
  | .half offset => 0xd800 + offset.val

/-- The symbol of a code point, if that is in the range of Unicode. -/
def ofCode? (n : Nat) : Option Symbol :=
  if 0xd800 ≤ n ∧ n < 0xe000 then some (.half (Fin.ofNat 2048 (n - 0xd800)))
  else if n < 0x110000 then some (.char (Char.ofNat n))
  else none

/-- The character that a symbol is. -/
def char? : Symbol → Option Char
  | .char c => some c
  | .half _ => none

/-- The character that the two halves of a surrogate pair make together. -/
def pair? : Symbol → Symbol → Option Char
  | .half high, .half low =>
    if high.val < 0x400 && 0x400 ≤ low.val then
      some (Char.ofNat (0x10000 + high.val * 0x400 + (low.val - 0x400)))
    else none
  | _, _ => none

theorem ofCode?_code (s : Symbol) : ofCode? s.code = some s := by
  cases s with
  | char c =>
    have hc : c.toNat < 0xd800 ∨ 0xdfff < c.toNat ∧ c.toNat < 0x110000 := c.valid
    have hn : ¬ (0xd800 ≤ c.toNat ∧ c.toNat < 0xe000) := by omega
    have hm : c.toNat < 0x110000 := by omega
    rw [code, ofCode?, if_neg hn, if_pos hm, Char.ofNat_toNat]
  | half offset =>
    have h := offset.isLt
    have hn : 0xd800 ≤ 0xd800 + offset.val ∧ 0xd800 + offset.val < 0xe000 := by omega
    rw [code, ofCode?, if_pos hn, Nat.add_sub_cancel_left]
    simp

theorem code_inj {s t : Symbol} (h : s.code = t.code) : s = t := by
  have hs := ofCode?_code s
  rw [h, ofCode?_code t] at hs
  exact (Option.some.inj hs).symm

end Symbol

instance : Coe Char Symbol := ⟨.char⟩

/-- A sequence of symbols. -/
structure Text where
  symbols : List Symbol
  deriving DecidableEq

namespace Text

def ofChars (cs : List Char) : Text := ⟨cs.map .char⟩

def ofString (s : String) : Text := ofChars s.toList

instance : Coe String Text := ⟨ofString⟩

/-- The characters of a text, if all its symbols are characters. -/
def chars? (t : Text) : Option (List Char) := t.symbols.mapM Symbol.char?

/-- The string that a text is, if all its symbols are characters. -/
def string? (t : Text) : Option String := t.chars?.map String.ofList

/-- The string in which a replacement character stands for every half of a surrogate pair. -/
def display (t : Text) : String := String.ofList (t.symbols.map fun s => s.char?.getD '\ufffd')

/-- The text with three replacement characters, one for each byte of its UTF-8 form, in the place of
every half of a surrogate pair. -/
def replaced (t : Text) : Text :=
  ⟨t.symbols.flatMap fun
    | .char c => [.char c]
    | .half _ => List.replicate 3 (.char '\ufffd')⟩

def isEmpty (t : Text) : Bool := t.symbols.isEmpty

theorem isEmpty_iff {t : Text} : t.isEmpty = true ↔ t = "" := by
  obtain ⟨symbols⟩ := t
  rw [isEmpty, List.isEmpty_iff]
  exact ⟨congrArg mk, congrArg Text.symbols⟩

def append (t u : Text) : Text := ⟨t.symbols ++ u.symbols⟩

instance : Append Text := ⟨append⟩

/-- Texts one behind another, with a separator between them. -/
def intercalate (separator : Text) (parts : List Text) : Text :=
  ⟨separator.symbols.intercalate (parts.map symbols)⟩

def codes (t : Text) : List Nat := t.symbols.map Symbol.code

/-- Whether a list of numbers comes before another one, or is the same: the first difference
counts, and a list comes before its continuations. -/
def notAfter : List Nat → List Nat → Bool
  | [], _ => true
  | _ :: _, [] => false
  | a :: as, b :: bs => Nat.blt a b || (Nat.beq a b && notAfter as bs)

/-- The order of texts by code points. -/
instance : LE Text := ⟨fun t u => notAfter t.codes u.codes = true⟩

instance (t u : Text) : Decidable (t ≤ u) :=
  inferInstanceAs (Decidable (notAfter t.codes u.codes = true))

theorem notAfter_cons {a b : Nat} {as bs : List Nat} :
    notAfter (a :: as) (b :: bs) = true ↔ a < b ∨ a = b ∧ notAfter as bs = true := by
  simp [notAfter]

theorem notAfter_antisymm {as bs : List Nat} (h : notAfter as bs = true)
    (h' : notAfter bs as = true) : as = bs := by
  induction as generalizing bs with
  | nil => cases bs with
    | nil => rfl
    | cons b bs => simp [notAfter] at h'
  | cons a as ih => cases bs with
    | nil => simp [notAfter] at h
    | cons b bs =>
      rw [notAfter_cons] at h h'
      have hab : a = b := by omega
      have ht : as = bs := by
        apply ih
        · rcases h with h | h
          · omega
          · exact h.2
        · rcases h' with h' | h'
          · omega
          · exact h'.2
      rw [hab, ht]

theorem notAfter_trans {as bs cs : List Nat} (h : notAfter as bs = true)
    (h' : notAfter bs cs = true) : notAfter as cs = true := by
  induction as generalizing bs cs with
  | nil => rfl
  | cons a as ih => cases bs with
    | nil => simp [notAfter] at h
    | cons b bs => cases cs with
      | nil => simp [notAfter] at h'
      | cons c cs =>
        rw [notAfter_cons] at h h' ⊢
        rcases h with h | ⟨h, hs⟩
        · left; omega
        · rcases h' with h' | ⟨h', hs'⟩
          · left; omega
          · right; exact ⟨h.trans h', ih hs hs'⟩

theorem notAfter_total (as bs : List Nat) : notAfter as bs = true ∨ notAfter bs as = true := by
  induction as generalizing bs with
  | nil => left; rfl
  | cons a as ih => cases bs with
    | nil => right; rfl
    | cons b bs =>
      rw [notAfter_cons, notAfter_cons]
      rcases Nat.lt_trichotomy a b with h | h | h
      · exact .inl (.inl h)
      · rcases ih bs with ht | ht
        · exact .inl (.inr ⟨h, ht⟩)
        · exact .inr (.inr ⟨h.symm, ht⟩)
      · exact .inr (.inl h)

theorem chars?_ofChars (cs : List Char) : (ofChars cs).chars? = some cs := by
  induction cs with
  | nil => rfl
  | cons c cs ih =>
    simp only [chars?, ofChars, List.map_cons] at ih ⊢
    simp [List.mapM_cons, ih, Symbol.char?]

theorem eq_ofChars_of_chars? {t : Text} {cs : List Char} (h : t.chars? = some cs) :
    t = ofChars cs := by
  obtain ⟨symbols⟩ := t
  induction symbols generalizing cs with
  | nil =>
    cases h
    rfl
  | cons s rest ih =>
    simp only [chars?, List.mapM_cons] at h ih
    cases s with
    | half offset => cases h
    | char c =>
      cases hrest : rest.mapM Symbol.char? with
      | none => simp [Symbol.char?, hrest] at h
      | some cs' =>
        simp [Symbol.char?, hrest] at h
        subst h
        simpa [ofChars] using ih hrest

theorem exists_ofChars {t : Text} (h : t.string?.isSome = true) : ∃ cs, t = ofChars cs := by
  obtain ⟨_, hstring⟩ := Option.isSome_iff_exists.mp h
  obtain ⟨cs, hchars, -⟩ := Option.map_eq_some_iff.mp hstring
  exact ⟨cs, eq_ofChars_of_chars? hchars⟩

theorem string?_ofString (s : String) : (ofString s).string? = some s := by
  simp [string?, ofString, chars?_ofChars]

theorem ofString_inj {s t : String} (h : ofString s = ofString t) : s = t := by
  have hs := string?_ofString s
  rw [h, string?_ofString t] at hs
  exact (Option.some.inj hs).symm

theorem codes_inj {t u : Text} (h : t.codes = u.codes) : t = u := by
  obtain ⟨ts⟩ := t
  obtain ⟨us⟩ := u
  simp only [codes] at h
  rw [List.map_inj_right fun _ _ => Symbol.code_inj] at h
  rw [h]

theorem le_antisymm {t u : Text} (h : t ≤ u) (h' : u ≤ t) : t = u :=
  codes_inj (notAfter_antisymm h h')

theorem le_trans {t u v : Text} (h : t ≤ u) (h' : u ≤ v) : t ≤ v := notAfter_trans h h'

theorem le_total (t u : Text) : t ≤ u ∨ u ≤ t := notAfter_total t.codes u.codes

end Text

end AdmissionControl
