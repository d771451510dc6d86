/-
  AdmissionControl.Proofs.Json.Tokens

  Printed words and strings are read as the tokens that they are.

  The scanner and the reader run together, so what is shown of each piece of text is which tokens
  the reader is fed behind it: `Progress.read` goes on from any scanner and reader to the end of the
  text, and each lemma moves it over one piece.  A word is complete only where the next character
  ends it; `EndsWord` states this of what follows.  A string is read character by character, and
  `StringScan.Holds` says how far; a character beyond the first plane may come as two escapes, which
  the scanner puts together.
-/

import AdmissionControl.Json.Printer
import AdmissionControl.Json.Reader
import AdmissionControl.Proofs.Number.Printed
import Mathlib.Data.List.TakeWhile

namespace AdmissionControl.Json

/-! ## Reading on from a state -/

/-- The value of the characters that remain, from a state of the scanner and the reader on. -/
def Progress.read (depth : Nat) (progress : Progress) (cs : List Char) : Except JsonError Json :=
  ((cs.map Symbol.char).foldlM (Progress.step depth) progress).bind (Progress.finish depth)

theorem ofText_ofChars (depth : Nat) (cs : List Char) :
    ofText depth (.ofChars cs) = Progress.read depth {} cs := rfl

section Steps

variable {depth : Nat} {scan next : Scan} {reading : Reading} {c : Char} {cs rest : List Char}
  {token : Token}

theorem read_of_stepChar {tokens : List Token} (h : scan.stepChar c = some (tokens, next)) :
    Progress.read depth ⟨scan, reading⟩ (c :: cs) =
      (tokens.foldlM (Reading.step depth) reading).bind fun reading' =>
        Progress.read depth ⟨next, reading'⟩ cs := by
  have hstep : scan.step (.char c) = some (tokens, next) := h
  rw [Progress.read, List.map_cons, List.foldlM_cons, Progress.step]
  simp only [hstep, Progress.feed]
  cases tokens.foldlM (Reading.step depth) reading <;> rfl

/-- A character that finishes no token. -/
theorem read_silent (h : scan.stepChar c = some ([], next)) :
    Progress.read depth ⟨scan, reading⟩ (c :: cs) = Progress.read depth ⟨next, reading⟩ cs :=
  read_of_stepChar h

/-- A character that finishes one token. -/
theorem read_token (h : scan.stepChar c = some ([token], next)) :
    Progress.read depth ⟨scan, reading⟩ (c :: cs) =
      (reading.step depth token).bind fun reading' => Progress.read depth ⟨next, reading'⟩ cs := by
  rw [read_of_stepChar h, List.foldlM_cons]
  cases reading.step depth token <;> rfl

theorem read_separators {blanks : List Char} (h : ∀ c ∈ blanks, isSeparator c = true) :
    Progress.read depth ⟨.between, reading⟩ (blanks ++ rest) =
      Progress.read depth ⟨.between, reading⟩ rest := by
  induction blanks with
  | nil => rfl
  | cons c blanks ih =>
    have hstep : Scan.between.stepChar c = some ([], .between) := by
      simp [Scan.stepChar, startToken, h c List.mem_cons_self]
    rw [List.cons_append, read_silent hstep]
    exact ih fun d hd => h d (List.mem_cons_of_mem _ hd)

end Steps

/-! ## Words -/

/-- Some characters are empty or begin with one that ends a word. -/
def EndsWord (cs : List Char) : Prop := ∀ c ∈ cs.head?, endsWord c = true

theorem endsWord_nil : EndsWord [] := by simp [EndsWord]

theorem endsWord_cons {c : Char} {cs : List Char} : EndsWord (c :: cs) ↔ endsWord c = true := by
  simp [EndsWord]

/-- Behind separators nothing changes where a word ends. -/
theorem EndsWord.separators {blanks rest : List Char} (hblanks : ∀ c ∈ blanks, isSeparator c = true)
    (hrest : EndsWord rest) : EndsWord (blanks ++ rest) := by
  cases blanks with
  | nil => exact hrest
  | cons c blanks =>
    rw [List.cons_append, endsWord_cons, endsWord, hblanks c List.mem_cons_self]
    rfl

section Words

variable {depth : Nat} {reading : Reading} {word chars rest : List Char}

/-- Between tokens, a character that ends no word begins one. -/
theorem stepChar_between_of_word {c : Char} (h : endsWord c = false) :
    Scan.between.stepChar c = some ([], .word [c]) := by
  simp only [endsWord, Bool.or_eq_false_iff, beq_eq_false_iff_ne, ne_eq,
    Option.isSome_eq_false_iff, Option.isNone_iff_eq_none] at h
  obtain ⟨⟨hblank, hquote⟩, hpunctuation⟩ := h
  simp [Scan.stepChar, startToken, hblank, hquote, hpunctuation]

theorem read_restOfWord (hword : ∀ c ∈ word, endsWord c = false) (hrest : EndsWord rest) :
    Progress.read depth ⟨.word chars, reading⟩ (word ++ rest) =
      (reading.step depth (.word (readWord (chars.reverse ++ word)))).bind fun reading' =>
        Progress.read depth ⟨.between, reading'⟩ rest := by
  induction word generalizing chars with
  | nil =>
    rw [List.nil_append, List.append_nil]
    cases rest with
    | nil =>
      -- The end of the text finishes the word.
      show (Progress.feed depth reading (some [wordToken chars])).bind Reading.result = _
      rw [Progress.feed, List.foldlM_cons, wordToken]
      cases reading.step depth (.word (readWord chars.reverse)) <;> rfl
    | cons c rest =>
      have hstep : (Scan.word chars).stepChar c =
          some (wordToken chars :: (startToken c).1, (startToken c).2) := by
        rw [Scan.stepChar, if_pos (endsWord_cons.mp hrest)]
      have hbetween : Scan.between.stepChar c = some ((startToken c).1, (startToken c).2) := rfl
      rw [read_of_stepChar hstep, List.foldlM_cons, wordToken]
      cases reading.step depth (.word (readWord chars.reverse)) with
      | error error => rfl
      | ok reading' => exact (read_of_stepChar hbetween).symm
  | cons c word ih =>
    have hstep : (Scan.word chars).stepChar c = some ([], .word (c :: chars)) := by
      rw [Scan.stepChar, if_neg (by rw [hword c List.mem_cons_self]; decide)]
    rw [List.cons_append, read_silent hstep, ih fun d hd => hword d (List.mem_cons_of_mem _ hd),
      List.reverse_cons, List.append_assoc]
    rfl

/-- A word is one token, if what follows ends it. -/
theorem read_word (hne : word ≠ []) (hword : ∀ c ∈ word, endsWord c = false)
    (hrest : EndsWord rest) :
    Progress.read depth ⟨.between, reading⟩ (word ++ rest) =
      (reading.step depth (.word (readWord word))).bind fun reading' =>
        Progress.read depth ⟨.between, reading'⟩ rest := by
  cases word with
  | nil => exact absurd rfl hne
  | cons c word =>
    have hstep := stepChar_between_of_word (hword c List.mem_cons_self)
    rw [List.cons_append, read_silent hstep,
      read_restOfWord (fun d hd => hword d (List.mem_cons_of_mem _ hd)) hrest]
    rfl

end Words

/-! ## Numbers -/

theorem isIntegral_cons {first : Char} {others : List Char} (hfirst : first ≠ '0')
    (hdigits : ∀ c ∈ first :: others, c.isDigit = true) : isIntegral (first :: others) = true := by
  have hall : others.all Char.isDigit = true :=
    List.all_eq_true.mpr fun c hc => hdigits c (List.mem_cons_of_mem _ hc)
  simp [isIntegral, hfirst, hdigits first List.mem_cons_self, hall]

theorem isIntegral_toDigits (n : Nat) : isIntegral (Nat.toDigits 10 n) = true := by
  rcases Nat.eq_zero_or_pos n with rfl | hpos
  · rfl
  · have hhead := head?_toDigits hpos
    have hall : ∀ c ∈ Nat.toDigits 10 n, c.isDigit = true := fun _ => isDigit_of_mem_toDigits
    cases hdigits : Nat.toDigits 10 n with
    | nil => exact absurd hdigits Nat.toDigits_ne_nil
    | cons first others =>
      rw [hdigits] at hhead hall
      have hfirst : first ≠ '0' := fun h => hhead (congrArg some h)
      exact isIntegral_cons hfirst hall

theorem readNumber_toDigits (negative : Bool) {n : Nat}
    (h : (Nat.toDigits 10 n).length ≤ greatestDigitCount) :
    readNumber negative (Nat.toDigits 10 n) = .ok (.int (if negative then -(n : Int) else n)) := by
  have hall : ∀ c ∈ Nat.toDigits 10 n, c.isDigit = true := fun _ => isDigit_of_mem_toDigits
  have htake : (Nat.toDigits 10 n).takeWhile Char.isDigit = Nat.toDigits 10 n :=
    List.takeWhile_eq_self_iff.mpr hall
  have hdrop : (Nat.toDigits 10 n).dropWhile Char.isDigit = [] :=
    List.dropWhile_eq_nil_iff.mpr hall
  have hvalue : Decimal.asciiValue (Nat.toDigits 10 n) = n := Nat.ofDigitChars_ten_toDigits
  have hcount : decide (greatestDigitCount < (Nat.toDigits 10 n).length) = false :=
    decide_eq_false (Nat.not_lt.mpr h)
  simp [readNumber, htake, hdrop, isIntegral_toDigits, hcount, hvalue]

/-- The words that are values by name. -/
def literalNames : List String := ["null", "true", "false", "NaN", "Infinity", "-Infinity"]

/-- The value of a word that is no literal name. -/
def readSigned : List Char → Except JsonError Json
  | '-' :: rest => readNumber true rest
  | cs => readNumber false cs

theorem readWord_of_number {cs : List Char} (h : ∀ c ∈ cs, c.isDigit = true ∨ c = '-') :
    readWord cs = readSigned cs := by
  -- Every literal name has a letter, so no number is one of them.
  have hletter : literalNames.all (·.toList.any fun c => !c.isDigit && c != '-') = true := by
    decide
  have hname : ∀ name ∈ literalNames, String.ofList cs ≠ name := by
    rintro name hmem rfl
    obtain ⟨c, hc, hnot⟩ := List.any_eq_true.mp (List.all_eq_true.mp hletter _ hmem)
    rw [String.toList_ofList] at hc
    rcases h c hc with hdigit | rfl
    · simp [hdigit] at hnot
    · simp at hnot
  unfold readWord
  split
  next hnull => exact absurd hnull (hname _ (by decide))
  next htrue => exact absurd htrue (hname _ (by decide))
  next hfalse => exact absurd hfalse (hname _ (by decide))
  next hnan => exact absurd hnan (hname _ (by decide))
  next hinfinity => exact absurd hinfinity (hname _ (by decide))
  next hnegative => exact absurd hnegative (hname _ (by decide))
  next => split <;> simp_all [readSigned]

/-- A printed integer is read as itself, if it has no more digits than are read. -/
theorem readWord_toString {n : Int} (h : (Nat.toDigits 10 n.natAbs).length ≤ greatestDigitCount) :
    readWord (toString n).toList = .ok (.int n) := by
  rw [readWord_of_number fun c hc => isDigit_or_minus_of_mem_toString hc, toList_toString_int]
  by_cases hneg : n < 0
  · have habs : -(n.natAbs : Int) = n := by omega
    rw [if_pos hneg]
    show readNumber true _ = _
    rw [readNumber_toDigits true h, if_pos rfl, habs]
  · have habs : (n.natAbs : Int) = n := by omega
    rw [if_neg hneg, readSigned.eq_def]
    split
    next rest hminus =>
      -- The digits of a number begin with no sign.
      have hfirst : '-'.isDigit = true :=
        isDigit_of_mem_toDigits (hminus ▸ List.mem_cons_self)
      exact absurd hfirst (by decide)
    next => rw [readNumber_toDigits false h, if_neg (by decide), habs]

theorem endsWord_of_number {c : Char} (h : c.isDigit = true ∨ c = '-') : endsWord c = false := by
  rcases h with h | rfl
  · have hrange : 0x30 ≤ c.toNat ∧ c.toNat ≤ 0x39 := by
      rw [Char.isDigit, Bool.and_eq_true, decide_eq_true_eq, decide_eq_true_eq] at h
      exact h
    have hdigits : ∀ d ≤ 9, endsWord (Char.ofNat (0x30 + d)) = false := by decide
    have hc := hdigits (c.toNat - 0x30) (by omega)
    rwa [Nat.add_sub_cancel' hrange.1, Char.ofNat_toNat] at hc
  · rfl

/-! ## Escapes by number -/

theorem hex_succ {width : Nat} (hwidth : 0 < width) (n : Nat) :
    Text.hex (width + 1) n = Text.hex width (n / 16) ++ [Nat.digitChar (n % 16)] := by
  by_cases hlt : n < 16
  · have hdiv : n / 16 = 0 := Nat.div_eq_of_lt hlt
    have hmod : n % 16 = n := Nat.mod_eq_of_lt hlt
    have hzeros : List.replicate width '0' = List.replicate (width - 1) '0' ++ ['0'] := by
      rw [← List.replicate_succ', Nat.sub_add_cancel hwidth]
    simp [Text.hex, Nat.toDigits_of_lt_base hlt, hdiv, hmod, hzeros]
  · have hdigits : Nat.toDigits 16 n = Nat.toDigits 16 (n / 16) ++ [Nat.digitChar (n % 16)] :=
      Nat.toDigits_of_base_le (by decide) (Nat.not_lt.mp hlt)
    simp [Text.hex, hdigits]

theorem hex_one {n : Nat} (h : n < 16) : Text.hex 1 n = [Nat.digitChar n] := by
  simp [Text.hex, Nat.toDigits_of_lt_base h]

theorem hex_four {u : Nat} (h : u < 0x10000) :
    Text.hex 4 u = [Nat.digitChar (u / 16 / 16 / 16), Nat.digitChar (u / 16 / 16 % 16),
      Nat.digitChar (u / 16 % 16), Nat.digitChar (u % 16)] := by
  rw [hex_succ (by decide), hex_succ (by decide), hex_succ (by decide), hex_one (by omega)]
  rfl

theorem hexValue?_digitChar : ∀ d < 16, Text.hexValue? (Nat.digitChar d) = some d := by decide

section Strings

variable {depth : Nat} {scan : StringScan} {reading : Reading} {rest : List Char}

/-- One digit of an escape that is not the last. -/
theorem stepChar_number {count value d : Nat} (hcount : count ≠ 3) (hd : d < 16) :
    (Scan.number scan count value).stepChar (Nat.digitChar d) =
      some ([], .number scan (count + 1) (16 * value + d)) := by
  simp [Scan.stepChar, hexValue?_digitChar d hd, hcount]

/-- An escape by number is read as the symbol of that number. -/
theorem read_escapeUnit {u : Nat} {s : Symbol} (hu : u < 0x10000)
    (hs : Symbol.ofCode? u = some s) :
    Progress.read depth ⟨.text scan, reading⟩ (escapeUnit u ++ rest) =
      Progress.read depth ⟨.text (scan.pushNumber s), reading⟩ rest := by
  -- Four hexadecimal digits come to the unit, the highest one first.
  have hvalue : 16 * (16 * (16 * (16 * 0 + u / 16 / 16 / 16) + u / 16 / 16 % 16) + u / 16 % 16) +
      u % 16 = u := by omega
  -- The last digit completes the unit; the ones before it are only counted.
  have hlast (value : Nat) (h : 16 * value + u % 16 = u) :
      (Scan.number scan 3 value).stepChar (Nat.digitChar (u % 16)) =
        some ([], .text (scan.pushNumber s)) := by
    have hdigit := hexValue?_digitChar (u % 16) (Nat.mod_lt _ (by decide))
    simp [Scan.stepChar, hdigit, h, hs]
  rw [escapeUnit, hex_four hu]
  show Progress.read depth ⟨.text scan, reading⟩ ('\x5c' :: 'u' :: _ :: _ :: _ :: _ :: rest) = _
  rw [read_silent (rfl : (Scan.text scan).stepChar '\x5c' = some ([], .escape scan)),
    read_silent (rfl : (Scan.escape scan).stepChar 'u' = some ([], .number scan 0 0)),
    read_silent (stepChar_number (by decide) (by omega)),
    read_silent (stepChar_number (by decide) (Nat.mod_lt _ (by decide))),
    read_silent (stepChar_number (by decide) (Nat.mod_lt _ (by decide))),
    read_silent (hlast _ hvalue)]

/-! ## Strings -/

/-- A string read as far as some characters. -/
def StringScan.Holds (scan : StringScan) (cs : List Char) : Prop :=
  scan.symbols.reverse = cs.map Symbol.char

variable {cs : List Char} {c : Char}

theorem StringScan.Holds.push (h : scan.Holds cs) (c : Char) :
    (scan.push (.char c)).Holds (cs ++ [c]) := by
  rw [StringScan.Holds, StringScan.push, List.reverse_cons, h, List.map_append]
  rfl

/-- Behind characters, what is given by its number stands alone at first. -/
theorem StringScan.Holds.pushNumber_eq (h : scan.Holds cs) (s : Symbol) :
    scan.pushNumber s = ⟨s :: scan.symbols, true⟩ := by
  unfold StringScan.pushNumber
  split
  next before others hnumber hsymbols =>
    have hmem : before ∈ scan.symbols.reverse := by simp [hsymbols]
    obtain ⟨d, -, rfl⟩ := List.mem_map.mp (h ▸ hmem)
    rfl
  next => rfl

theorem StringScan.Holds.pushNumber (h : scan.Holds cs) (c : Char) :
    (scan.pushNumber (.char c)).Holds (cs ++ [c]) := by
  rw [h.pushNumber_eq]
  exact h.push c

/-- The two halves of a character beyond the first plane are read as that character. -/
theorem StringScan.Holds.pushPair (h : scan.Holds cs) {high low : Fin 2048}
    (hpair : Symbol.pair? (.half high) (.half low) = some c) :
    ((scan.pushNumber (.half high)).pushNumber (.half low)).Holds (cs ++ [c]) := by
  have hpush : (scan.pushNumber (.half high)).pushNumber (.half low) =
      ⟨.char c :: scan.symbols, false⟩ := by
    rw [h.pushNumber_eq]
    simp only [StringScan.pushNumber, hpair]
  rw [hpush]
  exact h.push c

/-- A character in a string, escaped or not, is read as that character. -/
theorem read_escapeChar (h : scan.Holds cs) (c : Char) :
    ∃ next : StringScan, next.Holds (cs ++ [c]) ∧ ∀ rest,
      Progress.read depth ⟨.text scan, reading⟩ (escapeChar c ++ rest) =
        Progress.read depth ⟨.text next, reading⟩ rest := by
  have hvalid : c.toNat < 0xd800 ∨ 0xdfff < c.toNat ∧ c.toNat < 0x110000 := c.valid
  unfold escapeChar
  dsimp only
  split
  next hlt =>
    -- One unit is enough.
    have hcode := Symbol.ofCode?_code (.char c)
    exact ⟨_, h.pushNumber c, fun _ => read_escapeUnit hlt hcode⟩
  next hge =>
    -- The two units are the halves of a pair.
    have hhigh : (c.toNat - 0x10000) / 0x400 < 0x400 := by omega
    have hlow : (c.toNat - 0x10000) % 0x400 < 0x400 := Nat.mod_lt _ (by decide)
    have hvalue : 0x10000 + (c.toNat - 0x10000) / 0x400 * 0x400 +
        (0x400 + (c.toNat - 0x10000) % 0x400 - 0x400) = c.toNat := by omega
    generalize (c.toNat - 0x10000) / 0x400 = high at hhigh hvalue
    generalize (c.toNat - 0x10000) % 0x400 = low at hlow hvalue
    let highHalf : Fin 2048 := ⟨high, by omega⟩
    let lowHalf : Fin 2048 := ⟨0x400 + low, by omega⟩
    have hpair : Symbol.pair? (.half highHalf) (.half lowHalf) = some c := by
      simp only [Symbol.pair?, highHalf, lowHalf, hvalue, Char.ofNat_toNat]
      simp [hhigh]
    refine ⟨_, h.pushPair hpair, fun rest => ?_⟩
    have hhighCode : Symbol.ofCode? (0xd800 + high) = some (.half highHalf) :=
      Symbol.ofCode?_code (.half highHalf)
    have hlowCode : Symbol.ofCode? (0xdc00 + low) = some (.half lowHalf) := by
      have hcode := Symbol.ofCode?_code (.half lowHalf)
      rwa [Symbol.code, ← Nat.add_assoc] at hcode
    rw [List.append_assoc, read_escapeUnit (by omega) hhighCode,
      read_escapeUnit (by omega) hlowCode]

/-- A character in a string is read as that character, however it is written. -/
theorem read_renderChar (h : scan.Holds cs) (asciiOnly : Bool) (c : Char) :
    ∃ next : StringScan, next.Holds (cs ++ [c]) ∧ ∀ rest,
      Progress.read depth ⟨.text scan, reading⟩ (renderChar asciiOnly c ++ rest) =
        Progress.read depth ⟨.text next, reading⟩ rest := by
  -- The escapes of one letter.
  have hletter (e : Char) (he : escaped? e = some c) (hu : e ≠ 'u') (rest : List Char) :
      Progress.read depth ⟨.text scan, reading⟩ (['\x5c', e] ++ rest) =
        Progress.read depth ⟨.text (scan.push (.char c)), reading⟩ rest := by
    have hstep : (Scan.escape scan).stepChar e = some ([], .text (scan.push (.char c))) := by
      simp [Scan.stepChar, he, hu]
    have hescape : (Scan.text scan).stepChar '\x5c' = some ([], .escape scan) := rfl
    rw [List.cons_append, read_silent hescape, List.cons_append, read_silent hstep]
    rfl
  unfold renderChar
  split
  next => exact ⟨_, h.push _, fun rest => hletter _ rfl (by decide) rest⟩
  next => exact ⟨_, h.push _, fun rest => hletter _ rfl (by decide) rest⟩
  next => exact ⟨_, h.push _, fun rest => hletter _ rfl (by decide) rest⟩
  next => exact ⟨_, h.push _, fun rest => hletter _ rfl (by decide) rest⟩
  next => exact ⟨_, h.push _, fun rest => hletter _ rfl (by decide) rest⟩
  next => exact ⟨_, h.push _, fun rest => hletter _ rfl (by decide) rest⟩
  next => exact ⟨_, h.push _, fun rest => hletter _ rfl (by decide) rest⟩
  next hquote hbackslash _ _ _ _ _ =>
    split
    next => exact read_escapeChar h c
    next hplain =>
      have hstep : (Scan.text scan).stepChar c = some ([], .text (scan.push (.char c))) := by
        simp only [Bool.or_eq_true, decide_eq_true_eq, not_or] at hplain
        rw [Scan.stepChar, if_neg hquote, if_neg hbackslash, if_neg hplain.1]
      exact ⟨_, h.push c, fun _ => read_silent hstep⟩

theorem read_renderChars (asciiOnly : Bool) (more : List Char) (h : scan.Holds cs) :
    ∃ next : StringScan, next.Holds (cs ++ more) ∧ ∀ rest,
      Progress.read depth ⟨.text scan, reading⟩ (more.flatMap (renderChar asciiOnly) ++ rest) =
        Progress.read depth ⟨.text next, reading⟩ rest := by
  induction more generalizing scan cs with
  | nil =>
    rw [List.append_nil]
    exact ⟨scan, h, fun _ => rfl⟩
  | cons c more ih =>
    obtain ⟨middle, hmiddle, hread⟩ := read_renderChar h asciiOnly c
    obtain ⟨next, hnext, hmore⟩ := ih hmiddle
    refine ⟨next, by rwa [List.append_assoc] at hnext, fun rest => ?_⟩
    rw [List.flatMap_cons, List.append_assoc, hread, hmore]

theorem toList_renderText (asciiOnly : Bool) (cs : List Char) :
    (renderText asciiOnly (.ofChars cs)).toList =
      '\x22' :: cs.flatMap (renderChar asciiOnly) ++ ['\x22'] := by
  have hsymbols : (Text.ofChars cs).symbols.flatMap (renderSymbol asciiOnly) =
      cs.flatMap (renderChar asciiOnly) := List.flatMap_map ..
  rw [renderText, String.toList_ofList, hsymbols]

/-- A printed text is one token, the text itself. -/
theorem read_renderText (asciiOnly : Bool) (cs : List Char) :
    Progress.read depth ⟨.between, reading⟩ ((renderText asciiOnly (.ofChars cs)).toList ++ rest) =
      (reading.step depth (.text (.ofChars cs))).bind fun reading' =>
        Progress.read depth ⟨.between, reading'⟩ rest := by
  have hempty : StringScan.Holds {} [] := rfl
  obtain ⟨last, hlast, hread⟩ := read_renderChars asciiOnly cs hempty
  have hopen : Scan.between.stepChar '\x22' = some ([], .text {}) := rfl
  have hclose : (Scan.text last).stepChar '\x22' = some ([.text (.ofChars cs)], .between) := by
    have hfinish : last.finish = .ofChars cs := congrArg Text.mk hlast
    rw [Scan.stepChar, if_pos rfl, hfinish]
  rw [toList_renderText, List.append_assoc, List.cons_append, read_silent hopen]
  exact (hread _).trans (read_token hclose)

end Strings

end AdmissionControl.Json
