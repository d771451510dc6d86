/-
  AdmissionControl.Proofs.Json.Reading

  What every value that is read from text has.

  The reader makes values in three ways: of strings, of words, and of the parts of a container that
  it closes.  A property that these three keep is `Inherited`.  Then the open containers hold only
  values with the property, which every token preserves (`Reading.Has.step`), and so the value at
  the end of a text has it (`Inherited.of_ofText`), however deep the reader goes.  One such property
  is that integers are not too long, as the reader refuses the others (`isWritable_of_ofText`).
-/

import AdmissionControl.Json.Reader
import AdmissionControl.Proofs.Answers
import AdmissionControl.Proofs.Json.Leaves
import Mathlib.Algebra.Group.Nat.Defs
import Mathlib.Data.List.TakeWhile

namespace AdmissionControl.Json

/-! ## Words -/

/-- What a word can denote: anything but a text or a container, and no integer that is too
long. -/
inductive WordValue : Json → Prop where
  | null : WordValue .null
  | bool (b : Bool) : WordValue (.bool b)
  | int {n : Int} : (Json.int n).isWritable = true → WordValue (.int n)
  | float (x : Binary64) : WordValue (.float x)

/-- Digits denote a number below the power of ten with as many zeros. -/
theorem ofDigitChars_lt {digits : List Char} (h : ∀ c ∈ digits, c.isDigit = true) (start : Nat) :
    Nat.ofDigitChars 10 digits start < (start + 1) * 10 ^ digits.length := by
  induction digits generalizing start with
  | nil => simp
  | cons c rest ih =>
    rw [List.forall_mem_cons] at h
    have hdigit : c.toNat - '0'.toNat < 10 := by
      have hrange := h.1
      simp only [Char.isDigit, Bool.and_eq_true, decide_eq_true_eq] at hrange
      have htop : c.toNat ≤ 57 := hrange.2
      show c.toNat - 48 < 10
      omega
    -- One digit more: the value before it is taken ten times.
    have hstart : 10 * start + (c.toNat - '0'.toNat) + 1 ≤ (start + 1) * 10 := by omega
    rw [Nat.ofDigitChars_cons, List.length_cons, Nat.pow_succ, Nat.mul_comm (10 ^ _) 10,
      ← Nat.mul_assoc]
    exact Nat.lt_of_lt_of_le (ih h.2 _) (Nat.mul_le_mul_right _ hstart)

/-- An integer of so many digits has a text. -/
theorem isWritable_of_digits {digits : List Char} {n : Int}
    (hdigits : ∀ c ∈ digits, c.isDigit = true) (hcount : digits.length ≤ greatestDigitCount)
    (hn : n.natAbs = Decimal.asciiValue digits) : (Json.int n).isWritable = true := by
  have hbelow := ofDigitChars_lt hdigits 0
  rw [Nat.zero_add, Nat.one_mul] at hbelow
  rw [isWritable_int, hn]
  exact Nat.lt_of_lt_of_le hbelow (Nat.pow_le_pow_right (by decide) hcount)

theorem wordValue_of_readNumber {negative : Bool} {cs : List Char} {j : Json}
    (h : readNumber negative cs = .ok j) : WordValue j := by
  unfold readNumber at h
  dsimp only at h
  split at h
  · cases h
  split at h
  · cases h
  next hcount =>
  split at h
  next hrest =>
    -- The digits are all there is, so there are not too many of them.
    rw [List.isEmpty_iff.mp hrest, Bool.and_eq_true, decide_eq_true_eq] at hcount
    have hshort : (cs.takeWhile Char.isDigit).length ≤ greatestDigitCount :=
      Nat.not_lt.mp fun hlong => hcount ⟨hlong, rfl⟩
    cases h
    refine .int (isWritable_of_digits (fun c => List.mem_takeWhile_imp) hshort ?_)
    split
    · exact Int.natAbs_neg _
    · rfl
  split at h
  next value hfloat =>
    cases h
    simp only [readFloat?, Option.ite_none_right_eq_some, Option.map_eq_some_iff] at hfloat
    obtain ⟨-, d, -, rfl⟩ := hfloat
    exact .float _
  next => cases h

theorem wordValue_of_readWord {cs : List Char} {j : Json} (h : readWord cs = .ok j) :
    WordValue j := by
  unfold readWord at h
  -- Each literal name has its value; what is left are numbers.
  split at h
  case h_1 => cases h; exact .null
  case h_2 => cases h; exact .bool _
  case h_3 => cases h; exact .bool _
  case h_4 => cases h; exact .float _
  case h_5 => cases h; exact .float _
  case h_6 => cases h; exact .float _
  case h_7 =>
    split at h
    · exact wordValue_of_readNumber h
    · exact wordValue_of_readNumber h

/-! ## Tokens -/

/-- The value of a word, if it has one, is one that words denote. -/
def Token.Sound (token : Token) : Prop := ∀ value, token = .word (.ok value) → WordValue value

theorem Token.sound_wordToken (chars : List Char) : (wordToken chars).Sound := by
  intro value hvalue
  exact wordValue_of_readWord (Token.word.inj hvalue)

theorem Token.sound_of_punctuation? {c : Char} {token : Token}
    (h : punctuation? c = some token) : token.Sound := by
  intro value hvalue
  rw [hvalue] at h
  unfold punctuation? at h
  split at h <;> cases h

theorem sound_startToken (c : Char) : ∀ token ∈ (startToken c).1, token.Sound := by
  unfold startToken
  split
  · exact List.forall_mem_nil _
  split
  · exact List.forall_mem_nil _
  split
  next token hpunctuation =>
    exact List.forall_mem_singleton.mpr (Token.sound_of_punctuation? hpunctuation)
  next => exact List.forall_mem_nil _

/-- Every token of the scanner is such a one.  Only words have values, and a word comes out where it
ends. -/
theorem Scan.sound_of_step {scan next : Scan} {s : Symbol} {tokens : List Token}
    (h : scan.step s = some (tokens, next)) : ∀ token ∈ tokens, token.Sound := by
  cases s with
  | half n =>
    cases scan with
    | text scan =>
      cases h
      exact List.forall_mem_nil _
    -- A word ends at the symbol behind it, so only here a token is made of what was read before.
    | word chars =>
      cases h
      exact List.forall_mem_cons.mpr
        ⟨Token.sound_wordToken chars, List.forall_mem_singleton.mpr nofun⟩
    | _ => cases h
  | char c =>
    cases scan with
    | between =>
      have hstart := sound_startToken c
      rw [Option.some.inj h] at hstart
      exact hstart
    | word chars =>
      simp only [Scan.step, Scan.stepChar] at h
      split at h
      · cases h
        exact List.forall_mem_cons.mpr ⟨Token.sound_wordToken chars, sound_startToken c⟩
      · cases h
        exact List.forall_mem_nil _
    | text scan =>
      simp only [Scan.step, Scan.stepChar] at h
      split at h
      · cases h
        exact List.forall_mem_singleton.mpr nofun
      split at h
      · cases h
        exact List.forall_mem_nil _
      split at h
      · cases h
      · cases h
        exact List.forall_mem_nil _
    -- Within a text nothing is made until its closing quotation mark.
    | escape scan =>
      simp only [Scan.step, Scan.stepChar] at h
      split at h
      · cases h
        exact List.forall_mem_nil _
      · obtain ⟨_, -, hsame⟩ := Option.map_eq_some_iff.mp h
        cases hsame
        exact List.forall_mem_nil _
    -- A digit of an escaped unit is counted, and the last one ends the escape.
    | number scan count value =>
      simp only [Scan.step, Scan.stepChar] at h
      obtain ⟨digit, -, h⟩ := Option.bind_eq_some_iff.mp h
      split at h
      · obtain ⟨_, -, hsame⟩ := Option.map_eq_some_iff.mp h
        cases hsame
        exact List.forall_mem_nil _
      · cases h
        exact List.forall_mem_nil _

theorem Scan.sound_of_finish {scan : Scan} {tokens : List Token}
    (h : scan.finish = some tokens) : ∀ token ∈ tokens, token.Sound := by
  cases scan with
  | between =>
    cases h
    exact List.forall_mem_nil _
  | word chars =>
    cases h
    exact List.forall_mem_singleton.mpr (Token.sound_wordToken chars)
  | _ => cases h

/-! ## The reader -/

/-- A property that strings and words have, and containers if their parts have it. -/
structure Inherited (P : Json → Prop) : Prop where
  text : ∀ s, P (.str s)
  word : ∀ {j}, WordValue j → P j
  array : ∀ {items}, (∀ item ∈ items, P item) → P (.arr items)
  object : ∀ {members}, (∀ member ∈ members, P member.2) → P (ofMembers members)

/-- The values in an open container. -/
def Frame.values : Frame → List Json
  | .array items => items
  | .object members => members.map Prod.snd
  | .member members _ => members.map Prod.snd

namespace Reading

/-- All that was read so far has a property. -/
structure Has (P : Json → Prop) (reading : Reading) : Prop where
  frames : ∀ frame ∈ reading.frames, ∀ value ∈ frame.values, P value
  result : ∀ value, reading.expected = .nothing value → P value

variable {P : Json → Prop} {depth : Nat} {frames : List Frame} {reading next : Reading}
  {token : Token} {value : Json}

theorem has_of_close (hvalue : P value)
    (hframes : ∀ frame ∈ frames, ∀ value ∈ frame.values, P value)
    (h : close value frames = .ok next) : next.Has P := by
  cases frames with
  | nil =>
    cases h
    refine ⟨List.forall_mem_nil _, fun result hresult => ?_⟩
    cases hresult
    exact hvalue
  | cons frame outer =>
    rw [List.forall_mem_cons] at hframes
    cases frame with
    -- The value joins those of the innermost frame, and no frame is left or entered.
    | array items =>
      cases h
      exact ⟨List.forall_mem_cons.mpr ⟨List.forall_mem_cons.mpr ⟨hvalue, hframes.1⟩, hframes.2⟩,
        nofun⟩
    | member members name =>
      cases h
      exact ⟨List.forall_mem_cons.mpr ⟨List.forall_mem_cons.mpr ⟨hvalue, hframes.1⟩, hframes.2⟩,
        nofun⟩
    | object members => cases h

theorem has_of_enter {frame : Frame} {expected : Expected} (hframe : frame.values = [])
    (hexpected : ∀ value, expected ≠ .nothing value)
    (hframes : ∀ frame ∈ frames, ∀ value ∈ frame.values, P value)
    (h : enter depth frame expected frames = .ok next) : next.Has P := by
  unfold enter at h
  split at h
  · cases h
    refine ⟨List.forall_mem_cons.mpr ⟨?_, hframes⟩, fun value hvalue => absurd hvalue (hexpected _)⟩
    rw [hframe]
    exact List.forall_mem_nil _
  · cases h

theorem has_of_beginValue (depth : Nat) (hP : Inherited P) (htoken : token.Sound)
    (hframes : ∀ frame ∈ frames, ∀ value ∈ frame.values, P value)
    (h : beginValue depth frames token = .ok next) : next.Has P := by
  cases token with
  | beginArray => exact has_of_enter rfl (by rintro _ ⟨⟩) hframes h
  | beginObject => exact has_of_enter rfl (by rintro _ ⟨⟩) hframes h
  | text s => exact has_of_close (hP.text s) hframes h
  | word result =>
    cases result with
    | ok value => exact has_of_close (hP.word (htoken value rfl)) hframes h
    | error error => cases h
  | _ => cases h

theorem has_of_endContainer (hP : Inherited P)
    (hframes : ∀ frame ∈ frames, ∀ value ∈ frame.values, P value)
    (h : endContainer frames token = .ok next) : next.Has P := by
  unfold endContainer at h
  split at h
  next items outer =>
    -- The container was on top, and is a value of the next one.
    rw [List.forall_mem_cons] at hframes
    refine has_of_close (hP.array fun item hitem => ?_) hframes.2 h
    exact hframes.1 item (List.mem_reverse.mp hitem)
  next members outer =>
    rw [List.forall_mem_cons] at hframes
    refine has_of_close (hP.object fun member hmember => ?_) hframes.2 h
    exact hframes.1 member.2 (List.mem_map_of_mem (List.mem_reverse.mp hmember))
  next => cases h

theorem has_of_beginMember
    (hframes : ∀ frame ∈ frames, ∀ value ∈ frame.values, P value)
    (h : beginMember frames token = .ok next) : next.Has P := by
  unfold beginMember at h
  split at h
  next members outer name =>
    cases h
    rw [List.forall_mem_cons] at hframes
    exact ⟨List.forall_mem_cons.mpr ⟨hframes.1, hframes.2⟩, nofun⟩
  next => cases h

/-- One token further, all that was read has the property as before. -/
theorem Has.step (hP : Inherited P) (hreading : reading.Has P) (htoken : token.Sound)
    (h : reading.step depth token = .ok next) : next.Has P := by
  obtain ⟨frames, expected⟩ := reading
  -- What is expected tells which reading of the token may follow, if any does.
  cases expected with
  | value => exact has_of_beginValue depth hP htoken hreading.frames h
  | valueOrEnd =>
    cases token with
    | endArray => exact has_of_endContainer hP hreading.frames h
    | _ => exact has_of_beginValue depth hP htoken hreading.frames h
  | nameOrEnd =>
    cases token with
    | endObject => exact has_of_endContainer hP hreading.frames h
    | _ => exact has_of_beginMember hreading.frames h
  | name => exact has_of_beginMember hreading.frames h
  | colon =>
    cases token with
    | colon =>
      cases h
      exact ⟨hreading.frames, nofun⟩
    | _ => cases h
  | commaOrEnd =>
    cases token with
    | comma =>
      -- Behind a comma the frames are the same; they tell only whether a name comes next.
      rcases frames with _ | ⟨_ | _ | _, outer⟩
      all_goals
        cases h
        exact ⟨hreading.frames, nofun⟩
    | _ => exact has_of_endContainer hP hreading.frames h
  | nothing result => cases h

/-- So it is after any number of tokens. -/
theorem Has.foldlM {tokens : List Token} (hP : Inherited P) (hreading : reading.Has P)
    (htokens : ∀ token ∈ tokens, token.Sound)
    (h : tokens.foldlM (Reading.step depth) reading = .ok next) : next.Has P :=
  Except.foldlM_invariant
    (fun token htoken _ _ hbefore hstep => hbefore.step hP (htokens token htoken) hstep) hreading h

end Reading

section Texts

variable {P : Json → Prop} {depth : Nat} {progress next : Progress}

theorem Progress.has_of_step (hP : Inherited P) {s : Symbol} (hreading : progress.reading.Has P)
    (h : progress.step depth s = .ok next) : next.reading.Has P := by
  unfold Progress.step at h
  split at h
  next tokens scan hstep =>
    cases hfeed : feed depth progress.reading (some tokens) with
    | error error =>
      rw [hfeed] at h
      cases h
    | ok reading =>
      rw [hfeed] at h
      cases h
      exact hreading.foldlM hP (Scan.sound_of_step hstep) hfeed
  next => cases h

/-- What is read from a text has every inherited property. -/
theorem Inherited.of_ofText (hP : Inherited P) {t : Text} {j : Json}
    (h : ofText depth t = .ok j) : P j := by
  obtain ⟨progress, hread, hfinish⟩ := Except.bind_eq_ok.mp h
  have hstart : ({} : Progress).reading.Has P := ⟨List.forall_mem_nil _, nofun⟩
  -- The property holds along the text, and over the last word that its end closes.
  have hreading : progress.reading.Has P :=
    Except.foldlM_invariant (P := fun progress => progress.reading.Has P)
      (fun _ _ _ _ => Progress.has_of_step hP) hstart hread
  obtain ⟨reading, hfeed, hresult⟩ := Except.bind_eq_ok.mp hfinish
  unfold Progress.feed at hfeed
  split at hfeed
  next tokens htokens =>
    have hlast := hreading.foldlM hP (Scan.sound_of_finish htokens) hfeed
    unfold Reading.result at hresult
    split at hresult
    next value hexpected =>
      cases hresult
      exact hlast.result _ hexpected
    next => cases hresult
  next => cases hfeed

end Texts

/-! ## Integers -/

theorem inherited_isWritable : Inherited (·.isWritable = true) where
  text _ := rfl
  word h := by
    cases h with
    | int hwritable => exact hwritable
    | _ => rfl
  array h := allLeaves_arr.mpr h
  object h := allLeaves_obj.mpr fun member hmember =>
    ⟨rfl, Entries.forall_mem_ofList (P := (·.isWritable = true)) h member hmember⟩

/-- In what is read from a text every integer has a text again. -/
theorem isWritable_of_ofText {depth : Nat} {t : Text} {j : Json} (h : ofText depth t = .ok j) :
    j.isWritable = true :=
  inherited_isWritable.of_ofText h

theorem isWritable_of_ofBytes {depth : Nat} {bytes : List UInt8} {j : Json}
    (h : ofBytes depth bytes = .ok j) : j.isWritable = true := by
  unfold ofBytes at h
  split at h
  · exact isWritable_of_ofText h
  · cases h

end AdmissionControl.Json
