/-
  Unicode text as bytes.

  A byte order mark names the encoding form of a text.  Without one the form is read off the
  zero bytes among the first four, since the text is taken to begin with ASCII; and when there
  are none it is UTF-8.  Bytes that are not well formed in that form have no text.  Half of a
  surrogate pair is read where it stands alone in its encoding form; in UTF-16 two halves that
  belong together are one character.
-/

import AdmissionControl.Text.Basic

namespace AdmissionControl.Text

/-- An encoding form, with its byte order. -/
inductive EncodingForm where
  | utf8
  | utf16 (bigEndian : Bool)
  | utf32 (bigEndian : Bool)
  deriving DecidableEq

/-- The byte order marks, each with the encoding form that it names.  Where one mark begins with
another, it comes first. -/
def EncodingForm.marks : List (List UInt8 × EncodingForm) := [
  ([0x00, 0x00, 0xfe, 0xff], .utf32 true),
  ([0xff, 0xfe, 0x00, 0x00], .utf32 false),
  ([0xfe, 0xff], .utf16 true),
  ([0xff, 0xfe], .utf16 false),
  ([0xef, 0xbb, 0xbf], .utf8)]

/-- The encoding form of bytes without a mark, read off the zero bytes among the first four. -/
def EncodingForm.ofZeros : List UInt8 → EncodingForm
  | [a, b] => if a == 0 then .utf16 true else if b == 0 then .utf16 false else .utf8
  | a :: b :: c :: d :: _ =>
    if a == 0 then (if b == 0 then .utf32 true else .utf16 true)
    else if b == 0 then (if c == 0 && d == 0 then .utf32 false else .utf16 false)
    else .utf8
  | _ => .utf8

/-- The encoding form of some bytes, and the bytes behind the byte order mark. -/
def EncodingForm.detect (bytes : List UInt8) : EncodingForm × List UInt8 :=
  match marks.find? fun entry => entry.1.isPrefixOf bytes with
  | some (mark, form) => (form, bytes.drop mark.length)
  | none => (ofZeros bytes, bytes)

/-! ## UTF-8 -/

/-- What the first byte of a character beyond ASCII says: the bits that it gives, the bounds of
the second byte, and how many bytes follow it. -/
structure Utf8Lead where
  bits : Nat
  low : Nat
  high : Nat
  count : Nat

/-- The lead of a byte.  The bounds of the second byte leave out all overlong forms and all code
points out of range, and halves of surrogate pairs unless they are asked for. -/
def Utf8Lead.ofByte? (halves : Bool) (byte : UInt8) : Option Utf8Lead :=
  let n := byte.toNat
  if n < 0xc2 then none
  else if n < 0xe0 then some ⟨n - 0xc0, 0x80, 0xbf, 1⟩
  else if n < 0xf0 then
    some ⟨n - 0xe0, if n = 0xe0 then 0xa0 else 0x80,
      if n = 0xed && !halves then 0x9f else 0xbf, 2⟩
  else if n < 0xf5 then
    some ⟨n - 0xf0, if n = 0xf0 then 0x90 else 0x80, if n = 0xf4 then 0x8f else 0xbf, 3⟩
  else none

/-- The code point that the bits so far and the next bytes make, and the bytes behind it.  Where a
byte is out of its bounds there is none, and that byte is the first behind. -/
def continueUtf8 (value low high : Nat) : (count : Nat) → List UInt8 → Option Nat × List UInt8
  | 0, bytes => (some value, bytes)
  | _ + 1, [] => (none, [])
  | count + 1, byte :: rest =>
    if low ≤ byte.toNat && byte.toNat ≤ high then
      continueUtf8 (value * 0x40 + byte.toNat % 0x40) 0x80 0xbf count rest
    else (none, byte :: rest)

theorem continueUtf8_length (value low high count : Nat) (bytes : List UInt8) :
    (continueUtf8 value low high count bytes).2.length ≤ bytes.length := by
  induction count generalizing value low high bytes with
  | zero => simp [continueUtf8]
  | succ count ih =>
    cases bytes with
    | nil => simp [continueUtf8]
    | cons byte rest =>
      rw [continueUtf8]
      split
      · exact Nat.le_succ_of_le (ih _ _ _ rest)
      · exact Nat.le_refl _

/-- The code points of UTF-8 bytes, `none` for each run of bytes that is not well formed. -/
def utf8Codes (halves : Bool) : List UInt8 → List (Option Nat)
  | [] => []
  | byte :: rest =>
    if byte.toNat < 0x80 then some byte.toNat :: utf8Codes halves rest
    else match Utf8Lead.ofByte? halves byte with
      | none => none :: utf8Codes halves rest
      | some lead =>
        (continueUtf8 lead.bits lead.low lead.high lead.count rest).1 ::
          utf8Codes halves (continueUtf8 lead.bits lead.low lead.high lead.count rest).2
termination_by bytes => bytes.length
decreasing_by
  · exact Nat.lt_succ_self _
  · exact Nat.lt_succ_self _
  · exact Nat.lt_succ_of_le (continueUtf8_length ..)

def ofUtf8? (bytes : List UInt8) : Option (List Symbol) :=
  (utf8Codes true bytes).mapM fun code => code.bind Symbol.ofCode?

/-- The characters of UTF-8 bytes, with a replacement character for each run of bytes that is not
well formed. -/
def charsOfUtf8 (bytes : List UInt8) : List Char :=
  (utf8Codes false bytes).map fun code => (code.map Char.ofNat).getD '\ufffd'

def utf8Char (c : Char) : List UInt8 := String.utf8EncodeChar c

def utf8 (cs : List Char) : List UInt8 := cs.flatMap utf8Char

/-! ## UTF-16 and UTF-32 -/

/-- The symbols of UTF-16 units: two halves of a surrogate pair make one character. -/
def ofUnits16? : List Nat → Option (List Symbol)
  | [] => some []
  | [unit] => (Symbol.ofCode? unit).map ([·])
  | unit :: next :: rest => do
    let first ← Symbol.ofCode? unit
    let second ← Symbol.ofCode? next
    match Symbol.pair? first second with
    | some c => (ofUnits16? rest).map (.char c :: ·)
    | none => (ofUnits16? (next :: rest)).map (first :: ·)

/-- Bytes taken two by two. -/
def units16? (bigEndian : Bool) : List UInt8 → Option (List Nat)
  | [] => some []
  | a :: b :: rest =>
    let unit := if bigEndian then a.toNat * 0x100 + b.toNat else b.toNat * 0x100 + a.toNat
    (units16? bigEndian rest).map (unit :: ·)
  | _ => none

/-- Bytes taken four by four. -/
def units32? (bigEndian : Bool) : List UInt8 → Option (List Nat)
  | [] => some []
  | a :: b :: c :: d :: rest =>
    let unit (x y z w : UInt8) : Nat :=
      ((x.toNat * 0x100 + y.toNat) * 0x100 + z.toNat) * 0x100 + w.toNat
    (units32? bigEndian rest).map ((if bigEndian then unit a b c d else unit d c b a) :: ·)
  | _ => none

/-! ## All forms -/

/-- The symbols of bytes in a given encoding form. -/
def EncodingForm.decode? : EncodingForm → List UInt8 → Option (List Symbol)
  | .utf8, bytes => ofUtf8? bytes
  | .utf16 bigEndian, bytes => (units16? bigEndian bytes).bind ofUnits16?
  | .utf32 bigEndian, bytes => (units32? bigEndian bytes).bind (·.mapM Symbol.ofCode?)

/-- The text of bytes in the encoding form that they show. -/
def decode? (bytes : List UInt8) : Option Text :=
  let (form, rest) := EncodingForm.detect bytes
  (form.decode? rest).map Text.mk

end AdmissionControl.Text
