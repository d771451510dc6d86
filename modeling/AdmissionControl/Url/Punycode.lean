/-
  Punycode: labels of domain names in ASCII letters, digits and hyphens.

  The ASCII characters of a label come first, as they are.  The others follow in ascending order
  as numbers: each tells how far to go on, through all places of the label for one character
  after the other, to the next insertion.  A number is written with the digits a to z and 0 to 9,
  the least significant first; the weights of the digits adapt to the numbers before.
-/

namespace AdmissionControl.Url.Punycode

/-! ## Digits -/

/-- The digit of a value below 36. -/
def digitChar (value : Nat) : Char :=
  if value < 26 then Char.ofNat ('a'.toNat + value) else Char.ofNat ('0'.toNat + (value - 26))

/-- The value of a digit, in either case of letters. -/
def digitValue? (c : Char) : Option Nat :=
  if c.isLower then some (c.toNat - 'a'.toNat)
  else if c.isUpper then some (c.toNat - 'A'.toNat)
  else if c.isDigit then some (c.toNat - '0'.toNat + 26)
  else none

/-- The value from which on a digit is not the last of its number; `position` grows by 36 with each
digit, and `bias` is the adaptation. -/
def threshold (bias position : Nat) : Nat := min 26 (max 1 (position - bias))

theorem threshold_pos (bias position : Nat) : 1 ≤ threshold bias position := by
  unfold threshold
  omega

/-- The digits of a number from a position on. -/
def digits (bias position number : Nat) : List Char :=
  if number < threshold bias position then [digitChar number]
  else
    digitChar (threshold bias position +
        (number - threshold bias position) % (36 - threshold bias position)) ::
      digits bias (position + 36)
        ((number - threshold bias position) / (36 - threshold bias position))
termination_by number
decreasing_by
  have low := threshold_pos bias position
  exact Nat.lt_of_le_of_lt (Nat.div_le_self _ _) (by omega)

/-! ## Adaptation -/

/-- A number scaled down, and what the steps count. -/
def scaleDown (number steps : Nat) : Nat × Nat :=
  if 455 < number then scaleDown (number / 35) (steps + 36) else (number, steps)
termination_by number
decreasing_by exact Nat.div_lt_self (by omega) (by decide)

/-- The bias after a number that led to the insertion which makes `length` characters. -/
def adapt (number length : Nat) (first : Bool) : Nat :=
  let halved := if first then number / 700 else number / 2
  let (scaled, steps) := scaleDown (halved + halved / length) 0
  steps + 36 * scaled / (scaled + 38)

/-! ## Writing -/

/-- A label under way: the digits written so far, the distance gone since the last insertion, the
bias, and how many characters are written. -/
structure Writing where
  written : List Char
  distance : Nat
  bias : Nat
  length : Nat

/-- One character of the label, when those up to `code` are due: lesser ones are passed, and `code`
itself is inserted. -/
def Writing.pass (asciiCount code : Nat) (writing : Writing) (c : Char) : Writing :=
  if c.toNat < code then { writing with distance := writing.distance + 1 }
  else if c.toNat = code then
    { written := writing.written ++ digits writing.bias 36 writing.distance
      distance := 0
      bias := adapt writing.distance (writing.length + 1) (writing.length == asciiCount)
      length := writing.length + 1 }
  else writing

/-- All insertions of the characters of the given codes, in ascending order from `next` on. -/
def Writing.insertAll (label : List Char) (asciiCount : Nat) :
    (codes : List Nat) → (next : Nat) → Writing → Writing
  | [], _, writing => writing
  | code :: codes, next, writing =>
    let skipped := { writing with
      distance := writing.distance + (code - next) * (writing.length + 1) }
    let passed := label.foldl (Writing.pass asciiCount code) skipped
    insertAll label asciiCount codes (code + 1) { passed with distance := passed.distance + 1 }

def encode (label : List Char) : List Char :=
  let ascii := label.filter fun c => c.toNat < 0x80
  let codes := ((label.map Char.toNat).filter (0x80 ≤ ·)).mergeSort.eraseDups
  let start : Writing := ⟨[], 0, 72, ascii.length⟩
  ascii ++ (if ascii.isEmpty then [] else ['-']) ++
    (start.insertAll label ascii.length codes 0x80).written

/-! ## Reading -/

/-- A label under way: what it is so far, the character and the place that come next, the bias, and
the number being read with its position and the weight of its next digit. -/
structure Reading where
  label : List Char
  code : Nat := 0x80
  place : Nat := 0
  bias : Nat := 72
  number : Nat := 0
  position : Nat := 36
  weight : Nat := 1

/-- The label after the number has come to its end. -/
def Reading.insert? (reading : Reading) : Option Reading :=
  let length := reading.label.length + 1
  let goal := reading.place + reading.number
  let code := reading.code + goal / length
  if code < 0xd800 || (0xe000 ≤ code && code < 0x110000) then
    some {
      label := reading.label.insertIdx (goal % length) (Char.ofNat code)
      code := code
      place := goal % length + 1
      bias := adapt reading.number length (reading.place == 0) }
  else none

def Reading.step? (reading : Reading) (c : Char) : Option Reading := do
  let value ← digitValue? c
  let bound := threshold reading.bias reading.position
  let number := reading.number + value * reading.weight
  if value < bound then Reading.insert? { reading with number := number }
  else some { reading with
    number := number
    position := reading.position + 36
    weight := reading.weight * (36 - bound) }

/-- The label that a text in ASCII stands for; no number may be left open. -/
def decode? (cs : List Char) : Option (List Char) := do
  let behind := (cs.reverse.takeWhile (· != '-')).reverse
  let ascii := cs.take (cs.length - behind.length - 1)
  let reading ← behind.foldlM Reading.step? { label := ascii }
  if reading.position = 36 then some reading.label else none

end AdmissionControl.Url.Punycode
