/-
  Decimal numbers: a signed coefficient times a power of ten.

  They stand between the text of a number and its value.  A decimal has an exact rational value
  and a nearest binary64 number.  `Decimal.read?` reads the usual literals, with digits before
  or after the point and an optional exponent.
-/

import AdmissionControl.Number.Binary64

namespace AdmissionControl

/-- A coefficient times a power of ten, with a sign of its own so that zero has one too. -/
structure Decimal where
  negative : Bool
  coefficient : Nat
  exponent : Int
  deriving DecidableEq

namespace Decimal

def toRat (d : Decimal) : Rat :=
  let signed : Int := if d.negative then -(d.coefficient : Int) else d.coefficient
  mkRat (signed * Nat.pow 10 d.exponent.toNat) (Nat.pow 10 (-d.exponent).toNat)

/-- How many decimal digits a number has; zero has one. -/
def digitCount (n : Nat) : Nat := (Nat.toDigits 10 n).length

/-- The nearest binary64 number.  A decimal point far to either side of the format's range settles
the result without raising ten to that power. -/
def toBinary64 (d : Decimal) : Binary64 :=
  let point := digitCount d.coefficient + d.exponent
  if d.coefficient = 0 || point < -330 then .zero d.negative
  else if 310 < point then .infinity d.negative
  else
    .ofRatio d.negative (d.coefficient * Nat.pow 10 d.exponent.toNat)
      (Nat.pow 10 (-d.exponent).toNat)

/-! ## Reading -/

/-- The number that a run of ASCII digits denotes. -/
def asciiValue (digits : List Char) : Nat :=
  digits.foldl (fun total c => 10 * total + (c.toNat - '0'.toNat)) 0

/-- A leading sign, `true` for minus, and the rest. -/
def splitSign : List Char → Bool × List Char
  | '-' :: rest => (true, rest)
  | '+' :: rest => (false, rest)
  | rest => (false, rest)

/-- An exponent part that ends the text, or none at all. -/
def readExponent? : List Char → Option Int
  | [] => some 0
  | e :: rest =>
    let (negative, digits) := splitSign rest
    if (e = 'e' || e = 'E') && !digits.isEmpty && digits.all Char.isDigit then
      let value : Int := asciiValue digits
      some (if negative then -value else value)
    else none

/-- A literal without sign: digits with at most one point among them, then an optional exponent. -/
def readUnsigned? (negative : Bool) (cs : List Char) : Option Decimal :=
  let whole := cs.takeWhile Char.isDigit
  let afterWhole := cs.dropWhile Char.isDigit
  let (fraction, rest) := match afterWhole with
    | '.' :: tail => (tail.takeWhile Char.isDigit, tail.dropWhile Char.isDigit)
    | _ => ([], afterWhole)
  if whole.isEmpty && fraction.isEmpty then none
  else
    (readExponent? rest).map fun exponent =>
      ⟨negative, asciiValue (whole ++ fraction), exponent - fraction.length⟩

/-- A decimal literal with an optional sign. -/
def read? (cs : List Char) : Option Decimal :=
  let (negative, rest) := splitSign cs
  readUnsigned? negative rest

end Decimal

/-- The number that a text names: a decimal literal, or a word for an infinity or for no number,
in any case of letters. -/
def Binary64.read? (cs : List Char) : Option Binary64 :=
  let (negative, rest) := Decimal.splitSign cs
  let word := String.ofList (rest.map Char.toLower)
  if word = "inf" || word = "infinity" then some (.infinity negative)
  else if word = "nan" then some .nan
  else (Decimal.readUnsigned? negative rest).map Decimal.toBinary64

end AdmissionControl
