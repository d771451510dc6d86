/-
  Quantities of a resource, as exact rationals.

  `parse` reads a quantity from text or takes a number as it stands; `format?` writes one for a
  message.  A quantity is at most 2^63 - 1 in magnitude, and a power of ten in its text at most
  36.  The value of a float is that of its shortest decimal text.  The message of a refusal shows
  the value that is refused, so nothing is refused that cannot be shown.
-/

import AdmissionControl.Json.Printer
import AdmissionControl.Quantity.Literal

namespace AdmissionControl

/-- Why something is refused as a quantity, or a set of them as a limit. -/
inductive QuantityError where
  | invalid (value : Json)
  | exponentOutOfRange (value : Json)
  | tooLarge (value : Json)
  | repeatedResource (name : Text)
  | ofResource (name : Text) (cause : QuantityError)

def QuantityError.message : QuantityError → Text
  | .invalid value => "invalid quantity: " ++ value.display
  | .exponentOutOfRange value => "quantity exponent out of range: " ++ value.display
  | .tooLarge value => "quantity too large: " ++ value.display
  | .repeatedResource name => "resource " ++ name ++ " is set more than once"
  | .ofResource name cause => "resource " ++ name ++ ": " ++ cause.message

/-- How reading a quantity or a limit fails. -/
inductive QuantityFailure where
  | refused (cause : QuantityError)
  /-- The value would be refused, but an integer in it has no decimal text for the message. -/
  | unshown

/-- The failure of a limit at an entry.  It is named after the resource, if it is a refusal. -/
def QuantityFailure.ofResource (name : Text) : QuantityFailure → QuantityFailure
  | .refused cause => .refused (.ofResource name cause)
  | .unshown => .unshown

namespace Quantity

/-- The greatest magnitude of a quantity, 2^63 - 1. -/
def greatest : Rat := 9223372036854775807

/-- The greatest power of ten that may be written. -/
def greatestExponent : Nat := 36

/-! ## The value of a literal -/

/-- The digits of a power of ten without leading zeros; only the ASCII zero is left out. -/
def significant (digits : List Char) : List Char := digits.dropWhile (· == '0')

/-- Whether a power of ten may be written: at most two digits after leading zeros, and not above
the greatest. -/
def Suffix.inRange : Suffix → Bool
  | .exponent _ _ digits =>
    (significant digits).length ≤ 2 && Text.digitsValue (significant digits) ≤ greatestExponent
  | _ => true

/-- What the number before a suffix is multiplied by. -/
def Suffix.multiplier : Suffix → Rat
  | .none => 1
  | .binary unit => mkRat (Nat.pow 2 unit.power) 1
  | .decimal unit => mkRat (Nat.pow 10 unit.power.toNat) (Nat.pow 10 (-unit.power).toNat)
  | .exponent _ sign digits =>
    let n := Text.digitsValue (significant digits)
    if sign = .minus then mkRat 1 (Nat.pow 10 n) else mkRat (Nat.pow 10 n) 1

def Literal.number (l : Literal) : Rat :=
  let magnitude : Int := Text.digitsValue (l.whole ++ l.fractionDigits)
  mkRat (if l.sign = .minus then -magnitude else magnitude) (Nat.pow 10 l.fractionDigits.length)

def Literal.value (l : Literal) : Rat := l.number * l.suffix.multiplier

/-! ## Reading -/

/-- The refusal of a value, whose message shows it. -/
def refuse (cause : Json → QuantityError) (value : Json) : Except QuantityFailure Rat :=
  if value.isWritable then .error (.refused (cause value)) else .error .unshown

/-- A number within the bound; beyond it the value that denotes it is refused. -/
def bounded (number : Rat) (value : Json) : Except QuantityFailure Rat :=
  if greatest < number || number < -greatest then refuse .tooLarge value else .ok number

def parseText (s : Text) : Except QuantityFailure Rat :=
  match s.chars?.bind Literal.read? with
  | none => refuse .invalid (.str s)
  | some l =>
    if l.suffix.inRange then bounded l.value (.str s)
    else refuse .exponentOutOfRange (.str s)

/-- The quantity that a value denotes: text by its grammar, a number by its value, nothing
else. -/
def parse : Json → Except QuantityFailure Rat
  | .str s => parseText s
  | .int n => bounded n (.int n)
  | .float x =>
    match x with
    | .finite .. => bounded x.shortest.toRat (.float x)
    | _ => refuse .invalid (.float x)
  | value => refuse .invalid value

/-! ## Writing -/

/-- A quantity in a message: an integer, thousandths with the unit m, or the text of the nearest
float.  There is none when that float would be infinite. -/
def format? (q : Rat) : Option String :=
  if q.den = 1 then some (toString q.num)
  else
    let thousandths := q * 1000
    if thousandths.den = 1 then some (toString thousandths.num ++ "m")
    else
      match Binary64.ofRat q with
      | .infinity _ => none
      | x => some (x.text .message)

end Quantity

end AdmissionControl
