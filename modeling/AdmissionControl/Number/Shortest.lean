/-
  The shortest decimal text of a binary64 number.

  Of the decimals that round to a number, `shortest` takes one with the fewest digits, and of
  those the nearest.  For each count of digits the two decimals on either side of the number are
  tried; if any decimal with that many digits reads back, one of these two does.  How the digits
  are laid out is the matter of a `FloatLayout`.
-/

import AdmissionControl.Number.Decimal

namespace AdmissionControl

namespace Binary64

/-- The position of the decimal point: the least `e` with `num / den < 10 ^ e`, for a positive
quotient. -/
def decimalPoint (num den : Nat) : Int :=
  let estimate : Int := (Decimal.digitCount num : Int) - Decimal.digitCount den
  if num * Nat.pow 10 (-estimate).toNat < den * Nat.pow 10 estimate.toNat then estimate
  else estimate + 1

/-- The decimal with `count` digits nearest to `num / den` among those that read back as
`target`. -/
def shortestWith (target : Binary64) (negative : Bool) (num den : Nat) (point : Int)
    (count : Nat) : Option Decimal :=
  let exponent := point - count
  let n := num * Nat.pow 10 (-exponent).toNat
  let d := den * Nat.pow 10 exponent.toNat
  let below : Decimal := ⟨negative, n / d, exponent⟩
  let above : Decimal := ⟨negative, n / d + 1, exponent⟩
  let nearest : Decimal := ⟨negative, divRound n d, exponent⟩
  match below.toBinary64 == target, above.toBinary64 == target with
  | true, true => some nearest
  | true, false => some below
  | false, true => some above
  | false, false => none

/-- The decimal with the fewest digits that reads back as a finite number, zero for the others. -/
def shortest (x : Binary64) : Decimal :=
  match x with
  | .finite negative significand exponent _ =>
    if significand = 0 then ⟨negative, 0, 0⟩
    else
      let (num, den) := scale significand 1 exponent
      let point := decimalPoint num den
      ((List.range' 1 17).findSome? (shortestWith x negative num den point)).getD
        ⟨negative, num * Nat.pow 10 (17 - point).toNat / (den * Nat.pow 10 (point - 17).toNat),
          point - 17⟩
  | _ => ⟨false, 0, 0⟩

end Binary64

/-! ## Layout -/

/-- How the shortest digits of a number are written.  The scientific exponent is the power of ten
of the first digit. -/
structure FloatLayout where
  /-- The least scientific exponent that is written with a point alone. -/
  leastPositional : Int
  /-- The greatest scientific exponent that is written with a point alone. -/
  greatestPositional : Int
  /-- How many digits an exponent has at least. -/
  exponentDigits : Nat

namespace FloatLayout

/-- Numbers in messages and in JSON text: positional from four places after the point to sixteen
before it, and exponents of two digits. -/
def message : FloatLayout := ⟨-4, 15, 2⟩

/-- Numbers in exported settings: positional from five places after the point to sixteen before
it, and exponents as short as they are. -/
def settings : FloatLayout := ⟨-5, 15, 1⟩

end FloatLayout

/-- A decimal without trailing zeros in its coefficient, as its digits and the scientific exponent
of the first one. -/
def Decimal.significantDigits (d : Decimal) : List Char × Int :=
  let digits := Nat.toDigits 10 d.coefficient
  let kept := (digits.reverse.dropWhile (· == '0')).reverse
  (if kept.isEmpty then ['0'] else kept, digits.length + d.exponent - 1)

/-- An exponent with its sign and at least `width` digits. -/
def exponentText (width : Nat) (exponent : Int) : List Char :=
  let digits := Nat.toDigits 10 exponent.natAbs
  ['e', if exponent < 0 then '-' else '+'] ++
    List.replicate (width - digits.length) '0' ++ digits

/-- Digits with a point after the first `whole` of them, filled up with zeros on both sides. -/
def positionalText (digits : List Char) (whole : Nat) : List Char :=
  let integral := digits.take whole ++ List.replicate (whole - digits.length) '0'
  let fraction := digits.drop whole
  integral ++ '.' :: (if fraction.isEmpty then ['0'] else fraction)

def Decimal.text (layout : FloatLayout) (d : Decimal) : List Char :=
  let (digits, exponent) := d.significantDigits
  let body :=
    if d.coefficient = 0 then ['0', '.', '0']
    else if layout.leastPositional ≤ exponent && exponent ≤ layout.greatestPositional then
      if exponent < 0 then
        '0' :: '.' :: List.replicate ((-exponent).toNat - 1) '0' ++ digits
      else positionalText digits (exponent.toNat + 1)
    else
      let mantissa := match digits with
        | first :: more@(_ :: _) => first :: '.' :: more
        | _ => digits
      mantissa ++ exponentText layout.exponentDigits exponent
  if d.negative then '-' :: body else body

def Binary64.text (layout : FloatLayout) : Binary64 → String
  | .nan => "nan"
  | .infinity negative => if negative then "-inf" else "inf"
  | x => String.ofList (x.shortest.text layout)

end AdmissionControl
