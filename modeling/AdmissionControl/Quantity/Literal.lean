/-
  The written form of a quantity.

  A literal is a sign, digits with at most one point among or around them, and a suffix: a
  binary unit such as Ki, a decimal unit such as m or M, or a power of ten after the letter e.
  Digits may be of any script.  `Literal.read?` takes a text apart and `Literal.chars` puts it
  together again; the parts of a text are unique.
-/

import AdmissionControl.Text.DecimalDigit

namespace AdmissionControl.Quantity

/-- A sign as it is written. -/
inductive Sign where
  | none
  | plus
  | minus
  deriving DecidableEq

def Sign.chars : Sign → List Char
  | .none => []
  | .plus => ['+']
  | .minus => ['-']

/-- The sign at the front of a text, and the rest. -/
def Sign.split : List Char → Sign × List Char
  | '+' :: rest => (.plus, rest)
  | '-' :: rest => (.minus, rest)
  | rest => (.none, rest)

/-- A unit that is a power of 1024. -/
inductive BinaryUnit where
  | ki | mi | gi | ti | pi | ei
  deriving DecidableEq

namespace BinaryUnit

def all : List BinaryUnit := [.ki, .mi, .gi, .ti, .pi, .ei]

/-- The letter before the i. -/
def letter : BinaryUnit → Char
  | .ki => 'K'
  | .mi => 'M'
  | .gi => 'G'
  | .ti => 'T'
  | .pi => 'P'
  | .ei => 'E'

/-- The power of two that a unit stands for. -/
def power : BinaryUnit → Nat
  | .ki => 10
  | .mi => 20
  | .gi => 30
  | .ti => 40
  | .pi => 50
  | .ei => 60

end BinaryUnit

/-- A unit that is a power of ten. -/
inductive DecimalUnit where
  | nano | micro | milli | kilo | mega | giga | tera | peta | exa
  deriving DecidableEq

namespace DecimalUnit

def all : List DecimalUnit :=
  [.nano, .micro, .milli, .kilo, .mega, .giga, .tera, .peta, .exa]

def letter : DecimalUnit → Char
  | .nano => 'n'
  | .micro => 'u'
  | .milli => 'm'
  | .kilo => 'k'
  | .mega => 'M'
  | .giga => 'G'
  | .tera => 'T'
  | .peta => 'P'
  | .exa => 'E'

/-- The power of ten that a unit stands for. -/
def power : DecimalUnit → Int
  | .nano => -9
  | .micro => -6
  | .milli => -3
  | .kilo => 3
  | .mega => 6
  | .giga => 9
  | .tera => 12
  | .peta => 15
  | .exa => 18

end DecimalUnit

/-- What follows the digits of a quantity. -/
inductive Suffix where
  | none
  | binary (unit : BinaryUnit)
  | decimal (unit : DecimalUnit)
  /-- The letter e, capital or not, then a power of ten with an optional sign. -/
  | exponent (capital : Bool) (sign : Sign) (digits : List Char)
  deriving DecidableEq

namespace Suffix

def chars : Suffix → List Char
  | .none => []
  | .binary unit => [unit.letter, 'i']
  | .decimal unit => [unit.letter]
  | .exponent capital sign digits => (if capital then 'E' else 'e') :: sign.chars ++ digits

/-- A power of ten behind its letter. -/
def readExponent? (capital : Bool) (cs : List Char) : Option Suffix :=
  let (sign, digits) := Sign.split cs
  if !digits.isEmpty && digits.all Text.isDecimalDigit then some (.exponent capital sign digits)
  else Option.none

/-- The suffix that a text is. -/
def read? : List Char → Option Suffix
  | [] => some .none
  | [c] => (DecimalUnit.all.find? (·.letter == c)).map .decimal
  | [c, 'i'] => (BinaryUnit.all.find? (·.letter == c)).map .binary
  | 'e' :: rest => readExponent? false rest
  | 'E' :: rest => readExponent? true rest
  | _ => Option.none

end Suffix

/-- The parts of a quantity's text.  Without a point there is no fraction; a point may stand
behind the last digit or before the first. -/
structure Literal where
  sign : Sign
  whole : List Char
  fraction : Option (List Char)
  suffix : Suffix
  deriving DecidableEq

namespace Literal

def fractionDigits (l : Literal) : List Char := l.fraction.getD []

def chars (l : Literal) : List Char :=
  l.sign.chars ++ l.whole ++ (l.fraction.map ('.' :: ·)).getD [] ++ l.suffix.chars

/-- The parts of a text; `none` when it is no quantity. -/
def read? (cs : List Char) : Option Literal :=
  let (sign, unsigned) := Sign.split cs
  let whole := unsigned.takeWhile Text.isDecimalDigit
  let behind := unsigned.dropWhile Text.isDecimalDigit
  let (fraction, rest) := match behind with
    | '.' :: tail =>
      (some (tail.takeWhile Text.isDecimalDigit), tail.dropWhile Text.isDecimalDigit)
    | _ => (none, behind)
  if whole.isEmpty && (fraction.getD []).isEmpty then none
  else (Suffix.read? rest).map (⟨sign, whole, fraction, ·⟩)

end Literal

end AdmissionControl.Quantity
