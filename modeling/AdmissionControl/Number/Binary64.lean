/-
  Binary64 numbers as exact data.

  A finite number is a signed significand times a power of two, in the one canonical form that
  the format gives it, so two finite numbers are the same exactly when their fields are.  Both
  zeros are kept apart.  `ofRatio` rounds a quotient to the nearest number, a tie to the even
  significand, and gives an infinity beyond the greatest finite number.
-/

namespace AdmissionControl

/-- The fields of a finite number in canonical form: at most 53 significant bits, and fewer only
at the least exponent. -/
def Binary64.IsCanonical (significand : Nat) (exponent : Int) : Prop :=
  significand < Nat.pow 2 53 ∧ -1074 ≤ exponent ∧ exponent ≤ 971 ∧
    (Nat.pow 2 52 ≤ significand ∨ exponent = -1074)

instance (significand : Nat) (exponent : Int) :
    Decidable (Binary64.IsCanonical significand exponent) := by
  unfold Binary64.IsCanonical; infer_instance

/-- A number of the binary64 format. -/
inductive Binary64 where
  | nan
  | infinity (negative : Bool)
  | finite (negative : Bool) (significand : Nat) (exponent : Int)
      (canonical : Binary64.IsCanonical significand exponent)
  deriving DecidableEq

namespace Binary64

def zero (negative : Bool) : Binary64 := .finite negative 0 (-1074) (by decide)

def isZero : Binary64 → Bool
  | .finite _ significand _ _ => significand == 0
  | _ => false

/-- Whether a number is neither infinite nor no number at all. -/
def isFinite : Binary64 → Bool
  | .finite .. => true
  | _ => false

/-- `num / den` and `den` scaled by a power of two: the quotient times `2 ^ shift`. -/
def scale (num den : Nat) (shift : Int) : Nat × Nat :=
  (num * Nat.pow 2 shift.toNat, den * Nat.pow 2 (-shift).toNat)

def toRat? : Binary64 → Option Rat
  | .finite negative significand exponent _ =>
    let (num, den) := scale significand 1 exponent
    some (mkRat (if negative then -(num : Int) else num) den)
  | _ => none

/-! ## Rounding -/

/-- A quotient rounded to the nearest integer, a half to the even neighbour. -/
def divRound (num den : Nat) : Nat :=
  let quotient := num / den
  let remainder := num % den
  if 2 * remainder < den then quotient
  else if den < 2 * remainder then quotient + 1
  else quotient + quotient % 2

/-- The greatest integer `e` with `2 ^ e ≤ num / den`, for a positive quotient. -/
def log2Ratio (num den : Nat) : Int :=
  let estimate : Int := (num.log2 : Int) - den.log2
  let (n, d) := scale num den (-estimate)
  if n < d then estimate - 1 else estimate

/-- A number from its fields; beyond the greatest exponent it is infinite. -/
def ofFields (negative : Bool) (significand : Nat) (exponent : Int) : Binary64 :=
  if h : IsCanonical significand exponent then .finite negative significand exponent h
  else .infinity negative

/-- The number nearest to `num / den` with the given sign. -/
def ofRatio (negative : Bool) (num den : Nat) : Binary64 :=
  if num = 0 then zero negative
  else
    let exponent := max (log2Ratio num den - 52) (-1074)
    let (n, d) := scale num den (-exponent)
    let significand := divRound n d
    if significand = Nat.pow 2 53 then ofFields negative (Nat.pow 2 52) (exponent + 1)
    else ofFields negative significand exponent

/-- The number nearest to a rational. -/
def ofRat (q : Rat) : Binary64 := ofRatio (decide (q < 0)) q.num.natAbs q.den

end Binary64

end AdmissionControl
