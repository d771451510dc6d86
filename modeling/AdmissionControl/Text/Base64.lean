/-
  Bytes in Base64.

  Three bytes make four characters of six bits each.  Where one or two bytes are left at the end,
  two or three characters are written, and equals signs fill up the group.
-/

namespace AdmissionControl.Text

/-- The characters of the values of six bits, in order. -/
def base64Alphabet : List Char :=
  "ABCDEFGHIJKLMNOPQRSTUVWXYZabcdefghijklmnopqrstuvwxyz0123456789+/".toList

/-- The character of the six bits of a number from a position on. -/
def base64Char (number position : Nat) : Char :=
  base64Alphabet.getD (number / Nat.pow 2 position % 64) 'A'

def base64 : List UInt8 → List Char
  | a :: b :: c :: rest =>
    let n := (a.toNat * 256 + b.toNat) * 256 + c.toNat
    base64Char n 18 :: base64Char n 12 :: base64Char n 6 :: base64Char n 0 :: base64 rest
  | [a, b] =>
    let n := (a.toNat * 256 + b.toNat) * 4
    [base64Char n 12, base64Char n 6, base64Char n 0, '=']
  | [a] =>
    let n := a.toNat * 16
    [base64Char n 6, base64Char n 0, '=', '=']
  | [] => []

end AdmissionControl.Text
