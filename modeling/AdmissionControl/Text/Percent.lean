/-
  Percent encoding.

  A character that may not stand in a part of a URL is written as its UTF-8 bytes, each as a
  percent sign and two capital hexadecimal digits.  The percent sign itself may stand, so text
  that is encoded already stays as it is.
-/

import AdmissionControl.Text.Encoding
import AdmissionControl.Text.Hexadecimal

namespace AdmissionControl.Text

def percentByte (b : UInt8) : List Char :=
  ['%', (Nat.digitChar (b.toNat / 16)).toUpper, (Nat.digitChar (b.toNat % 16)).toUpper]

/-- A text with all characters outside a set in percent encoding. -/
def percentEncode (safe : Char → Bool) (cs : List Char) : List Char :=
  cs.flatMap fun c => if safe c then [c] else (utf8Char c).flatMap percentByte

/-- The bytes of a text in percent encoding; a percent sign without two digits stands for
itself. -/
def percentBytes : List Char → List UInt8
  | [] => []
  | '%' :: high :: low :: rest =>
    match hexValue? high, hexValue? low with
    | some h, some l => UInt8.ofNat (16 * h + l) :: percentBytes rest
    | _, _ => utf8Char '%' ++ percentBytes (high :: low :: rest)
  | c :: rest => utf8Char c ++ percentBytes rest

/-- The text that a text in percent encoding stands for, with a replacement character wherever its
bytes are not well formed. -/
def percentDecode (cs : List Char) : List Char := charsOfUtf8 (percentBytes cs)

/-- Whether a character is visible ASCII and none of those listed. -/
def isVisibleExcept (excluded : List Char) (c : Char) : Bool :=
  0x20 < c.toNat && c.toNat < 0x7f && !excluded.contains c

/-- The characters that stand for themselves in a query. -/
def isQuerySafe : Char → Bool := isVisibleExcept ['\x22', '#', '<', '>']

/-- The characters that stand for themselves in a path. -/
def isPathSafe : Char → Bool :=
  isVisibleExcept ['\x22', '#', '<', '>', '?', '\x60', '\x7b', '\x7d']

end AdmissionControl.Text
