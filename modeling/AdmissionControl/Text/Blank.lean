/-
  White space around text, and ends of lines.

  Two sets of white space are in use.  The wide one is every character that Unicode counts as
  white space or as a separator of paragraphs and lines; it is cut off a token file.  The narrow
  one leaves out the four information separators of ASCII; it is cut off numbers in settings.
-/

namespace AdmissionControl.Text

/-- White space in the sense of the Unicode property. -/
def isWhiteSpace (c : Char) : Bool :=
  let n := c.toNat
  (0x9 ≤ n && n ≤ 0xd) || n = 0x20 || n = 0x85 || n = 0xa0 || n = 0x1680 ||
    (0x2000 ≤ n && n ≤ 0x200a) || n = 0x2028 || n = 0x2029 || n = 0x202f || n = 0x205f || n = 0x3000

/-- White space, or an information separator of ASCII. -/
def isBlank (c : Char) : Bool :=
  isWhiteSpace c || (0x1c ≤ c.toNat && c.toNat ≤ 0x1f)

/-- A text without the characters of a class at its ends. -/
def strip (drop : Char → Bool) (cs : List Char) : List Char :=
  ((cs.dropWhile drop).reverse.dropWhile drop).reverse

/-- A text with every end of line written as one newline. -/
def unifyLineEnds : List Char → List Char
  | '\r' :: '\n' :: rest => '\n' :: unifyLineEnds rest
  | '\r' :: rest => '\n' :: unifyLineEnds rest
  | c :: rest => c :: unifyLineEnds rest
  | [] => []

end AdmissionControl.Text
