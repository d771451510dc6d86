/-
  Numeric addresses of hosts.

  An address of version 4 is four decimal numbers up to 255 between dots, none with a leading
  zero.  An address of version 6 is eight groups of hexadecimal digits between colons; two colons
  in a row stand for a run of groups of zeros, an address of version 4 may stand for the last two
  groups, and the name of a zone may follow behind a percent sign.
-/

import AdmissionControl.Number.Decimal
import AdmissionControl.Text.Hexadecimal

namespace AdmissionControl.Url

/-! ## Version 4 -/

/-- Whether some characters are one number of an address of version 4. -/
def isOctet (cs : List Char) : Bool :=
  !cs.isEmpty && cs.length ≤ 3 && cs.all Char.isDigit && (cs.length = 1 || cs.head? != some '0') &&
    Decimal.asciiValue cs ≤ 255

def isAddress4 (cs : List Char) : Bool :=
  let parts := cs.splitOn '.'
  parts.length = 4 && parts.all isOctet

/-- Whether a host has the look of an address of version 4 and must therefore be one: four runs of
digits with a dot between two of them. -/
def looksLikeAddress4 (cs : List Char) : Bool :=
  let parts := cs.splitOn '.'
  parts.length = 4 && parts.all fun part => !part.isEmpty && part.all Char.isDigit

/-! ## Version 6 -/

/-- Whether some characters are one group of an address of version 6. -/
def isGroup (cs : List Char) : Bool :=
  !cs.isEmpty && cs.length ≤ 4 && cs.all fun c => (Text.hexValue? c).isSome

/-- The groups of an address, with two in place of an address of version 4 at its end; none when
that is no address. -/
def groups? (cs : List Char) : Option (List (List Char)) :=
  let parts := cs.splitOn ':'
  let last := parts.getLast?.getD []
  if parts.length < 3 then none
  else if last.contains '.' then
    if isAddress4 last then some (parts.dropLast ++ [['0'], ['0']]) else none
  else some parts

/-- Whether groups with nothing between two colons are an address: there is one such place, in the
middle or at an end, and at least one group is left out there. -/
def isShortened (groups : List (List Char)) : Bool :=
  let high := groups.takeWhile (!·.isEmpty)
  let low := (groups.reverse.takeWhile (!·.isEmpty)).reverse
  let colons := groups.length - high.length - low.length
  let expected := 1 + (if high.isEmpty then 1 else 0) + (if low.isEmpty then 1 else 0)
  colons = expected && high.length + low.length ≤ 7 && high.all isGroup && low.all isGroup

def isAddress6 (cs : List Char) : Bool :=
  let zoneOk := match cs.dropWhile (· != '%') with
    | [] => true
    | _ :: zone => !zone.isEmpty && !zone.contains '%'
  zoneOk && match groups? (cs.takeWhile (· != '%')) with
    | none => false
    | some groups =>
      if groups.contains [] then isShortened groups
      else groups.length = 8 && groups.all isGroup

end AdmissionControl.Url
