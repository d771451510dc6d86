/-
  JSON values.

  Members of an object keep the order in which they were written.  Integers are unbounded and
  apart from floats; but one of too many digits has no decimal text, and `isWritable` says that
  there is none of these.  Strings and names of members are texts, so they may hold half of a
  surrogate pair; `isEncodable` says that none does, and then the value can be sent as UTF-8.
-/

import AdmissionControl.Entries
import AdmissionControl.Number.Shortest

namespace AdmissionControl

inductive Json where
  | null
  | bool (b : Bool)
  | int (n : Int)
  | float (x : Binary64)
  | str (s : Text)
  | arr (items : List Json)
  | obj (members : List (Text × Json))

namespace Json

/-- A trivial value: null, false, zero, or something empty. -/
def isTrivial : Json → Bool
  | .null => true
  | .bool b => !b
  | .int n => n == 0
  | .float x => x.isZero
  | .str s => s.isEmpty
  | .arr items => items.isEmpty
  | .obj members => members.isEmpty

def members? : Json → Option (List (Text × Json))
  | .obj members => some members
  | _ => none

/-- A member of an object by name; `none` as well for a value that is not an object. -/
def member? (name : Text) (j : Json) : Option Json :=
  j.members?.bind (List.lookup name)

/-- An object from members as written: of members with one name the first gives the place and the
last the value. -/
def ofMembers (written : List (Text × Json)) : Json := .obj (Entries.ofList written)

/-- A text, or null where there is none. -/
def textOrNull : Option Text → Json
  | some s => .str s
  | none => .null

/-- The object of the members whose value is given. -/
def objOfSome (members : List (Text × Option Json)) : Json :=
  .obj (members.filterMap fun entry => entry.2.map (entry.1, ·))

/-- Conditions on the texts, integers and floats in a value. -/
structure LeafTest where
  onText : Text → Bool := fun _ => true
  onInt : Int → Bool := fun _ => true
  onFloat : Binary64 → Bool := fun _ => true

mutual

/-- Whether all texts, integers and floats in a value satisfy their conditions, names of members
included. -/
def allLeaves (test : LeafTest) : Json → Bool
  | .str s => test.onText s
  | .int n => test.onInt n
  | .float x => test.onFloat x
  | .arr items => allItems test items
  | .obj members => allMembers test members
  | .null | .bool _ => true

def allItems (test : LeafTest) : List Json → Bool
  | [] => true
  | item :: rest => allLeaves test item && allItems test rest

def allMembers (test : LeafTest) : List (Text × Json) → Bool
  | [] => true
  | (name, value) :: rest => test.onText name && allLeaves test value && allMembers test rest

end

/-- The greatest number of digits that an integer may have in decimal text, be it read or
written. -/
def greatestDigitCount : Nat := 4300

def wholeTexts : LeafTest where
  onText := (·.string?.isSome)

def shortIntegers : LeafTest where
  onInt n := (Nat.toDigits 10 n.natAbs).length ≤ greatestDigitCount

/-- Whether no text in a value holds half of a surrogate pair. -/
def isEncodable : Json → Bool := allLeaves wholeTexts

/-- Whether no float in a value is infinite or no number at all. -/
def isFinite : Json → Bool := allLeaves { onFloat := Binary64.isFinite }

/-- Whether every integer in a value has a decimal text. -/
def isWritable : Json → Bool := allLeaves shortIntegers

end Json

end AdmissionControl
