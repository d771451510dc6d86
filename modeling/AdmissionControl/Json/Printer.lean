/-
  JSON values as text.

  `render` writes JSON: on one line without blanks, or with each item on a line of its own and
  indented by two blanks a level; characters beyond ASCII as they are or as escapes of their
  UTF-16 units; half of a surrogate pair always as an escape.  `display` writes a value the way it
  is shown inside a message, with quoted text and the words None, True and False.  Integers stand
  with all their digits, so a value is written only where `isWritable` holds of it, as it does of
  every value that was read from text.
-/

import AdmissionControl.Json.Basic
import AdmissionControl.Text.Quoted

namespace AdmissionControl.Json

/-- The escape of one UTF-16 unit. -/
def escapeUnit (u : Nat) : List Char := ['\x5c', 'u'] ++ Text.hex 4 u

/-- The escapes of a character, one for each of its UTF-16 units. -/
def escapeChar (c : Char) : List Char :=
  let n := c.toNat
  if n < 0x10000 then escapeUnit n
  else escapeUnit (0xd800 + (n - 0x10000) / 0x400) ++ escapeUnit (0xdc00 + (n - 0x10000) % 0x400)

def renderChar (asciiOnly : Bool) (c : Char) : List Char :=
  match c with
  | '\x22' => ['\x5c', '\x22']
  | '\x5c' => ['\x5c', '\x5c']
  | '\n' => ['\x5c', 'n']
  | '\r' => ['\x5c', 'r']
  | '\t' => ['\x5c', 't']
  | '\x08' => ['\x5c', 'b']
  | '\x0c' => ['\x5c', 'f']
  | _ => if c.toNat < 0x20 || (asciiOnly && 0x80 ≤ c.toNat) then escapeChar c else [c]

/-- One symbol inside a JSON string; half of a surrogate pair can only be written as an escape. -/
def renderSymbol (asciiOnly : Bool) : Symbol → List Char
  | .char c => renderChar asciiOnly c
  | .half offset => escapeUnit (Symbol.half offset).code

def renderText (asciiOnly : Bool) (t : Text) : String :=
  String.ofList ('\x22' :: t.symbols.flatMap (renderSymbol asciiOnly) ++ ['\x22'])

structure Style where
  /-- One item a line, or everything on one line. -/
  indented : Bool
  /-- Characters beyond ASCII as escapes. -/
  asciiOnly : Bool
  floats : FloatLayout
  /-- Infinities and the value that is no number are written as null. -/
  nullForNonFinite : Bool

namespace Style

/-- Everything on one line, all characters as they are. -/
def compact : Style := ⟨false, false, .message, false⟩

/-- One item a line, ASCII only. -/
def ascii : Style := ⟨true, true, .message, false⟩

/-- One item a line, all characters as they are, floats as in settings. -/
def settings : Style := ⟨true, false, .settings, true⟩

/-- A new line at a level, or nothing. -/
def newline (style : Style) (level : Nat) : String :=
  if style.indented then "\n" ++ String.ofList (List.replicate (2 * level) ' ') else ""

/-- What stands between the name of a member and its value. -/
def colon (style : Style) : String := if style.indented then ": " else ":"

end Style

def renderFloat (style : Style) (x : Binary64) : String :=
  match x with
  | .nan => if style.nullForNonFinite then "null" else "NaN"
  | .infinity negative =>
    if style.nullForNonFinite then "null" else if negative then "-Infinity" else "Infinity"
  | x => x.text style.floats

/-- Items between brackets, each on a line of its own when indented. -/
def bracketed (style : Style) (level : Nat) (opening closing : String) (items : List String) :
    String :=
  if items.isEmpty then opening ++ closing
  else
    let separator := "," ++ style.newline (level + 1)
    opening ++ style.newline (level + 1) ++ separator.intercalate items ++ style.newline level ++
      closing

mutual

/-- A value as JSON, its inner lines indented from the given level. -/
def render (style : Style) (level : Nat) : Json → String
  | .null => "null"
  | .bool b => if b then "true" else "false"
  | .int n => toString n
  | .float x => renderFloat style x
  | .str s => renderText style.asciiOnly s
  | .arr items => bracketed style level "[" "]" (renderItems style (level + 1) items)
  | .obj members => bracketed style level "\x7b" "\x7d" (renderMembers style (level + 1) members)

def renderItems (style : Style) (level : Nat) : List Json → List String
  | [] => []
  | item :: rest => render style level item :: renderItems style level rest

def renderMembers (style : Style) (level : Nat) : List (Text × Json) → List String
  | [] => []
  | (name, value) :: rest =>
    (renderText style.asciiOnly name ++ style.colon ++ render style level value) ::
      renderMembers style level rest

end

def text (style : Style) (j : Json) : String := j.render style 0

/-! ## Values inside messages -/

mutual

/-- A value as it is shown inside a message, if its integers are writable. -/
def display : Json → String
  | .null => "None"
  | .bool b => if b then "True" else "False"
  | .int n => toString n
  | .float x => x.text .message
  | .str s => Text.quoted s
  | .arr items => "[" ++ ", ".intercalate (displayItems items) ++ "]"
  | .obj members => "\x7b" ++ ", ".intercalate (displayMembers members) ++ "\x7d"

def displayItems : List Json → List String
  | [] => []
  | item :: rest => display item :: displayItems rest

def displayMembers : List (Text × Json) → List String
  | [] => []
  | (name, value) :: rest =>
    (Text.quoted name ++ ": " ++ display value) :: displayMembers rest

end

/-- A value as plain text: a string as it is, any other value as it is shown inside a message. -/
def plain : Json → Text
  | .str s => s
  | j => j.display

end AdmissionControl.Json
