/-
  Files of variables.

  A file holds one variable a line, `NAME=value`, possibly after the word export.  A value stands
  as it is up to a comment, or in quotes, where it may run over several lines and hold escapes.
  A line that is none of this is skipped.  A value may refer to variables set before it, or in
  the environment, as `${NAME}` or `${NAME:-default}`.
-/

import AdmissionControl.Entries
import AdmissionControl.Text.Blank

namespace AdmissionControl.Config

/-- Blanks that do not end a line. -/
def isInlineBlank (c : Char) : Bool := Text.isBlank c && c != '\n'

/-! ## Quoted values -/

/-- A quoted value and what is behind it, from behind the quote that opens it.  The first quote
that no backslash escapes closes it. -/
def quotedValue? (quote : Char) : List Char → Option (List Char × List Char)
  | [] => none
  | '\x5c' :: c :: rest =>
    (quotedValue? quote rest).map fun (body, behind) => ('\x5c' :: c :: body, behind)
  | c :: rest =>
    if c = quote then some ([], rest)
    else (quotedValue? quote rest).map fun (body, behind) => (c :: body, behind)

def doubleEscape? : Char → Option Char
  | '\x5c' => some '\x5c'
  | '\'' => some '\''
  | '"' => some '"'
  | 'a' => some '\x07'
  | 'b' => some '\x08'
  | 'f' => some '\x0c'
  | 'n' => some '\n'
  | 'r' => some '\r'
  | 't' => some '\t'
  | 'v' => some '\x0b'
  | _ => none

def singleEscape? : Char → Option Char
  | '\x5c' => some '\x5c'
  | '\'' => some '\''
  | _ => none

/-- A text with its escapes replaced; what is no escape stays as it is. -/
def unescape (escape? : Char → Option Char) : List Char → List Char
  | '\x5c' :: c :: rest =>
    match escape? c with
    | some meant => meant :: unescape escape? rest
    | none => '\x5c' :: unescape escape? (c :: rest)
  | c :: rest => c :: unescape escape? rest
  | [] => []
termination_by cs => cs.length

/-! ## Lines -/

/-- A text up to the first blanks that a comment follows. -/
def cutComment : List Char → List Char
  | [] => []
  | c :: rest =>
    if Text.isBlank c && (rest.dropWhile Text.isBlank).head? = some '#' then []
    else c :: cutComment rest

/-- The value behind an equals sign, and what is behind the value.  A comment may begin right
behind the blanks after the sign. -/
def value? (cs : List Char) : Option (List Char × List Char) :=
  match cs.dropWhile isInlineBlank with
  | '\'' :: rest =>
    (quotedValue? '\'' rest).map fun (body, behind) => (unescape singleEscape? body, behind)
  | '"' :: rest =>
    (quotedValue? '"' rest).map fun (body, behind) => (unescape doubleEscape? body, behind)
  | _ => some (Text.strip Text.isBlank (cutComment (cs.takeWhile (· != '\n'))),
    cs.dropWhile (· != '\n'))

/-- A text without the word export and the blanks behind it. -/
def skipExport (cs : List Char) : List Char :=
  match cs with
  | 'e' :: 'x' :: 'p' :: 'o' :: 'r' :: 't' :: c :: rest =>
    if isInlineBlank c then rest.dropWhile isInlineBlank else cs
  | _ => cs

/-- The name at the beginning of a line, `none` where a comment begins, and what is behind it.
There is no result where neither stands. -/
def name? (cs : List Char) : Option (Option (List Char) × List Char) :=
  match cs with
  | '#' :: _ => some (none, cs)
  | '\'' :: rest =>
    match rest.takeWhile (· != '\''), rest.dropWhile (· != '\'') with
    | _ :: _, _ :: behind => some (some (rest.takeWhile (· != '\'')), behind)
    | _, _ => none
  | _ =>
    let isNameChar c := c != '=' && c != '#' && !Text.isBlank c
    match cs.takeWhile isNameChar with
    | [] => none
    | name => some (some name, cs.dropWhile isNameChar)

/-- The rest of a text behind the end of its first line, where nothing but blanks and a comment
may stand before that end. -/
def endLine? (cs : List Char) : Option (List Char) :=
  let atComment := match cs.dropWhile isInlineBlank with
    | '#' :: rest => rest.dropWhile (· != '\n')
    | _ => cs
  match atComment.dropWhile isInlineBlank with
  | [] => some []
  | '\n' :: rest => some rest
  | _ => none

def skipLine (cs : List Char) : List Char := (cs.dropWhile (· != '\n')).drop 1

/-- The variable of a line: its name, and its value if there is an equals sign. -/
structure Variable where
  name : Text
  value : Option (List Char)

/-- A result, or the text from where reading got stuck. -/
def orStuck (start : List Char) : Option α → Except (List Char) α
  | some a => .ok a
  | none => .error start

/-- The variable at the beginning of a text, none on a line without a name, and what is behind its
line.  Where the line is not well formed, the error is the text from where reading got stuck. -/
def readLine (cs : List Char) : Except (List Char) (Option Variable × List Char) := do
  let start := skipExport cs
  let (name, afterName) ← orStuck start (name? start)
  let atSign := afterName.dropWhile isInlineBlank
  let (value, behind) ← match atSign with
    | '=' :: rest => do
      let (value, behind) ← orStuck rest (value? rest)
      .ok (some value, behind)
    | _ => .ok (none, atSign)
  let rest ← orStuck behind (endLine? behind)
  return (name.map fun name => ⟨.ofChars name, value⟩, rest)

/-- The variables of a text, in order; `fuel` bounds the number of lines. -/
def variablesWithin : (fuel : Nat) → List Char → List Variable
  | 0, _ => []
  | fuel + 1, cs =>
    match cs.dropWhile Text.isBlank with
    | [] => []
    | line => match readLine line with
      | .ok (found, rest) => found.toList ++ variablesWithin fuel rest
      | .error stuck => variablesWithin fuel (skipLine stuck)

/-- The variables of a file, in order.  A byte order mark at its beginning does not count. -/
def fileVariables (file : String) : List Variable :=
  let cs := match Text.unifyLineEnds file.toList with
    | '\ufeff' :: rest => rest
    | cs => cs
  variablesWithin (cs.length + 1) cs

/-! ## References -/

/-- The reference at the beginning of a text, behind its opening bracket: the name, the default,
and what is behind the closing bracket. -/
def reference? (cs : List Char) : Option (Text × List Char × List Char) :=
  let isNameChar c := c != '\x7d' && c != ':'
  let name := Text.ofChars (cs.takeWhile isNameChar)
  match cs.dropWhile isNameChar with
  | '\x7d' :: rest => some (name, [], rest)
  | ':' :: '-' :: rest => match rest.dropWhile (· != '\x7d') with
    | _ :: behind => some (name, rest.takeWhile (· != '\x7d'), behind)
    | [] => none
  | _ => none

/-- A value with its references replaced; `fuel` bounds the number of characters. -/
def resolveWithin (valueOf : Text → Option (List Char)) : (fuel : Nat) → List Char → List Char
  | 0, _ => []
  | fuel + 1, '$' :: '\x7b' :: rest =>
    match reference? rest with
    | some (name, default, behind) =>
      (valueOf name).getD default ++ resolveWithin valueOf fuel behind
    | none => '$' :: '\x7b' :: resolveWithin valueOf fuel rest
  | fuel + 1, c :: rest => c :: resolveWithin valueOf fuel rest
  | _ + 1, [] => []

def resolveReferences (valueOf : Text → Option (List Char)) (cs : List Char) : List Char :=
  resolveWithin valueOf (cs.length + 1) cs

/-- What a name refers to: the variable set last in the file, even if it has no value, and else the
variable of the environment. -/
def referredTo (environment : Entries String) (entries : Entries (Option String))
    (name : Text) : Option (List Char) :=
  match entries.lookup name with
  | some value => some (value.getD "").toList
  | none => (environment.lookup name).map String.toList

/-- The variables of a file with all references replaced.  A variable without an equals sign has
no value. -/
def fileEntries (environment : Entries String) (file : String) : Entries (Option String) :=
  (fileVariables file).foldl
    (fun entries entry =>
      let resolve := resolveReferences (referredTo environment entries)
      Entries.put entry.name (entry.value.map fun value => String.ofList (resolve value)) entries)
    []

end AdmissionControl.Config
