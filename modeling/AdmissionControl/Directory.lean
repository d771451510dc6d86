/-
  Directories: users, settings and access verdicts held in memory.

  A directory answers every question by what it holds, and records each access check.  Any part
  of it may be out of order; then each question to that part fails, and nothing is recorded.
-/

import AdmissionControl.Consultation

namespace AdmissionControl

/-- The parts of a directory that are out of order. -/
structure Outage where
  users : Bool := false
  settings : Bool := false
  authorizer : Bool := false
  deriving DecidableEq

structure Directory where
  users : Entries User := []
  settings : Entries Setting := []
  /-- The verdict on every access, unless there is a policy. -/
  authorized : Bool := true
  policy : Option (AccessCheck → Bool) := none
  outage : Outage := {}

namespace Directory

def verdict (directory : Directory) (check : AccessCheck) : Bool :=
  match directory.policy with
  | some policy => policy check
  | none => directory.authorized

/-- The policy that grants exactly the listed accesses: the name of the user, the verb, and the
name of the resource. -/
def grantsPolicy (grants : List (Text × Text × Text)) (check : AccessCheck) : Bool :=
  grants.contains (check.subject.username, check.verb, check.resource.name)

/-- Answers questions from a directory; the state is the list of the access checks so far. -/
def handler (directory : Directory) : Handler (List AccessCheck)
  | .user name, checks =>
    if directory.outage.users then ⟨[], .error (.unavailable "users" name), checks⟩
    else ⟨[], .ok (directory.users.lookup name), checks⟩
  | .setting name, checks =>
    if directory.outage.settings then ⟨[], .error (.unavailable "settings" name), checks⟩
    else ⟨[], .ok (directory.settings.lookup name), checks⟩
  | .access check, checks =>
    if directory.outage.authorizer then
      ⟨[], .error (.unavailable "authorizer" check.verb), checks⟩
    else ⟨[], .ok (directory.verdict check), checks ++ [check]⟩

/-! ## Entries -/

/-- The items that a value holds: those of an array, the symbols of a text, or the names of an
object's members. -/
def itemsOf : Json → Except Failure (List Json)
  | .arr items => .ok items
  | .str s => .ok (s.symbols.map fun symbol => .str ⟨[symbol]⟩)
  | .obj members => .ok (members.map fun member => .str member.1)
  | _ => .error .noItems

/-- The entries that a value holds: the members of an object; a trivial value holds none. -/
def entriesOf (j : Json) : Except Failure (Entries Json) :=
  if j.isTrivial then .ok []
  else match j.members? with
    | some members => .ok members
    | none => .error .noMembers

def userOf (name : Text) (principals : Json) : Except Failure User :=
  match (User.decodeParts (.str name) principals).report "User" with
  | .ok user => .ok user
  | .error report => .error (.illTyped report)

def settingOf (name : Text) (value : Json) : Except Failure Setting :=
  match (Setting.decodeParts (.str name) value).report "Setting" with
  | .ok setting => .ok setting
  | .error report => .error (.illTyped report)

/-- The users that a value lists; the principals of each are the items of its value. -/
def usersOf (j : Json) : Except Failure (Entries User) := do
  (← entriesOf j).mapM fun entry => do
    let items ← itemsOf entry.2
    (userOf entry.1 (.arr items)).map (entry.1, ·)

def settingsOf (j : Json) : Except Failure (Entries Setting) := do
  (← entriesOf j).mapM fun entry => (settingOf entry.1 entry.2).map (entry.1, ·)

end Directory

end AdmissionControl
