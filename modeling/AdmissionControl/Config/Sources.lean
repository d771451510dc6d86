/-
  Where a configuration comes from.

  A field has the value that the caller gives, or else that of its variable in the environment,
  or else that of its variable in a file, or else its default.  Names of variables count without
  regard to case; of names that differ in case alone the last one counts.
-/

import AdmissionControl.Config.Basic
import AdmissionControl.Config.VariableFile

namespace AdmissionControl

structure ConfigSources where
  /-- Fields with the values that the caller gives. -/
  given : Entries Json := []
  environment : Entries String := []
  /-- The text of the file of variables. -/
  file : Option String := none

namespace ConfigSources

/-- A character in lower case, as far as this gives an ASCII letter.  The Kelvin sign is the only
capital beyond ASCII of which this is true. -/
def lowerChar (c : Char) : Char := if c.toNat = 0x212a then 'k' else c.toLower

/-- The name of a variable without regard to case. -/
def foldCase (name : Text) : Text :=
  ⟨name.symbols.map fun
    | .char c => .char (lowerChar c)
    | half => half⟩

/-- The name of a field's variable, in lower case. -/
def variableName (field : Text) : Text := "cattle_webhook_" ++ field

/-- The value that the entries of variables give to a field. -/
def valueIn (entries : Entries (Option String)) (field : Text) : Option Json :=
  let last := entries.reverse.find? fun entry => foldCase entry.1 == variableName field
  (last.bind Prod.snd).map fun value => .str value

def environmentEntries (sources : ConfigSources) : Entries (Option String) :=
  sources.environment.map fun entry => (entry.1, some entry.2)

def variableEntries (sources : ConfigSources) : Entries (Option String) :=
  match sources.file with
  | some text => Config.fileEntries sources.environment text
  | none => []

/-- The value of a field, unless it has its default. -/
def value? (sources : ConfigSources) (field : Text) : Option Json :=
  (sources.given.lookup field).or
    ((valueIn sources.environmentEntries field).or (valueIn sources.variableEntries field))

/-- The fields that do not have their default. -/
def members (sources : ConfigSources) (fields : List Text) : List (Text × Json) :=
  fields.filterMap fun field => (sources.value? field).map (field, ·)

end ConfigSources

def ListenerConfig.load (exists? : Text → Bool) (sources : ConfigSources) :
    Except DecodeReport ListenerConfig :=
  let names := (fields {}).map Prod.fst
  (decodeFields exists? (sources.members names)).report "ServerConfig"

def ServiceConfig.load (exists? : Text → Bool) (sources : ConfigSources) :
    Except DecodeReport ServiceConfig :=
  let names := (fields {}).map Prod.fst
  (decodeFields exists? (sources.members names)).report "WebhookConfig"

end AdmissionControl
