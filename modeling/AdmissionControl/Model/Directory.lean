/-
  What the rules look up: users, settings, and the resources that access is asked for.
-/

import AdmissionControl.Decoding
import AdmissionControl.Model.Request

namespace AdmissionControl

/-- A user of the platform and the principals under which it logs in. -/
structure User where
  name : Text := ""
  principalIds : List Text := []
  deriving DecidableEq

structure Setting where
  name : Text := ""
  value : Text := ""
  deriving DecidableEq

/-- The resource that an access check is about. -/
structure ResourceAttributes where
  group : Text := ""
  version : Text := ""
  resource : Text := ""
  name : Text := ""
  namespaceName : Text := ""
  deriving DecidableEq

/-- One question to the authorizer. -/
structure AccessCheck where
  subject : UserInfo
  verb : Text
  resource : ResourceAttributes
  deriving DecidableEq

namespace User

def decode : Decoder User := .model fun members =>
  User.mk
    <$> FieldName.decode ⟨"name", none⟩ "" .text members
    <*> FieldName.decode ⟨"principalIds", some "principal_ids"⟩ [] (.list .text) members

/-- Decodes a user from its name and its principals. -/
def decodeParts (name principalIds : Json) : Decoded User :=
  User.mk
    <$> (Decoder.text name).under (.name "name")
    <*> (Decoder.list Decoder.text principalIds).under (.name "principal_ids")

def toJson (user : User) : Json := .obj [
  ("name", .str user.name), ("principalIds", UserInfo.texts user.principalIds)]

end User

namespace Setting

def decode : Decoder Setting := .model fun members =>
  Setting.mk
    <$> FieldName.decode ⟨"name", none⟩ "" .text members
    <*> FieldName.decode ⟨"value", none⟩ "" .text members

/-- Decodes a setting from its name and its value. -/
def decodeParts (name value : Json) : Decoded Setting :=
  Setting.mk
    <$> (Decoder.text name).under (.name "name")
    <*> (Decoder.text value).under (.name "value")

def toJson (setting : Setting) : Json := .obj [
  ("name", .str setting.name), ("value", .str setting.value)]

end Setting

namespace ResourceAttributes

def decode : Decoder ResourceAttributes := .model fun members =>
  ResourceAttributes.mk
    <$> FieldName.decode ⟨"group", none⟩ "" .text members
    <*> FieldName.decode ⟨"version", none⟩ "" .text members
    <*> FieldName.decode ⟨"resource", none⟩ "" .text members
    <*> FieldName.decode ⟨"name", none⟩ "" .text members
    <*> FieldName.decode ⟨"namespace", none⟩ "" .text members

def members (attributes : ResourceAttributes) : List (Text × Text) := [
  ("group", attributes.group),
  ("version", attributes.version),
  ("resource", attributes.resource),
  ("name", attributes.name),
  ("namespace", attributes.namespaceName)]

def toJson (attributes : ResourceAttributes) : Json :=
  .obj (attributes.members.map fun entry => (entry.1, .str entry.2))

end ResourceAttributes

def AccessCheck.toJson (check : AccessCheck) : Json := .obj [
  ("subject", check.subject.toJson),
  ("verb", .str check.verb),
  ("resource", check.resource.toJson)]

end AdmissionControl
