/-
  Admission requests: what is asked, by whom, and about which object.
-/

import AdmissionControl.Decoding

namespace AdmissionControl

/-- What a request does with its object. -/
inductive Operation where
  | create
  | update
  | delete
  | connect
  deriving DecidableEq

namespace Operation

def all : List Operation := [.create, .update, .delete, .connect]

def name : Operation → Text
  | .create => "CREATE"
  | .update => "UPDATE"
  | .delete => "DELETE"
  | .connect => "CONNECT"

def ofName? (name : Text) : Option Operation := all.find? (·.name == name)

theorem ofName?_name (operation : Operation) : ofName? operation.name = some operation := by
  cases operation <;> decide

end Operation

structure GroupVersionKind where
  group : Text := ""
  version : Text := ""
  kind : Text := ""
  deriving DecidableEq

structure GroupVersionResource where
  group : Text := ""
  version : Text := ""
  resource : Text := ""
  deriving DecidableEq

structure UserInfo where
  username : Text := ""
  uid : Text := ""
  groups : List Text := []
  extra : List (Text × List Text) := []
  deriving DecidableEq

/-- An admission request.  The objects are kept as they came. -/
structure AdmissionRequest where
  uid : Text := ""
  kind : GroupVersionKind := {}
  resource : GroupVersionResource := {}
  name : Text := ""
  namespaceName : Text := ""
  operation : Operation
  userInfo : UserInfo := {}
  object : Option (List (Text × Json)) := none
  oldObject : Option (List (Text × Json)) := none
  dryRun : Bool := false

namespace GroupVersionKind

def decode : Decoder GroupVersionKind := .model fun members =>
  GroupVersionKind.mk
    <$> FieldName.decode ⟨"group", none⟩ "" .text members
    <*> FieldName.decode ⟨"version", none⟩ "" .text members
    <*> FieldName.decode ⟨"kind", none⟩ "" .text members

def toJson (gvk : GroupVersionKind) : Json := .obj [
  ("group", .str gvk.group), ("version", .str gvk.version), ("kind", .str gvk.kind)]

end GroupVersionKind

namespace GroupVersionResource

def decode : Decoder GroupVersionResource := .model fun members =>
  GroupVersionResource.mk
    <$> FieldName.decode ⟨"group", none⟩ "" .text members
    <*> FieldName.decode ⟨"version", none⟩ "" .text members
    <*> FieldName.decode ⟨"resource", none⟩ "" .text members

def toJson (gvr : GroupVersionResource) : Json := .obj [
  ("group", .str gvr.group), ("version", .str gvr.version), ("resource", .str gvr.resource)]

end GroupVersionResource

namespace UserInfo

/-- Decodes a user; null groups and extra values count as empty. -/
def decode : Decoder UserInfo := .model fun members =>
  UserInfo.mk
    <$> FieldName.decode ⟨"username", none⟩ "" .text members
    <*> FieldName.decode ⟨"uid", none⟩ "" .text members
    <*> FieldName.decode ⟨"groups", none⟩ [] (.orNull [] (.list .text)) members
    <*> FieldName.decode ⟨"extra", none⟩ [] (.orNull [] (.object (.list .text))) members

def texts (values : List Text) : Json := .arr (values.map .str)

def extraJson (user : UserInfo) : Json :=
  .obj (user.extra.map fun entry => (entry.1, texts entry.2))

def toJson (user : UserInfo) : Json := .obj [
  ("username", .str user.username),
  ("uid", .str user.uid),
  ("groups", texts user.groups),
  ("extra", user.extraJson)]

end UserInfo

namespace AdmissionRequest

/-- The truth value of anything: everything that is not trivial is true. -/
def truth : Decoder Bool := fun j => .value (!j.isTrivial)

def decode : Decoder AdmissionRequest := .model fun members =>
  AdmissionRequest.mk
    <$> FieldName.decode ⟨"uid", none⟩ "" .text members
    <*> FieldName.decode ⟨"kind", none⟩ {} GroupVersionKind.decode members
    <*> FieldName.decode ⟨"resource", none⟩ {} GroupVersionResource.decode members
    <*> FieldName.decode ⟨"name", none⟩ "" .text members
    <*> FieldName.decode ⟨"namespace", none⟩ "" .text members
    <*> FieldName.require ⟨"operation", none⟩ (.name Operation.ofName?) members
    <*> FieldName.decode ⟨"userInfo", some "user_info"⟩ {} UserInfo.decode members
    <*> FieldName.decode ⟨"object", none⟩ none (.optional (.object .any)) members
    <*> FieldName.decode ⟨"oldObject", some "old_object"⟩ none (.optional (.object .any)) members
    <*> FieldName.decode ⟨"dryRun", some "dry_run"⟩ false truth members

def toJson (request : AdmissionRequest) : Json := .obj [
  ("uid", .str request.uid),
  ("kind", request.kind.toJson),
  ("resource", request.resource.toJson),
  ("name", .str request.name),
  ("namespace", .str request.namespaceName),
  ("operation", .str request.operation.name),
  ("userInfo", request.userInfo.toJson),
  ("object", (request.object.map Json.obj).getD .null),
  ("oldObject", (request.oldObject.map Json.obj).getD .null),
  ("dryRun", .bool request.dryRun)]

end AdmissionRequest

end AdmissionControl
