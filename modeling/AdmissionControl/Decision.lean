/-
  Decisions and the reviews that carry them.

  A decision allows or denies one request and may warn.  `Decision.respond` puts it into the
  response of an admission review: a denial has a status with a code that follows from its
  reason, and warnings are present when there are any.
-/

import AdmissionControl.Decoding

namespace AdmissionControl

/-- Why a request is denied. -/
inductive Reason where
  | unspecified
  | badRequest
  | forbidden
  | invalid
  deriving DecidableEq

namespace Reason

def all : List Reason := [.unspecified, .badRequest, .forbidden, .invalid]

def name : Reason → Text
  | .unspecified => ""
  | .badRequest => "BadRequest"
  | .forbidden => "Forbidden"
  | .invalid => "Invalid"

def ofName? (name : Text) : Option Reason := all.find? (·.name == name)

def code : Reason → Nat
  | .unspecified => 400
  | .badRequest => 400
  | .forbidden => 403
  | .invalid => 422

theorem ofName?_name (reason : Reason) : ofName? reason.name = some reason := by
  cases reason <;> decide

end Reason

/-- The verdict on one request. -/
structure Decision where
  allowed : Bool
  reason : Reason := .unspecified
  message : Text := ""
  warnings : List Text := []
  deriving DecidableEq

structure DenialStatus where
  code : Nat
  reason : Reason
  message : Text
  deriving DecidableEq

structure ReviewResponse where
  uid : Text
  allowed : Bool
  status : Option DenialStatus
  warnings : List Text
  deriving DecidableEq

namespace Decision

def allow (warnings : List Text) : Decision := ⟨true, .unspecified, "", warnings⟩

def deny (reason : Reason) (message : Text) (warnings : List Text) : Decision :=
  ⟨false, reason, message, warnings⟩

def decode : Decoder Decision := .model fun members =>
  Decision.mk
    <$> FieldName.require ⟨"allowed", none⟩ .bool members
    <*> FieldName.decode ⟨"reason", none⟩ .unspecified (.name Reason.ofName?) members
    <*> FieldName.decode ⟨"message", none⟩ "" .text members
    <*> FieldName.decode ⟨"warnings", none⟩ [] (.list .text) members

def toJson (decision : Decision) : Json := .obj [
  ("allowed", .bool decision.allowed),
  ("reason", .str decision.reason.name),
  ("message", .str decision.message),
  ("warnings", .arr (decision.warnings.map .str))]

/-- The response that carries a decision to the request of the given uid. -/
def respond (decision : Decision) (uid : Text) : ReviewResponse where
  uid := uid
  allowed := decision.allowed
  status :=
    if decision.allowed then none
    else some ⟨decision.reason.code, decision.reason, decision.message⟩
  warnings := decision.warnings

end Decision

def DenialStatus.toJson (status : DenialStatus) : Json := .obj [
  ("status", .str "Failure"),
  ("code", .int status.code),
  ("reason", .str status.reason.name),
  ("message", .str status.message)]

namespace ReviewResponse

/-- A response as JSON; an absent status and empty warnings are left out. -/
def responseJson (response : ReviewResponse) : Json := .objOfSome [
  ("uid", some (.str response.uid)),
  ("allowed", some (.bool response.allowed)),
  ("status", response.status.map DenialStatus.toJson),
  ("warnings",
    if response.warnings.isEmpty then none else some (.arr (response.warnings.map .str)))]

/-- The admission review around a response. -/
def toJson (response : ReviewResponse) : Json := .obj [
  ("apiVersion", .str "admission.k8s.io/v1"),
  ("kind", .str "AdmissionReview"),
  ("response", response.responseJson)]

end ReviewResponse

end AdmissionControl
