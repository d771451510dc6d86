/-
  Why an evaluation ends without a decision.

  Each failure is named for its cause.  Most are errors that the service reports for itself;
  the others come from data that does not have the shape that was taken for granted.
-/

import AdmissionControl.Json.Lexer
import AdmissionControl.Limit
import AdmissionControl.Model.Request
import AdmissionControl.Url.DomainName

namespace AdmissionControl

/-- Why the version management of a cluster cannot be classified. -/
inductive VersionManagementError where
  | clusterMissing
  | annotationMissing (key : Text)
  | unknownValue (key value : Text) (supported : List Text)

def VersionManagementError.message : VersionManagementError → Text
  | .clusterMissing => "cluster is missing"
  | .annotationMissing key => "the cluster annotation " ++ key ++ " is missing"
  | .unknownValue key value supported =>
    "the value of the cluster annotation " ++ key ++ " must be one of " ++
      Text.intercalate ", " supported ++ ", got " ++ value.quoted

/-- Why an evaluation ends without a decision. -/
inductive Failure where
  | quantity (cause : QuantityError)
  /-- A limit would be refused, but an integer has no decimal text for the message. -/
  | unshown
  | noRequest
  /-- The request or one of its objects does not decode. -/
  | undecodable (subject : String) (report : DecodeReport)
  /-- The request carries no object, or no old one, although its operation needs it. -/
  | noObject (operation : Operation) (kind : String)
  | noOldObject (operation : Operation) (kind : String)
  /-- No rules are registered for the resource. -/
  | unsupportedResource (name : Text)
  | versionManagement (cause : VersionManagementError)
  | notFound (kind : String) (name : Text)
  | unavailable (service : String) (item : Text)
  | unreachable (method kind : String) (name reason : Text)
  | refused (method kind : String) (name : Text) (status : Nat)
  /-- A URL, or a name that becomes part of one, is not valid. -/
  | invalidUrl
  /-- A reply came from a URL without a scheme. -/
  | noScheme
  /-- A host name does not read back from its ASCII form. -/
  | invalidHostName (cause : Url.LabelError)
  /-- A text cannot be sent in the encoding of its place. -/
  | unencodable
  /-- A collaborator's data does not decode. -/
  | illTyped (report : DecodeReport)
  /-- A member was read of something that is no object. -/
  | noMembers
  /-- Items were read of something that has none. -/
  | noItems
  /-- A collaborator that is out of order was to be changed. -/
  | noEntries
  | notJson (cause : JsonError)
  /-- A quantity is beyond what can be written. -/
  | unwritable
  /-- A number that is not finite has no JSON text. -/
  | notFinite
  | directory

namespace Failure

def ofQuantity : QuantityFailure → Failure
  | .refused cause => .quantity cause
  | .unshown => .unshown

/-- The text of a failure, for those that have one. -/
def message? : Failure → Option Text
  | .quantity cause => some cause.message
  | .noRequest => some "admission review has no request"
  | .undecodable subject report =>
    some ("failed to decode " ++ subject ++ ": " ++ report.message)
  | .noObject operation kind =>
    some (operation.name ++ " request for " ++ kind ++ " has no object")
  | .noOldObject operation kind =>
    some (operation.name ++ " request for " ++ kind ++ " has no old object")
  | .unsupportedResource name => some ("no validator for resource " ++ name.quoted)
  | .versionManagement cause => some cause.message
  | .notFound kind name => some (kind ++ " " ++ name.quoted ++ " not found")
  | .unavailable service item => some (service ++ " unavailable: " ++ item)
  | .unreachable method kind name reason =>
    some ("failed to " ++ method ++ " " ++ kind ++ " " ++ name.quoted ++ ": " ++ reason)
  | .refused method kind name status =>
    some ("failed to " ++ method ++ " " ++ kind ++ " " ++ name.quoted ++ ": status " ++
      toString status)
  | .illTyped report => some report.message
  | .unshown | .invalidUrl | .noScheme | .invalidHostName _ | .unencodable | .noMembers
  | .noItems | .noEntries | .notJson _ | .unwritable | .notFinite | .directory => none

/-- Whether the failure is one that the service reports for itself. -/
def isReported : Failure → Bool
  | .quantity _ | .noRequest | .undecodable .. | .noObject .. | .noOldObject ..
  | .unsupportedResource _ | .versionManagement _ | .notFound .. | .unavailable ..
  | .unreachable .. | .refused .. => true
  | .unshown | .illTyped _ | .invalidUrl | .noScheme | .invalidHostName _ | .unencodable
  | .noMembers | .noItems | .noEntries | .notJson _ | .unwritable | .notFinite | .directory => false

/-- Whether the failure is a text or a value that is not what it should be.  A text whose reading
was given up because of its depth is not counted. -/
def isUnreadable : Failure → Bool
  | .unshown | .illTyped _ => true
  | .notJson .notText | .notJson .malformed | .notJson .integerTooLong => true
  | _ => false

/-- Whether a collaborator failed, or did not find what it was asked for. -/
def isCollaborator : Failure → Bool
  | .notFound .. | .unavailable .. | .unreachable .. | .refused .. => true
  | _ => false

end Failure

end AdmissionControl
