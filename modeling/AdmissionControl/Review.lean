/-
  Admission reviews.

  A review carries one request.  `review` decodes the request, finds the rules for its resource,
  decodes the objects that the operation carries, evaluates the rules, and answers with the
  response for the request.
-/

import AdmissionControl.Rules.Cluster
import AdmissionControl.Rules.Project

namespace AdmissionControl

/-- The kinds of objects that have rules. -/
inductive ResourceKind where
  | cluster
  | project
  deriving DecidableEq

namespace ResourceKind

/-- The kinds in the order in which they are registered. -/
def all : List ResourceKind := [.cluster, .project]

def group : String := "management.cattle.io"

def resource : ResourceKind → String
  | .cluster => "clusters"
  | .project => "projects"

def kind : ResourceKind → String
  | .cluster => "Cluster"
  | .project => "Project"

/-- The name under which the rules of a kind are registered. -/
def validator (k : ResourceKind) : String := k.resource ++ "." ++ group

def ofResource? (name : Text) : Option ResourceKind := all.find? fun k => k.resource == name

def ofKind? (name : Text) : Option ResourceKind := all.find? fun k => k.kind == name

def ruleNames : ResourceKind → List String
  | .cluster => ClusterRules.all.map Rule.name
  | .project => ProjectRules.all.map Rule.name

end ResourceKind

/-! ## Dispatch -/

/-- The kind whose rules a request falls under: that of the resource which the caller names, or
else that of the request's resource, or else that of the request's kind. -/
def dispatch (request : AdmissionRequest) (resource : Text) :
    Except Failure ResourceKind :=
  let name := if resource == "" then request.resource.resource else resource
  let byKind := if resource == "" then ResourceKind.ofKind? request.kind.kind else none
  match (ResourceKind.ofResource? name).or byKind with
  | some kind => .ok kind
  | none => .error (.unsupportedResource (if name == "" then request.kind.kind else name))

/-! ## Objects -/

def hasRules : Operation → Bool
  | .create | .update | .delete => true
  | .connect => false

def decodeObject (kind : String) (decoder : Decoder α) :
    Option (List (Text × Json)) → Except Failure (Option α)
  | none => .ok none
  | some members =>
    match (decoder (.obj members)).report kind with
    | .ok object => .ok (some object)
    | .error report => .error (.undecodable kind report)

/-- What the rules look at: the objects that the operation carries, decoded.  There is none before
a creation and none after a deletion. -/
def ruleContext (kind : String) (decoder : Decoder α) (request : AdmissionRequest) :
    Except Failure (RuleContext α) := do
  let operation := request.operation
  let old ← if operation = .create then .ok none else decodeObject kind decoder request.oldObject
  let new ← if operation = .delete then .ok none else decodeObject kind decoder request.object
  if (operation = .create || operation = .update) && new.isNone then
    .error (.noObject operation kind)
  else if (operation = .update || operation = .delete) && old.isNone then
    .error (.noOldObject operation kind)
  else .ok ⟨operation, old, new, request.userInfo⟩

def decideBy (kind : String) (decoder : Decoder α) (rules : List (Rule α))
    (request : AdmissionRequest) : Consultation Decision :=
  if hasRules request.operation then do
    let context ← .ofExcept id (ruleContext kind decoder request)
    let evaluation ← evaluateRules rules context
    return evaluation.decision
  else return .allow []

def decideRequest (kind : ResourceKind) (request : AdmissionRequest) : Consultation Decision :=
  match kind with
  | .cluster => decideBy kind.kind Cluster.decode ClusterRules.all request
  | .project => decideBy kind.kind Project.decode ProjectRules.all request

/-! ## Reviews -/

def decisionRecord (kind : ResourceKind) (request : AdmissionRequest) (decision : Decision) :
    LogRecord :=
  let subject := request.operation.name ++ " " ++ kind.kind ++ " " ++ request.name.quoted ++
    " (uid=" ++ request.uid ++ ")"
  if decision.allowed then ⟨.debug, "Allowed " ++ subject⟩
  else
    ⟨.info, "Denied " ++ subject ++ ": " ++ decision.reason.name ++ ": " ++ decision.message⟩

def evaluateRequest (request : AdmissionRequest) (resource : Text) : Consultation Decision := do
  let kind ← .ofExcept id (dispatch request resource)
  let decision ← decideRequest kind request
  let logged := decisionRecord kind request decision
  Consultation.record logged.level logged.message
  return decision

def requestOf (review : Json) : Except Failure AdmissionRequest :=
  match review.member? "request" with
  | some (.obj members) =>
    match (AdmissionRequest.decode (.obj members)).report "AdmissionRequest" with
    | .ok request => .ok request
    | .error report => .error (.undecodable "admission request" report)
  | _ => .error .noRequest

/-- Answers a review.  A resource that is not empty takes the place of the one that the request
names. -/
def review (admissionReview : Json) (resource : Text) : Consultation ReviewResponse := do
  let request ← .ofExcept id (requestOf admissionReview)
  let decision ← evaluateRequest request resource
  return decision.respond request.uid

end AdmissionControl
