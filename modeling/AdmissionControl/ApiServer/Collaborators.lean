/-
  Users, settings and access checks from the API server.

  Each question is one request: the object of a user or a setting is read, and an access check is
  posted as an access review.
-/

import AdmissionControl.ApiServer.Client

namespace AdmissionControl.ApiServer

def managementPath : Text := "/apis/management.cattle.io/v3"

def accessReviewPath : Text := "/apis/authorization.k8s.io/v1/subjectaccessreviews"

def userSubject (name : Text) : Subject :=
  ⟨"GET", managementPath ++ "/users/" ++ name, "user", name⟩

def settingSubject (name : Text) : Subject :=
  ⟨"GET", managementPath ++ "/settings/" ++ name, "setting", name⟩

def accessSubject (check : AccessCheck) : Subject :=
  ⟨"POST", accessReviewPath, "subjectaccessreview", check.resource.name⟩

/-! ## Reading replies -/

def membersOf (j : Json) : Except Failure (List (Text × Json)) :=
  match j.members? with
  | some members => .ok members
  | none => .error .noMembers

/-- The first of some members that is not trivial. -/
def firstNontrivial (members : List (Text × Json)) (names : List Text) : Option Json :=
  names.findSome? fun name => (members.lookup name).bind fun j =>
    if j.isTrivial then none else some j

/-- The user of a reply.  Its name is that of the metadata, or else the one that was asked for. -/
def userOf (name : Text) (reply : Json) : Except Failure User := do
  let members ← membersOf reply
  let metadata ← membersOf ((members.lookup ("metadata" : Text)).getD (.obj []))
  let shownName := (metadata.lookup ("name" : Text)).getD (.str name)
  let principals := (firstNontrivial members ["principalIds"]).getD (.arr [])
  match (User.decodeParts shownName principals).report "User" with
  | .ok user => .ok user
  | .error report => .error (.illTyped report)

/-- The setting of a reply: its value, or else its default. -/
def settingOf (name : Text) (reply : Json) : Except Failure Setting := do
  let members ← membersOf reply
  let value := (firstNontrivial members ["value", "default"]).getD (.str "")
  match (Setting.decodeParts (.str name) value).report "Setting" with
  | .ok setting => .ok setting
  | .error report => .error (.illTyped report)

/-- The status of an access review. -/
def accessStatusOf (reply : Json) : Except Failure (List (Text × Json)) := do
  let members ← membersOf reply
  membersOf ((members.lookup ("status" : Text)).getD (.obj []))

def grants (status : List (Text × Json)) : Bool := (firstNontrivial status ["allowed"]).isSome

def deniedRecord (check : AccessCheck) (status : List (Text × Json)) : LogRecord :=
  ⟨.debug, "Access review denied " ++ check.subject.username ++ " " ++ check.verb ++ " " ++
    check.resource.resource ++ "/" ++ check.resource.name ++ ": " ++
    ((status.lookup ("reason" : Text)).getD (.str "")).plain⟩

/-! ## Writing access reviews -/

/-- The attributes of a check; those that are empty are left out. -/
def attributesJson (check : AccessCheck) : Json :=
  let given := check.resource.members.filter fun entry => !entry.2.isEmpty
  .obj (("verb", .str check.verb) :: given.map fun entry => (entry.1, .str entry.2))

def accessReview (check : AccessCheck) : Json := .obj [
  ("apiVersion", .str "authorization.k8s.io/v1"),
  ("kind", .str "SubjectAccessReview"),
  ("spec", .obj [
    ("resourceAttributes", attributesJson check),
    ("user", .str check.subject.username),
    ("uid", .str check.subject.uid),
    ("groups", UserInfo.texts check.subject.groups),
    ("extra", check.subject.extraJson)])]

/-! ## Answering -/

/-- What a request gave, with the reply read; nothing found stays nothing. -/
def readFound (read : Json → Except Failure α) (handled : Handled Exchange (Option Json)) :
    Handled Exchange (Option α) :=
  { log := handled.log
    reply := do
      match ← handled.reply with
      | none => .ok none
      | some j => (read j).map some
    state := handled.state }

/-- The verdict of an access review; nothing found is a failure. -/
def readVerdict (check : AccessCheck) (handled : Handled Exchange (Option Json)) :
    Handled Exchange Bool :=
  match handled.reply with
  | .error failure => ⟨handled.log, .error failure, handled.state⟩
  | .ok none =>
    ⟨handled.log, .error (.notFound "subjectaccessreview" check.resource.name), handled.state⟩
  | .ok (some j) =>
    match accessStatusOf j with
    | .error failure => ⟨handled.log, .error failure, handled.state⟩
    | .ok status =>
      if grants status then ⟨handled.log, .ok true, handled.state⟩
      else ⟨handled.log ++ [deniedRecord check status], .ok false, handled.state⟩

/-- Answers questions from the API server. -/
def Client.handler (client : Client) : Handler Exchange
  | .user name, exchange =>
    readFound (userOf name) (client.request (userSubject name) none exchange)
  | .setting name, exchange =>
    readFound (settingOf name) (client.request (settingSubject name) none exchange)
  | .access check, exchange =>
    readVerdict check (client.request (accessSubject check) (some (accessReview check)) exchange)

end AdmissionControl.ApiServer
