/-
  Sessions: a sequence of steps over one directory.

  A step reviews, looks up, checks an access, or changes the directory.  Changes count for all
  later steps; what a step reads or whether it fails changes nothing but the list of access
  checks.
-/

import AdmissionControl.Directory
import AdmissionControl.Review

namespace AdmissionControl

inductive DirectoryChange where
  | putUser (name : Text) (principals : Json)
  | removeUser (name : Text)
  | putSetting (name : Text) (value : Json)
  | removeSetting (name : Text)
  | authorize (authorized : Bool)

/-- A question or a review, with its parts as they came. -/
inductive SessionRequest where
  | review (admissionReview : Json) (resource : Text)
  | user (name : Text)
  | setting (name : Text)
  /-- Subject and attributes may be any trivial value, which counts as an empty object. -/
  | check (subject : Json) (verb : Text) (attributes : Json)
  | versionManagement (cluster : Json)

inductive SessionAnswer where
  | response (response : ReviewResponse)
  | user (user : User)
  | setting (setting : Setting)
  | verdict (granted : Bool)
  | enabled (enabled : Bool)

inductive SessionStep where
  | request (request : SessionRequest)
  | change (change : DirectoryChange)

/-- What a decoder makes of a value, as a consultation. -/
def consultDecoded (model : String) (decoder : Decoder α) (j : Json) : Consultation α :=
  .ofExcept .illTyped ((decoder j).report model)

def SessionRequest.consult : SessionRequest → Consultation SessionAnswer
  | .review admissionReview resource => do
    return .response (← AdmissionControl.review admissionReview resource)
  | .user name => do return .user (← Consultation.user name)
  | .setting name => do return .setting (← Consultation.setting name)
  | .check subject verb attributes => do
    let subject ← consultDecoded "UserInfo" (.orTrivial {} UserInfo.decode) subject
    let attributes ←
      consultDecoded "ResourceAttributes" (.orTrivial {} ResourceAttributes.decode) attributes
    return .verdict (← Consultation.granted ⟨subject, verb, attributes⟩)
  | .versionManagement cluster => do
    let cluster ← consultDecoded "Cluster" Cluster.decode cluster
    return .enabled (← ClusterRules.versionManagementEnabled (some cluster))

/-- A directory with other users; there are none to change while they are out of order. -/
def Directory.changeUsers (directory : Directory) (change : Entries User → Entries User) :
    Except Failure Directory :=
  if directory.outage.users then .error .noEntries
  else .ok { directory with users := change directory.users }

/-- A directory with other settings; there are none to change while they are out of order. -/
def Directory.changeSettings (directory : Directory)
    (change : Entries Setting → Entries Setting) : Except Failure Directory :=
  if directory.outage.settings then .error .noEntries
  else .ok { directory with settings := change directory.settings }

/-- A directory after a change.  What is put is decoded before anything else. -/
def DirectoryChange.apply (directory : Directory) : DirectoryChange → Except Failure Directory
  | .putUser name principals => do
    let user ← Directory.userOf name principals
    directory.changeUsers (Entries.put name user)
  | .removeUser name => directory.changeUsers (Entries.remove name)
  | .putSetting name value => do
    let setting ← Directory.settingOf name value
    directory.changeSettings (Entries.put name setting)
  | .removeSetting name => directory.changeSettings (Entries.remove name)
  | .authorize authorized => .ok { directory with authorized := authorized }

/-- Where a session stands: its directory, and the access checks so far. -/
structure Session where
  directory : Directory
  checks : List AccessCheck := []

/-- What one step gave: an answer or none for a change, the log, and the number of access checks
so far. -/
structure StepReport where
  result : Except Failure (Option SessionAnswer)
  log : List LogRecord
  checkCount : Nat

namespace Session

def step (session : Session) : SessionStep → StepReport × Session
  | .request request =>
    let outcome := request.consult.run session.directory.handler session.checks
    (⟨outcome.result.map some, outcome.log, outcome.state.length⟩,
      { session with checks := outcome.state })
  | .change change =>
    match change.apply session.directory with
    | .ok directory => (⟨.ok none, [], session.checks.length⟩, { session with directory })
    | .error failure => (⟨.error failure, [], session.checks.length⟩, session)

def run (session : Session) : List SessionStep → List StepReport × Session
  | [] => ([], session)
  | step :: rest =>
    let (report, next) := session.step step
    let (reports, last) := next.run rest
    (report :: reports, last)

end Session

end AdmissionControl
