/-
  Evaluation of a review from files.

  Files with a review, with users and with settings are read as JSON text; a file that is not
  given counts as an empty object.  The exit status tells the verdict from an error, and the
  review with the response is printed in both cases of a verdict.  A failure that is not an
  error of the input escapes; the program then ends as after a denial, but prints nothing.
-/

import AdmissionControl.Directory
import AdmissionControl.Json.Reader
import AdmissionControl.Review

namespace AdmissionControl

/-- The texts of the files, the depth to which their JSON may be nested, and the verdict on all
access checks. -/
structure OfflineInput where
  depth : Nat
  reviewText : Text
  users : Option Text := none
  settings : Option Text := none
  authorized : Bool := true

structure OfflineResult where
  exitStatus : Nat
  printed : String
  deriving DecidableEq

namespace OfflineResult

/-- The result for a response: the verdict, and the review that carries it. -/
def ofResponse (response : ReviewResponse) : OfflineResult :=
  ⟨if response.allowed then 0 else 1, response.toJson.text .ascii ++ "\n"⟩

/-- The result for a failure: an error when the failure is reported or lies in a text that cannot
be read.  Any other escapes. -/
def ofFailure (failure : Failure) : Except Failure OfflineResult :=
  if failure.isReported || failure.isUnreadable then .ok ⟨2, ""⟩ else .error failure

def ofResult : Except Failure ReviewResponse → Except Failure OfflineResult
  | .ok response => .ok (ofResponse response)
  | .error failure => ofFailure failure

/-- The exit status of the program: that of the result, and one when a failure escapes. -/
def programStatus : Except Failure OfflineResult → Nat
  | .ok result => result.exitStatus
  | .error _ => 1

end OfflineResult

namespace OfflineInput

def read (depth : Nat) (text : Text) : Except Failure Json :=
  match Json.ofText depth text with
  | .ok j => .ok j
  | .error cause => .error (.notJson cause)

/-- The value of a file's text, an empty object for no file. -/
def readGiven (depth : Nat) (text : Option Text) : Except Failure Json :=
  match text with
  | some text => read depth text
  | none => .ok (.obj [])

def directory (input : OfflineInput) : Except Failure Directory := do
  let users ← Directory.usersOf (← readGiven input.depth input.users)
  let settings ← Directory.settingsOf (← readGiven input.depth input.settings)
  return { users, settings, authorized := input.authorized }

def run (input : OfflineInput) : Except Failure (Outcome (List AccessCheck) ReviewResponse) := do
  let directory ← input.directory
  let admissionReview ← read input.depth input.reviewText
  return (review admissionReview "").run directory.handler []

def evaluate (input : OfflineInput) : Except Failure OfflineResult :=
  OfflineResult.ofResult (input.run.bind Outcome.result)

end OfflineInput

end AdmissionControl
