/-
  References that are followed from a URL.

  A text names a URL by a reference only if all its symbols are characters and if the URL that it
  gives is valid.
-/

import AdmissionControl.Failure
import AdmissionControl.Url.Basic

namespace AdmissionControl.Url

/-- The URL that a reference names from a base, whose target has a slash at its end. -/
def follow (base : Url) (reference : Text) : Except Failure Url :=
  match reference.chars? with
  | none => .error .unencodable
  | some cs => match base.resolve? cs with
    | some url => .ok url
    | none => .error .invalidUrl

/-- The host as it is shown, which has to read back from its ASCII form. -/
def hostName (url : Url) : Except Failure (List Char) :=
  match url.authority.shownHost with
  | .ok host => .ok host
  | .error cause => .error (.invalidHostName cause)

theorem follow_of_half (base : Url) {reference : Text} (h : reference.chars? = none) :
    base.follow reference = .error .unencodable := by
  simp [follow, h]

end AdmissionControl.Url
