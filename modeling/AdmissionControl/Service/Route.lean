/-
  The routes of the service.

  Health is read; reviews are posted, to a route of their own for each kind of resource or to the
  general one, where the request itself says what it is about.  Besides, the service has pages that
  describe it.
-/

import AdmissionControl.Review
import AdmissionControl.Text.Percent
import AdmissionControl.Url.Reference

namespace AdmissionControl

/-- A page that describes the service. -/
inductive Page where
  /-- The description that programs read. -/
  | description
  /-- The description as a page on which requests can be tried. -/
  | trial
  /-- Where the page on which requests can be tried comes back to after a login. -/
  | trialLogin
  /-- The description as a page to read. -/
  | reference
  deriving DecidableEq

namespace Page

def all : List Page := [.description, .trial, .trialLogin, .reference]

def path : Page → String
  | .description => "/openapi.json"
  | .trial => "/docs"
  | .trialLogin => "/docs/oauth2-redirect"
  | .reference => "/redoc"

end Page

/-- What the service offers under one path. -/
inductive Route where
  | health
  /-- Reviews of one kind of resource, or of any. -/
  | admission (kind : Option ResourceKind)
  /-- A page about the service. -/
  | about (page : Page)
  deriving DecidableEq

namespace Route

def admissionPath : String := "/v1/webhook/validation"

def path : Route → String
  | .health => "/healthz"
  | .admission none => admissionPath
  | .admission (some kind) => admissionPath ++ "/" ++ kind.validator
  | .about page => page.path

def methods : Route → List String
  | .health => ["GET"]
  | .admission _ => ["POST"]
  | .about _ => ["GET", "HEAD"]

/-- The routes for which the service is there. -/
def offered : List Route :=
  [.health, .admission none] ++ ResourceKind.all.map fun kind => .admission (some kind)

def all : List Route := offered ++ Page.all.map .about

/-- The paths of the routes for which the service is there, by code points. -/
def paths : List String := (offered.map path).mergeSort fun a b => decide (a ≤ b)

/-- Whether a route has a path, perhaps with a newline behind it. -/
def hasPath (path : List Char) (route : Route) : Bool :=
  path == route.path.toList || path == route.path.toList ++ ['\n']

def ofPath? (path : List Char) : Option Route := all.find? (hasPath path)

/-- A path without the slashes at its end, if it is another one and there are any. -/
def withoutFinalSlashes? (path : List Char) : Option (List Char) :=
  if path = ['/'] || path.getLast? ≠ some '/' then none
  else some (path.reverse.dropWhile (· == '/')).reverse

/-- The route to which the path of a request is sent on, when it has none itself: that of the path
without the slashes at its end. -/
def sentOn? (path : List Char) : Option Route := (withoutFinalSlashes? path).bind ofPath?

/-- The URL of the service itself.  Its host does not count. -/
def serviceUrl : Url := ⟨"http".toList, ⟨[], "localhost".toList, false⟩, ['/'], none⟩

/-- The path that the target of a request names, decoded. -/
def pathOfTarget (target : Text) : Except Failure (List Char) := do
  let url ← serviceUrl.follow target
  let _ ← url.hostName
  return Text.percentDecode (if url.path.isEmpty then ['/'] else url.path)

end Route

end AdmissionControl
