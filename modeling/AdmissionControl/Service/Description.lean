/-
  The description of the service that programs read.

  The description lists the paths of the service with the method of each, a summary, a name that
  identifies the operation, and the form of a successful answer.
-/

import AdmissionControl.Service.Route

namespace AdmissionControl

namespace Route

/-- The name of what is done under a route; nothing is done under that of a page. -/
def operationName : Route → String
  | .health => "healthz"
  | .admission none => "validate"
  | .admission (some kind) => "validate_" ++ kind.resource
  | .about _ => ""

/-- A word with a capital at its beginning. -/
def capitalize (word : List Char) : List Char :=
  match word with
  | [] => []
  | c :: rest => c.toUpper :: rest

def summary (route : Route) : String :=
  let words := (route.operationName.toList.splitOn '_').map capitalize
  String.ofList ([' '].intercalate words)

/-- The method that a route is described with, in small letters. -/
def describedMethod (route : Route) : String :=
  String.ofList ((route.methods.headD "").toList.map Char.toLower)

/-- The name that identifies an operation: name, path and method, in letters, digits and
underscores. -/
def operationId (route : Route) : String :=
  let plain := (route.operationName ++ route.path).toList.map fun c =>
    if c.isAlphanum || c = '_' then c else '_'
  String.ofList plain ++ "_" ++ route.describedMethod

/-- The form of a successful answer; only that of the health is known. -/
def answerSchema : Route → Json
  | .health => .obj [("$ref", .str "#/components/schemas/HealthResponse")]
  | _ => .obj []

def described (route : Route) : Text × Json :=
  let success : Json := .obj [
    ("description", .str "Successful Response"),
    ("content", .obj [("application/json", .obj [("schema", route.answerSchema)])])]
  (route.path, .obj [(route.describedMethod, .obj [
    ("summary", .str route.summary),
    ("operationId", .str route.operationId),
    ("responses", .obj [("200", success)])])])

/-- The form of the answer about the health of the service. -/
def healthSchema : Json := .obj [
  ("properties", .obj [
    ("status", .obj [
      ("type", .str "string"), ("title", .str "Status"), ("default", .str "ok")]),
    ("validators", .obj [
      ("items", .obj [("type", .str "string")]),
      ("type", .str "array"),
      ("title", .str "Validators")])]),
  ("type", .str "object"),
  ("title", .str "HealthResponse")]

def description : Json := .obj [
  ("openapi", .str "3.1.0"),
  ("info", .obj [("title", .str "FastAPI"), ("version", .str "0.1.0")]),
  ("paths", .obj (offered.map described)),
  ("components", .obj [("schemas", .obj [("HealthResponse", healthSchema)])])]

end Route

end AdmissionControl
