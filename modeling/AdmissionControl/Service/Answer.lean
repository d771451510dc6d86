/-
  The answers of the service.

  A review is answered with status 200, be it allowed or denied.  A body that is not JSON, and an
  evaluation that ends in a failure which the service reports, are answered with status 500 and
  nothing but a detail text.  Any other failure, and an answer that cannot be encoded, end in an
  answer of plain text with the same status.
-/

import AdmissionControl.Json.Reader
import AdmissionControl.Service.Description

namespace AdmissionControl

structure ServiceRequest where
  method : Text
  target : Text
  body : List UInt8

inductive ServiceContent where
  | json (j : Json)
  | plain (text : String)
  /-- A page for browsers.  Of these only the type of the content is described here. -/
  | html
  | nothing

def ServiceContent.type? : ServiceContent → Option String
  | .json _ => some "application/json"
  | .plain _ => some "text/plain; charset=utf-8"
  | .html => some "text/html; charset=utf-8"
  | .nothing => none

structure ServiceReply where
  status : Nat
  contentType : Option String
  content : ServiceContent

namespace ServiceReply

def ofContent (status : Nat) (content : ServiceContent) : ServiceReply :=
  ⟨status, content.type?, content⟩

/-- The answer to a request that ends in a failure which is not reported. -/
def broken : ServiceReply := ofContent 500 (.plain "Internal Server Error")

/-- An answer with a value, which has to be encoded. -/
def ofJson (status : Nat) (j : Json) : ServiceReply :=
  if j.isEncodable then ofContent status (.json j) else broken

/-- An answer that holds nothing but a detail text. -/
def detail (status : Nat) (text : Text) : ServiceReply :=
  ofJson status (.obj [("detail", .str text)])

def notFound : ServiceReply := detail 404 "Not Found"

def methodNotAllowed : ServiceReply := detail 405 "Method Not Allowed"

def sentOn : ServiceReply := ofContent 307 .nothing

/-- The answer to a body that is not JSON.  A body whose reading was given up because of its depth
is not counted. -/
def ofJsonError : JsonError → ServiceReply
  | .notText | .malformed | .integerTooLong => detail 500 "Failed to decode admission review."
  | .tooDeep => broken

def health : ServiceReply :=
  let validators := (ResourceKind.all.map ResourceKind.validator).mergeSort fun a b =>
    decide (a ≤ b)
  ofJson 200 (.obj [
    ("status", .str "ok"), ("validators", .arr (validators.map fun name : String => .str name))])

def ofPage : Page → ServiceReply
  | .description => ofJson 200 Route.description
  | .trial | .trialLogin | .reference => ofContent 200 .html

def ofResponse (response : ReviewResponse) : ServiceReply := ofJson 200 response.toJson

def ofFailure (failure : Failure) : ServiceReply :=
  if failure.isReported then
    detail 500 ("Admission evaluation failed: " ++ (failure.message?).getD "")
  else broken

def ofResult : Except Failure ReviewResponse → ServiceReply
  | .ok response => ofResponse response
  | .error failure => ofFailure failure

/-- An answer without its content. -/
def headOnly (reply : ServiceReply) : ServiceReply := { reply with content := .nothing }

end ServiceReply

/-- An answer with what was logged for it, and the state of the handler afterwards. -/
structure Served (σ : Type) where
  reply : ServiceReply
  log : List LogRecord
  state : σ

namespace Route

/-- The resource that a route names, empty for the general route. -/
def resource : Route → String
  | .admission (some kind) => kind.resource
  | _ => ""

/-- Answers a request that belongs to a route.  The JSON of its body may be nested to a depth. -/
def answer (depth : Nat) (handler : Handler σ) (route : Route) (body : List UInt8) (state : σ) :
    Served σ :=
  match route with
  | .health => ⟨.health, [], state⟩
  | .about page => ⟨.ofPage page, [], state⟩
  | .admission _ =>
    match Json.ofBytes depth body with
    | .error cause => ⟨.ofJsonError cause, [], state⟩
    | .ok admissionReview =>
      let outcome := (review admissionReview route.resource).run handler state
      ⟨.ofResult outcome.result, outcome.log, outcome.state⟩

end Route

namespace ServiceRequest

def methodName (request : ServiceRequest) : Text :=
  ⟨request.method.symbols.map fun
    | .char c => .char c.toUpper
    | half => half⟩

def asksHead (request : ServiceRequest) : Bool := request.methodName == "HEAD"

/-- Answers a request under the path that its target names. -/
def answerUnder (depth : Nat) (handler : Handler σ) (request : ServiceRequest) (path : List Char)
    (state : σ) : Served σ :=
  match Route.ofPath? path with
  | some route =>
    if route.methods.any fun method => request.methodName == method then
      route.answer depth handler request.body state
    else ⟨.methodNotAllowed, [], state⟩
  | none =>
    ⟨if (Route.sentOn? path).isSome then .sentOn else .notFound, [], state⟩

/-- Answers a request, unless its target is not valid. -/
def answer (depth : Nat) (handler : Handler σ) (request : ServiceRequest) (state : σ) :
    Except Failure (Served σ) := do
  let path ← Route.pathOfTarget request.target
  let served := request.answerUnder depth handler path state
  return if request.asksHead then { served with reply := served.reply.headOnly } else served

end ServiceRequest

end AdmissionControl
