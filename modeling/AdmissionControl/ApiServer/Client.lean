/-
  Requests to the API server and their replies.

  The replies come from a script; a request takes the next one, and when there is none left the
  server knows nothing.  A request that could not be delivered in time, or for which there was
  no connection, is sent again up to a number of times.

  The base URL gives the host and a path that stands before every target.  A name becomes part of
  the target as it is, so a question mark in it begins a query, a number sign ends the target, and
  dot segments are resolved.  A client names itself by the user of its base URL, or else by its
  token.
-/

import AdmissionControl.Config.Basic
import AdmissionControl.Consultation
import AdmissionControl.Json.Reader
import AdmissionControl.Text.Base64
import AdmissionControl.Url.Reference

namespace AdmissionControl.ApiServer

/-- Why a request had no reply. -/
inductive Fault where
  | connectError
  | connectTimeout
  | readTimeout
  | writeTimeout
  | poolTimeout
  | other
  deriving DecidableEq

/-- Whether a request is worth sending again. -/
def Fault.isTransient : Fault → Bool
  | .other => false
  | _ => true

/-- The body of a reply.  A value stands for any body whose reading gives this value, so its depth
and the digits of its integers are not looked at again; a body that may not be read is a text. -/
inductive ReplyBody where
  | json (j : Json)
  | text (s : Text)

namespace ReplyBody

/-- Whether a body can be sent: a value needs a text, and a text an encoding. -/
def checkSendable : ReplyBody → Except Failure Unit
  | .json j =>
    if !j.isFinite then .error .notFinite
    else if !j.isEncodable then .error .unencodable
    else .ok ()
  | .text s => if s.string?.isSome then .ok () else .error .unencodable

/-- The value of a body.  A text is read from its bytes. -/
def value (depth : Nat) : ReplyBody → Except Failure Json
  | .json j => .ok j
  | .text s =>
    match Json.ofBytes depth (Text.utf8 (s.chars?.getD [])) with
    | .ok j => .ok j
    | .error cause => .error (.notJson cause)

def shown : ReplyBody → Text
  | .json j => j.text .compact
  | .text s => s

end ReplyBody

inductive Reply where
  | response (status : Nat) (body : ReplyBody)
  | fault (fault : Fault) (reason : Text)

structure Request where
  method : String
  target : String
  host : String
  authorization : Option String
  accept : String
  body : Option Json

/-- The replies that are still to come, and the requests that were sent. -/
structure Exchange where
  replies : List Reply
  sent : List Request := []

namespace Exchange

/-- The reply when no other is left. -/
def exhausted : Reply := .response 404 (.text "")

def sendOnce (request : Request) (exchange : Exchange) : Reply × Exchange :=
  (exchange.replies.headD exhausted,
    { replies := exchange.replies.tail, sent := exchange.sent ++ [request] })

/-- Sends a request, and again up to `retries` times as long as it is worth it. -/
def send (request : Request) : (retries : Nat) → Exchange → Reply × Exchange
  | 0, exchange => exchange.sendOnce request
  | retries + 1, exchange =>
    let (reply, next) := exchange.sendOnce request
    match reply with
    | .fault fault _ => if fault.isTransient then next.send request retries else (reply, next)
    | .response .. => (reply, next)

end Exchange

/-! ## Clients -/

structure Client where
  /-- The base of all targets, with a slash at its end. -/
  base : Url
  /-- The value of the header that identifies the client, if there is one. -/
  authorization : Option String
  maxTries : Nat
  /-- The depth to which the JSON of a reply may be nested. -/
  depth : Nat

def baseOf (url : Text) : Except Failure Url :=
  match url.chars? with
  | none => .error .unencodable
  | some cs => match (Url.read? cs).bind Url.withFinalSlash? with
    | some base => .ok base
    | none => .error .invalidUrl

/-- The header value for a token file's content, without white space around it and with newlines
for the ends of its lines.  A header holds ASCII alone. -/
def bearerOf (content : Text) : Except Failure String :=
  match content.chars?.map fun cs => Text.strip Text.isBlank (Text.unifyLineEnds cs) with
  | some token =>
    if token.all fun c => c.toNat < 0x80 then .ok ("Bearer " ++ String.ofList token)
    else .error .unencodable
  | none => .error .unencodable

def basicOf (credentials : List Char × List Char) : String :=
  "Basic " ++
    String.ofList (Text.base64 (Text.utf8 (credentials.1 ++ ':' :: credentials.2)))

/-- The client for a base URL and the content of a token file.  The user of the URL takes the place
of the token. -/
def Client.make (url : Text) (token : Option Text) (maxTries depth : Nat) :
    Except Failure Client := do
  let base ← baseOf url
  let bearer ← token.mapM bearerOf
  return {
    base, maxTries, depth
    authorization := (base.authority.credentials?.map basicOf).or bearer }

/-- The client of a configuration, with the content of its token file if there is one. -/
def Client.ofConfig (config : ServiceConfig) (token : Option Text) (depth : Nat) :
    Except Failure Client :=
  Client.make config.kubeApiUrl token config.kubeMaxRetries.toNat depth

/-! ## Requests -/

/-- What a request is about, for its messages. -/
structure Subject where
  method : String
  reference : Text
  kind : String
  name : Text

def Client.requestFor (client : Client) (subject : Subject) (body : Option Json) (url : Url) :
    Except Failure Request :=
  if body.any fun j => !j.isEncodable then .error .unencodable
  else do
    let host ← url.hostName
    return {
      method := subject.method
      target := String.ofList url.target
      host := String.ofList host
      authorization := client.authorization
      accept := "application/json"
      body := body }

/-- What becomes of a reply: the value of its body, or none when the server does not know what was
asked for. -/
def resolve (depth : Nat) (subject : Subject) :
    Reply → List LogRecord × Except Failure (Option Json)
  | .fault _ reason =>
    ([⟨.error, "Request " ++ subject.method ++ " " ++ subject.reference ++ " failed: " ++ reason⟩],
      .error (.unreachable subject.method subject.kind subject.name reason))
  | .response status body =>
    if status = 404 then ([], .ok none)
    else if 400 ≤ status && status ≤ 599 then
      ([⟨.error, "Request " ++ subject.method ++ " " ++ subject.reference ++ " returned " ++
          toString status ++ ": " ++ body.shown⟩],
        .error (.refused subject.method subject.kind subject.name status))
    else ([], (body.value depth).map some)

/-- What becomes of a reply from a URL.  A reply counts only if its body can be sent and if the URL
begins with a scheme. -/
def resolveFrom (depth : Nat) (url : Url) (subject : Subject) (reply : Reply) :
    List LogRecord × Except Failure (Option Json) :=
  match reply with
  | .fault .. => resolve depth subject reply
  | .response _ body =>
    match body.checkSendable with
    | .error failure => ([], .error failure)
    | .ok () =>
      if url.beginsWithScheme then resolve depth subject reply else ([], .error .noScheme)

def Client.request (client : Client) (subject : Subject) (body : Option Json)
    (exchange : Exchange) : Handled Exchange (Option Json) :=
  let prepared := do
    let url ← client.base.follow subject.reference
    return (url, ← client.requestFor subject body url)
  match prepared with
  | .error failure => ⟨[], .error failure, exchange⟩
  | .ok (url, request) =>
    let (reply, after) := exchange.send request (client.maxTries - 1)
    let (log, result) := resolveFrom client.depth url subject reply
    ⟨log, result, after⟩

end AdmissionControl.ApiServer
