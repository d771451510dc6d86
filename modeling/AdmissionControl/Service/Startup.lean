/-
  Starting the service.

  A configuration decides what the service listens on, and how much it logs while it starts.  A
  socket takes the place of an address; without one, a certificate and its key belong together.
  The service starts only if it can name itself to the API server.
-/

import AdmissionControl.ApiServer.Client
import AdmissionControl.Config.Basic
import AdmissionControl.Files
import AdmissionControl.Log

namespace AdmissionControl

/-- What the service listens on. -/
inductive Endpoint where
  | socket (path : Text)
  | address (host : Text) (port : Int) (tls : Option (Text × Text))
  deriving DecidableEq

/-- What a listener is started with. -/
structure ListenOptions where
  debug : Bool
  endpoint : Endpoint
  deriving DecidableEq

namespace ListenOptions

def toJson (options : ListenOptions) : Json :=
  let level : Text × Option Json :=
    ("log_level", some (.str (if options.debug then "debug" else "info")))
  match options.endpoint with
  | .socket path => .objOfSome [level, ("uds", some (.str path))]
  | .address host port tls => .objOfSome [
      level,
      ("host", some (.str host)),
      ("port", some (.int port)),
      ("ssl_certfile", tls.map fun pair => .str pair.1),
      ("ssl_keyfile", tls.map fun pair => .str pair.2)]

end ListenOptions

namespace ListenerConfig

def endpoint (config : ListenerConfig) : Endpoint :=
  match config.socket? with
  | some path => .socket path
  | none => .address config.bindAddress config.port config.tls?

def options (config : ListenerConfig) : ListenOptions := ⟨config.debug, config.endpoint⟩

end ListenerConfig

def Endpoint.log : Endpoint → List LogRecord
  | .socket path => [⟨.info, "Listening for admission reviews on unix socket " ++ path⟩]
  | .address host port tls =>
    ⟨.info, "Listening for admission reviews on " ++ host ++ ":" ++ toString port⟩ ::
      if tls.isSome then []
      else [⟨.warning,
        "No TLS certificate configured, the API server requires HTTPS for webhooks"⟩]

namespace ServiceConfig

/-- What is logged at the start about the configuration itself. -/
def debugLog (config : ServiceConfig) : List LogRecord :=
  if config.listener.debug then
    [⟨.debug, "Debug mode enabled"⟩, ⟨.debug, "Configuration: " ++ config.exported⟩]
  else []

/-- The warning about a service without certificates. -/
def insecureLog (config : ServiceConfig) : List LogRecord :=
  if config.listener.socket?.isNone && config.listener.tls?.isNone then
    [⟨.warning, "TLS certificates not configured, running in insecure mode"⟩]
  else []

/-- The warning about a token that is not there. -/
def tokenLog (files : Files) (config : ServiceConfig) : List LogRecord :=
  if files.exist config.kubeTokenPath then []
  else [⟨.warning, "Service account token not found at " ++ config.kubeTokenPath ++
    ", using anonymous requests"⟩]

/-- Everything that is logged while the service starts, in order. -/
def startLog (files : Files) (config : ServiceConfig) : List LogRecord :=
  config.debugLog ++ config.insecureLog ++ config.tokenLog files ++ config.listener.endpoint.log

/-- The client with which the service reaches the API server, whose replies may be nested to a
depth. -/
def client (depth : Nat) (files : Files) (config : ServiceConfig) :
    Except Failure ApiServer.Client := do
  ApiServer.Client.ofConfig config (← files.read config.kubeTokenPath) depth

/-- What the service is started with, and what is logged meanwhile. -/
def start (depth : Nat) (files : Files) (config : ServiceConfig) :
    Except Failure (ListenOptions × List LogRecord) := do
  let _ ← config.client depth files
  return (config.listener.options,
    LogRecord.shown config.listener.debug (config.startLog files))

end ServiceConfig

end AdmissionControl
