/-
  The configuration of the service.

  The listener has an address, or a socket in its place, and a certificate with its key.  The
  service adds how the API server is reached.  Every field has a default; `fields` lists them in
  the order in which they are checked and exported.
-/

import AdmissionControl.Config.Scalar
import AdmissionControl.Json.Printer

namespace AdmissionControl

/-- How the service listens, and whether it logs in detail. -/
structure ListenerConfig where
  bindAddress : Text := "0.0.0.0"
  port : Int := 9443
  /-- The unix socket that takes the place of address and port, unless it is empty. -/
  udsPath : Option Text := none
  tlsCertPath : Option Text := none
  tlsKeyPath : Option Text := none
  debug : Bool := false

/-- How the service listens, and how it reaches the API server. -/
structure ServiceConfig where
  listener : ListenerConfig := {}
  kubeApiUrl : Text := "https://kubernetes.default.svc"
  kubeTokenPath : Text := "/var/run/secrets/kubernetes.io/serviceaccount/token"
  kubeCaPath : Option Text := some ("/var/run/secrets/kubernetes.io/serviceaccount/ca.crt" : Text)
  /-- The time limit of a request, in seconds. -/
  kubeTimeout : Binary64 := Binary64.ofRat 10
  kubeMaxRetries : Int := 3

namespace ListenerConfig

/-- Decodes the configuration of the listener; `exists?` says which paths exist. -/
def decodeFields (exists? : Text → Bool) (members : List (Text × Json)) :
    Decoded ListenerConfig :=
  let default : ListenerConfig := {}
  let tlsPath := Decoder.optional (Config.existingPath exists?)
  ListenerConfig.mk
    <$> FieldName.decode ⟨"bind_address", none⟩ default.bindAddress .text members
    <*> FieldName.decode ⟨"port", none⟩ default.port (Config.integerBetween 1 (some 65535)) members
    <*> FieldName.decode ⟨"uds_path", none⟩ default.udsPath (.optional .text) members
    <*> FieldName.decode ⟨"tls_cert_path", none⟩ default.tlsCertPath tlsPath members
    <*> FieldName.decode ⟨"tls_key_path", none⟩ default.tlsKeyPath tlsPath members
    <*> FieldName.decode ⟨"debug", none⟩ default.debug .bool members

def fields (config : ListenerConfig) : List (Text × Json) := [
  ("bind_address", .str config.bindAddress),
  ("port", .int config.port),
  ("uds_path", .textOrNull config.udsPath),
  ("tls_cert_path", .textOrNull config.tlsCertPath),
  ("tls_key_path", .textOrNull config.tlsKeyPath),
  ("debug", .bool config.debug)]

/-- The socket to listen on, if there is one. -/
def socket? (config : ListenerConfig) : Option Text :=
  config.udsPath.filter fun path => !path.isEmpty

/-- The certificate and its key, if both are there. -/
def tls? (config : ListenerConfig) : Option (Text × Text) := do
  let certificate ← config.tlsCertPath
  let key ← config.tlsKeyPath
  return (certificate, key)

def exported (config : ListenerConfig) : String := (Json.obj config.fields).text .settings

end ListenerConfig

namespace ServiceConfig

def decodeFields (exists? : Text → Bool) (members : List (Text × Json)) :
    Decoded ServiceConfig :=
  let default : ServiceConfig := {}
  ServiceConfig.mk
    <$> ListenerConfig.decodeFields exists? members
    <*> FieldName.decode ⟨"kube_api_url", none⟩ default.kubeApiUrl .text members
    <*> FieldName.decode ⟨"kube_token_path", none⟩ default.kubeTokenPath Config.path members
    <*> FieldName.decode ⟨"kube_ca_path", none⟩ default.kubeCaPath (.optional Config.path) members
    <*> FieldName.decode ⟨"kube_timeout", none⟩ default.kubeTimeout Config.positiveFloat members
    <*> FieldName.decode ⟨"kube_max_retries", none⟩ default.kubeMaxRetries
      (Config.integerBetween 1 none) members

/-- The fields that say how the API server is reached, and their values. -/
def clientFields (config : ServiceConfig) : List (Text × Json) := [
  ("kube_api_url", .str config.kubeApiUrl),
  ("kube_token_path", .str config.kubeTokenPath),
  ("kube_ca_path", .textOrNull config.kubeCaPath),
  ("kube_timeout", .float config.kubeTimeout),
  ("kube_max_retries", .int config.kubeMaxRetries)]

def fields (config : ServiceConfig) : List (Text × Json) :=
  config.listener.fields ++ config.clientFields

def exported (config : ServiceConfig) : String := (Json.obj config.fields).text .settings

end ServiceConfig

end AdmissionControl
