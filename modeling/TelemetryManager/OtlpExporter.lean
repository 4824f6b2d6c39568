import TelemetryManager.CollectorConfig
import TelemetryManager.Endpoint
import TelemetryManager.SharedTypes

/-! OTLP exporters, OAuth2 extensions and the environment variables with their secret values. -/
namespace TelemetryManager.OtlpExporter

open Collector Interaction

/-- `url.Parse` (with the query), `URL.String`, `path.Join` and base64 encoding. -/
structure ExporterLib where
  parse : String → Except String (Endpoint.URL × String)
  urlString : Endpoint.URL → String → String
  pathJoin : String → String → String
  base64 : String → String

def sanitizeEnvVarName (input : String) : String :=
  Text.replaceAll (Text.replaceAll (Text.toUpper input) "." "_") "-" "_"

def formatEnvVarKey (variablePrefix : String) (r : PipelineRef) : String :=
  variablePrefix ++ "_" ++ sanitizeEnvVarName r.typePrefix ++ "_" ++ sanitizeEnvVarName r.name

def formatHeaderEnvVarKey (header : Header) (r : PipelineRef) : String :=
  "HEADER_" ++ sanitizeEnvVarName r.typePrefix ++ "_" ++ sanitizeEnvVarName r.name ++ "_" ++
    sanitizeEnvVarName header.name

def basicAuthHeaderVariablePrefix : String := "BASIC_AUTH_HEADER"
def otlpEndpointVariablePrefix : String := "OTLP_ENDPOINT"
def tlsConfigCertVariablePrefix : String := "OTLP_TLS_CERT_PEM"
def tlsConfigKeyVariablePrefix : String := "OTLP_TLS_KEY_PEM"
def tlsConfigCaVariablePrefix : String := "OTLP_TLS_CA_PEM"
def oauth2TokenURLVariablePrefix : String := "OAUTH2_TOKEN_URL"
def oauth2ClientIDVariablePrefix : String := "OAUTH2_CLIENT_ID"
def oauth2ClientSecretVariablePrefix : String := "OAUTH2_CLIENT_SECRET"

variable (lib : ExporterLib) (r : PipelineRef)

def basicAuthOf (auth : Option AuthenticationOptions) : Option BasicAuthOptions :=
  match auth.bind (·.basic) with
  | some basic =>
    if SharedTypes.isValid (some basic.user) && SharedTypes.isValid (some basic.password) then
      some basic
    else none
  | none => none

def isBasicAuthEnabled (auth : Option AuthenticationOptions) : Bool := (basicAuthOf auth).isSome

def formatBasicAuthHeader (username password : String) : String :=
  "Basic " ++ lib.base64 (username ++ ":" ++ password)

def makeBasicAuthEnvVar (output : OTLPOutput) (secretData : EnvVars) : Client EnvVars :=
  match basicAuthOf output.authentication with
  | some basic => do
    let username ← SharedTypes.resolveValue basic.user
    let password ← SharedTypes.resolveValue basic.password
    pure (secretData.insert (formatEnvVarKey basicAuthHeaderVariablePrefix r)
      (formatBasicAuthHeader lib username password))
  | none => pure secretData

def resolveEndpointURL (output : OTLPOutput) : Client String := do
  let endpoint ← SharedTypes.resolveValue output.endpoint
  if output.path = "" then pure endpoint
  else match lib.parse endpoint with
    | .error text => throw (.new text)
    | .ok (u, _) =>
      match lib.parse output.path with
      | .error text => throw (.new text)
      | .ok (pathRef, rawQuery) =>
        pure (lib.urlString { u with path := lib.pathJoin u.path pathRef.path } rawQuery)

def makeOTLPEndpointEnvVar (output : OTLPOutput) (secretData : EnvVars) : Client EnvVars := do
  let endpointURL ← resolveEndpointURL lib output
  pure (secretData.insert (formatEnvVarKey otlpEndpointVariablePrefix r) endpointURL)

def prefixHeaderValue (header : Header) (value : String) : String :=
  if Text.trimSpace header.headerPrefix ≠ "" then
    Text.trimSpace header.headerPrefix ++ " " ++ value
  else value

def makeHeaderEnvVar (headers : List Header) (secretData : EnvVars) : Client EnvVars :=
  match headers with
  | [] => pure secretData
  | header :: headers => do
    let value ← SharedTypes.resolveValue header.toValueType
    makeHeaderEnvVar headers
      (secretData.insert (formatHeaderEnvVarKey header r) (prefixHeaderValue header value))

def makeTLSEnvVar (output : OTLPOutput) (secretData : EnvVars) : Client EnvVars :=
  match output.tls with
  | none => pure secretData
  | some tls => do
    let secretData ← match tls.ca with
      | some ca =>
        if SharedTypes.isValid tls.ca then do
          let ca ← SharedTypes.resolveValue ca
          pure (secretData.insert (formatEnvVarKey tlsConfigCaVariablePrefix r) ca)
        else pure secretData
      | none => pure secretData
    match tls.cert, tls.key with
    | some cert, some key =>
      if SharedTypes.isValid tls.cert && SharedTypes.isValid tls.key then do
        let cert ← SharedTypes.resolveValue cert
        let key ← SharedTypes.resolveValue key
        pure ((secretData.insert (formatEnvVarKey tlsConfigCertVariablePrefix r)
            (Text.replaceAll cert "\\n" "\n")).insert
          (formatEnvVarKey tlsConfigKeyVariablePrefix r) (Text.replaceAll key "\\n" "\n"))
      else pure secretData
    | _, _ => pure secretData

def makeOTLPExporterEnvVars (output : OTLPOutput) : Client EnvVars := do
  let secretData ← makeBasicAuthEnvVar lib r output ∅
  let secretData ← makeOTLPEndpointEnvVar lib r output secretData
  let secretData ← makeHeaderEnvVar r output.headers secretData
  makeTLSEnvVar r output secretData

/-- The variable of one OAuth2 field, skipped if the field is not valid. -/
def makeOAuth2EnvVar (variablePrefix : String) (value : ValueType) (secretData : EnvVars) :
    Client EnvVars :=
  if SharedTypes.isValid (some value) then do
    let resolved ← SharedTypes.resolveValue value
    pure (secretData.insert (formatEnvVarKey variablePrefix r) resolved)
  else pure secretData

def makeTokenURLEnvVar (oauth2 : OAuth2Options) : EnvVars → Client EnvVars :=
  makeOAuth2EnvVar r oauth2TokenURLVariablePrefix oauth2.tokenURL

def makeClientIDEnvVar (oauth2 : OAuth2Options) : EnvVars → Client EnvVars :=
  makeOAuth2EnvVar r oauth2ClientIDVariablePrefix oauth2.clientID

def makeClientSecretEnvVar (oauth2 : OAuth2Options) : EnvVars → Client EnvVars :=
  makeOAuth2EnvVar r oauth2ClientSecretVariablePrefix oauth2.clientSecret

def makeOAuth2ExtensionEnvVars (oauth2 : OAuth2Options) : Client EnvVars := do
  let secretData ← makeTokenURLEnvVar r oauth2 ∅
  let secretData ← makeClientIDEnvVar r oauth2 secretData
  makeClientSecretEnvVar r oauth2 secretData

def headers (output : OTLPOutput) : Registry.Map String String :=
  output.headers.foldl
    (fun headers header =>
      headers.insert header.name (Placeholder.ref (formatHeaderEnvVarKey header r)))
    (if isBasicAuthEnabled output.authentication then
      (∅ : Registry.Map String String).insert "Authorization"
        (Placeholder.ref (formatEnvVarKey basicAuthHeaderVariablePrefix r))
    else ∅)

def isInsecureOutput (endpoint : String) : Bool :=
  Text.trimSpace endpoint ≠ "" && Text.hasPrefix endpoint "http://"

def pemRef (value : Option ValueType) (variablePrefix : String) : String :=
  if SharedTypes.isValid value then Placeholder.ref (formatEnvVarKey variablePrefix r) else ""

def tls (output : OTLPOutput) (otlpEndpointValue : String) : TLS :=
  let insecure := isInsecureOutput otlpEndpointValue
  match output.tls with
  | none => { insecure := insecure }
  | some tls =>
    { insecure := insecure || tls.insecure
      insecureSkipVerify := tls.insecureSkipVerify
      caPem := pemRef r tls.ca tlsConfigCaVariablePrefix
      certPem := pemRef r tls.cert tlsConfigCertVariablePrefix
      keyPem := pemRef r tls.key tlsConfigKeyVariablePrefix }

def compressionText : Option OTLPCompressionEncoding → String
  | some .none => "none"
  | some .gzip => "gzip"
  | some .snappy => "snappy"
  | some .zstd => "zstd"
  | none => "gzip"

def withSizer (sizer : String) (sq : SendingQueue) : SendingQueue := { sq with sizer := sizer }

def withBatch (batch : Batch) (sq : SendingQueue) : SendingQueue := { sq with batch := batch }

def newSendingQueue (queueSize : Nat) (opts : List (SendingQueue → SendingQueue) := []) :
    SendingQueue :=
  if queueSize = 0 then { enabled := false }
  else opts.foldl (fun sq opt => opt sq) { enabled := true, queueSize := queueSize }

def otlpExporter (output : OTLPOutput) (envVars : EnvVars) (sendingQueue : SendingQueue) :
    OTLPExporterConfig :=
  let otlpEndpointVariable := formatEnvVarKey otlpEndpointVariablePrefix r
  let endpointRef := Placeholder.ref otlpEndpointVariable
  let hasPath := output.path ≠ ""
  { endpoint := if hasPath then "" else endpointRef
    metricsEndpoint := if hasPath ∧ r.signalType = .metric then endpointRef else ""
    tracesEndpoint := if hasPath ∧ r.signalType = .trace then endpointRef else ""
    logsEndpoint := if hasPath ∧ r.signalType = .log then endpointRef else ""
    headers := headers r output
    tls := tls r output ((envVars.lookup otlpEndpointVariable).getD "")
    compression := compressionText output.compression
    sendingQueue := sendingQueue
    retryOnFailure :=
      { enabled := true, initialInterval := "5s", maxInterval := "30s", maxElapsedTime := "300s" }
    authenticator :=
      if output.oauth2.isSome then componentIDOAuth2Extension r else "" }

def otlpExporterWithEnvVars (output : OTLPOutput) (sendingQueue : SendingQueue) :
    Client (OTLPExporterConfig × EnvVars) := do
  let envVars ← mapErr (wrapf "failed to make env vars: ")
    (makeOTLPExporterEnvVars lib r output)
  pure (otlpExporter r output envVars sendingQueue, envVars)

def oauth2Extension (oauth2 : OAuth2Options) : ExtensionConfig :=
  .oauth2 (Placeholder.ref (formatEnvVarKey oauth2TokenURLVariablePrefix r))
    (Placeholder.ref (formatEnvVarKey oauth2ClientIDVariablePrefix r))
    (Placeholder.ref (formatEnvVarKey oauth2ClientSecretVariablePrefix r)) oauth2.scopes
    oauth2.params

def oauth2ExtensionWithEnvVars (oauth2 : OAuth2Options) : Client (ExtensionConfig × EnvVars) := do
  let envVars ← mapErr (wrapf "failed to make env vars: ")
    (makeOAuth2ExtensionEnvVars r oauth2)
  pure (oauth2Extension r oauth2, envVars)

end TelemetryManager.OtlpExporter
