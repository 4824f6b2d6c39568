import TelemetryManager.Library.Text
import TelemetryManager.SecretRef

/-! Validation of output endpoints. -/
namespace TelemetryManager.Endpoint

open Interaction

structure URL where
  scheme : String := ""
  opaquePart : String := ""
  user : Option String := none
  host : String := ""
  omitHost : Bool := false
  path : String := ""
  rawPath : String := ""
  forceQuery : Bool := false
  fragment : String := ""
  rawFragment : String := ""

/-- `url.Parse`, `net.SplitHostPort` and `strconv.Atoi`; an error is given by its text. -/
structure UrlLib where
  parse : String → Except String URL
  splitHostPort : String → Except String (String × String)
  atoi : String → Option Int

inductive Protocol where
  | fluentdHTTP
  | otlp (protocol : OTLPProtocol)
  deriving DecidableEq

structure EndpointValidationParams where
  endpoint : Option ValueType
  protocol : Protocol
  outputTLS : Option OutputTLS := none
  otlpOAuth2 : Option OAuth2Options := none

def invalid (s : Sentinel) : GoError := .endpointInvalid (.sentinel s)

def resolveValue (value : ValueType) : Client String :=
  SecretRef.resolveOr (invalid .errEndpointValueResolveFailed) value

variable (lib : UrlLib)

def placeholder : String := "plhd://"

def parseEndpoint (endpoint : String) : Except GoError URL :=
  match lib.parse endpoint with
  | .error text => .error (.endpointInvalid (.new text))
  | .ok u =>
    -- a URL without scheme is parsed again behind a placeholder scheme
    if u.opaquePart ≠ "" ∨ u.scheme = "" ∨ u.host = "" then
      match lib.parse (placeholder ++ endpoint) with
      | .error text => .error (.endpointInvalid (.new (Text.replaceFirst text placeholder "")))
      | .ok u => .ok { u with scheme := "" }
    else .ok u

def validatePort (hostport : String) (allowMissing : Bool) : Except GoError Unit :=
  match lib.splitHostPort hostport with
  | .error text =>
    if Text.contains text "missing port in address" then
      if allowMissing then .ok () else .error (invalid .errPortMissing)
    else .error (.endpointInvalid (.new text))
  | .ok (_, port) =>
    if allowMissing then .ok ()
    else if port = "" ∨ lib.atoi port = none then .error (invalid .errPortMissing)
    else .ok ()

def validateSchemeHTTP (scheme : String) : Except GoError Unit :=
  if scheme ≠ "http" ∧ scheme ≠ "https" then .error (invalid .errUnsupportedScheme) else .ok ()

def validateGRPCPath (path : String) : Except GoError Unit :=
  if path ≠ "" then .error (invalid .errGRPCWithPath) else .ok ()

def validateGRPCWithOAuth2 (scheme : String) (tls : Option OutputTLS) : Except GoError Unit :=
  if tls.any (·.insecure) then .error (invalid .errGRPCOAuth2NoTLS)
  else if scheme = "http" then
    .error (.endpointInvalid
      (.new (Sentinel.errGRPCOAuth2NoTLS.text ++ ": HTTP scheme not allowed")))
  else .ok ()

def isTLSConfigured : Option OutputTLS → Bool
  | none => false
  | some tls => !tls.insecure && (tls.ca.isSome || tls.cert.isSome || tls.key.isSome)

def validateHTTPWithOAuth2 (scheme : String) (tls : Option OutputTLS) : Except GoError Unit :=
  if scheme = "http" ∧ isTLSConfigured tls then .error (invalid .errHTTPWithTLS) else .ok ()

def validateValue (params : EndpointValidationParams) (endpointValue : String) :
    Except GoError Unit := do
  let u ← parseEndpoint lib endpointValue
  -- only OTLP gRPC requires a port
  validatePort lib u.host (params.protocol ≠ .otlp .grpc)
  match params.protocol with
  | .fluentdHTTP => pure ()
  | .otlp .http =>
    validateSchemeHTTP u.scheme
    if params.otlpOAuth2.isSome then validateHTTPWithOAuth2 u.scheme params.outputTLS
  | .otlp .grpc =>
    validateGRPCPath u.path
    if params.otlpOAuth2.isSome then validateGRPCWithOAuth2 u.scheme params.outputTLS

def validate (params : EndpointValidationParams) : Client Unit :=
  match params.endpoint with
  | none => throw (invalid .errEndpointValueResolveFailed)
  | some endpoint => do
    let endpointValue ← resolveValue endpoint
    liftExcept (validateValue lib params endpointValue)

theorem resolveValue_throws (value : ValueType) :
    Throws GoError.IsPlain (resolveValue value) :=
  SecretRef.resolveOr_throws ⟨rfl, rfl⟩ value

theorem parseEndpoint_fails (endpoint : String) :
    Fails GoError.IsPlain (parseEndpoint lib endpoint) := by
  unfold parseEndpoint
  split
  · exact Fails.error ⟨rfl, rfl⟩
  · refine Fails.ite ?_ (.ok _)
    split
    · exact Fails.error ⟨rfl, rfl⟩
    · exact Fails.ok _

theorem validatePort_fails (hostport : String) (allowMissing : Bool) :
    Fails GoError.IsPlain (validatePort lib hostport allowMissing) := by
  unfold validatePort
  split
  · exact Fails.ite (.ite (.ok _) (.error ⟨rfl, rfl⟩)) (.error ⟨rfl, rfl⟩)
  · exact Fails.ite (.ok _) (.ite (.error ⟨rfl, rfl⟩) (.ok _))

theorem validateHTTPWithOAuth2_fails (scheme : String) (tls : Option OutputTLS) :
    Fails GoError.IsPlain (validateHTTPWithOAuth2 scheme tls) :=
  Fails.ite (.error ⟨rfl, rfl⟩) (.ok _)

theorem validateGRPCWithOAuth2_fails (scheme : String) (tls : Option OutputTLS) :
    Fails GoError.IsPlain (validateGRPCWithOAuth2 scheme tls) :=
  Fails.ite (.error ⟨rfl, rfl⟩) (.ite (.error ⟨rfl, rfl⟩) (.ok _))

theorem validateValue_fails (params : EndpointValidationParams) (endpointValue : String) :
    Fails GoError.IsPlain (validateValue lib params endpointValue) := by
  refine Fails.bind (parseEndpoint_fails lib _) fun u => ?_
  refine Fails.bind (validatePort_fails lib _ _) fun _ => ?_
  split
  · exact Fails.ok _
  · refine Fails.bind (Fails.ite (.error ⟨rfl, rfl⟩) (.ok _)) fun _ => ?_
    exact Fails.ite (validateHTTPWithOAuth2_fails _ _) (.ok _)
  · refine Fails.bind (Fails.ite (.error ⟨rfl, rfl⟩) (.ok _)) fun _ => ?_
    exact Fails.ite (validateGRPCWithOAuth2_fails _ _) (.ok _)

theorem validate_throws (params : EndpointValidationParams) :
    Throws GoError.IsPlain (validate lib params) := by
  unfold validate
  split
  · exact Throws.throw ⟨rfl, rfl⟩
  · exact Throws.bind (resolveValue_throws _) fun _ =>
      Throws.liftExcept (validateValue_fails lib _ _)

end TelemetryManager.Endpoint
