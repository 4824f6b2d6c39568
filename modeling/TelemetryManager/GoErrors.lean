import Mathlib.Data.List.Basic

/-! The errors that the operator creates, wraps and classifies.
An error keeps the chain that `errors.Is` and `errors.As` walk; only `fmt.Errorf` with `%w` and
the endpoint error expose an inner error, all other wrapper types end the chain. -/
namespace TelemetryManager

/-- Answers of the Kubernetes API server other than success. -/
inductive ApiError where
  | notFound
  | alreadyExists
  | conflict
  | noKindMatch
  | other (text : String)
  deriving DecidableEq

def ApiError.isNotFound : ApiError → Bool
  | .notFound => true
  | _ => false

/-- Package-level errors created once by `errors.New`; `errors.Is` compares their identity. -/
inductive Sentinel where
  | errSecretKeyNotFound
  | errSecretRefNotFound
  | errSecretRefMissingFields
  | errValueOrSecretRefUndefined
  | errEndpointValueResolveFailed
  | errPortMissing
  | errUnsupportedScheme
  | errGRPCOAuth2NoTLS
  | errHTTPWithTLS
  | errGRPCWithPath
  | errCertDecodeFailed
  | errCertParseFailed
  | errKeyDecodeFailed
  | errCADecodeFailed
  | errCAParseFailed
  | errMissingCertKeyPair
  | errTLSValueResolveFailed
  | errInvalidCertificateKeyPair
  | errCertIsNotCA
  | errMaxPipelinesExceeded
  deriving DecidableEq

def Sentinel.text : Sentinel → String
  | .errSecretKeyNotFound => "one or more keys in a referenced Secret are missing"
  | .errSecretRefNotFound => "one or more referenced Secrets are missing"
  | .errSecretRefMissingFields => "secret reference is missing field/s"
  | .errValueOrSecretRefUndefined => "either value or secret key reference must be defined"
  | .errEndpointValueResolveFailed => "failed to resolve value"
  | .errPortMissing => "missing port"
  | .errUnsupportedScheme => "missing or unsupported protocol scheme"
  | .errGRPCOAuth2NoTLS => "OAuth2 requires TLS when using gRPC protocol"
  | .errHTTPWithTLS => "HTTP scheme with TLS not allowed"
  | .errGRPCWithPath => "gRPC endpoints cannot contain paths"
  | .errCertDecodeFailed => "failed to decode PEM block containing certificate"
  | .errCertParseFailed => "failed to parse certificate"
  | .errKeyDecodeFailed => "failed to decode PEM block containing private key"
  | .errCADecodeFailed => "failed to decode PEM block containing CA certificate"
  | .errCAParseFailed => "failed to parse CA certificate"
  | .errMissingCertKeyPair =>
    "a certificate and private key must either both be provided or both be missing"
  | .errTLSValueResolveFailed => "failed to resolve value"
  | .errInvalidCertificateKeyPair => "certificate and private key do not match"
  | .errCertIsNotCA => "not a CA certificate"
  | .errMaxPipelinesExceeded => "maximum pipeline count limit exceeded"

/-- Go errors with their wrapping structure. `errorf pre e post` is `fmt.Errorf` with the text
`pre` before and `post` after its one `%w`; times are nanoseconds since the epoch. A run-time
panic ends a call like an error that nothing recognises. -/
inductive GoError where
  | sentinel (s : Sentinel)
  | new (text : String)
  | api (e : ApiError)
  | errorf (pre : String) (inner : GoError) (post : String)
  | apiRequestFailed (err : GoError)
  | endpointInvalid (err : GoError)
  | certExpired (expiry : Int) (isCa : Bool)
  | certAboutToExpire (expiry : Int) (isCa : Bool)
  | invalidOTTLSpec (err : GoError)
  | invalidAdditionalMetric (err : GoError)
  | panic (text : String)
  deriving DecidableEq

namespace GoError

/-- `errors.As` with a `*CertAboutToExpireError` target. -/
def isCertAboutToExpireError : GoError → Bool
  | certAboutToExpire _ _ => true
  | errorf _ inner _ => inner.isCertAboutToExpireError
  | endpointInvalid err => err.isCertAboutToExpireError
  | _ => false

/-- The error inside the first `*APIRequestFailedError` of the chain, as `errors.As` finds it. -/
def asAPIRequestFailed : GoError → Option GoError
  | apiRequestFailed err => some err
  | errorf _ inner _ => inner.asAPIRequestFailed
  | endpointInvalid err => err.asAPIRequestFailed
  | _ => none

/-- `errors.Is` with a sentinel target. -/
def is (target : Sentinel) : GoError → Bool
  | sentinel s => s == target
  | errorf _ inner _ => inner.is target
  | endpointInvalid err => err.is target
  | _ => false

/-- An error that no caller treats specially: neither about an expiring certificate nor about a
failed API request. -/
structure IsPlain (e : GoError) : Prop where
  not_aboutToExpire : e.isCertAboutToExpireError = false
  not_apiRequestFailed : e.asAPIRequestFailed = none

end GoError

/-- `fmt.Errorf` with a wrapped error; a panic is not an error and passes through. -/
def wrapf (text : String) : GoError → GoError
  | .panic reason => .panic reason
  | err => .errorf text err ""

end TelemetryManager
