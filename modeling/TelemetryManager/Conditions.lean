import TelemetryManager.GoErrors
import TelemetryManager.Library.Text

/-! Conditions in the status of a pipeline: their reasons, their messages and the condition for an
error of the TLS validation. -/
namespace TelemetryManager

section Texts

def padded (width n : Nat) : String := String.ofList (List.leftpad width '0' (toString n).toList)

/-- The date of a time in UTC, as `time.DateOnly` formats it. The years of the computation begin
in March, in eras of 400 years. -/
def dateOnly (time : Int) : String :=
  let days := time / (24 * 60 * 60 * 1000000000) + 719468
  let era := days / 146097
  let dayOfEra := (days % 146097).toNat
  let yearOfEra := (dayOfEra - dayOfEra / 1460 + dayOfEra / 36524 - dayOfEra / 146096) / 365
  let dayOfYear := dayOfEra - (365 * yearOfEra + yearOfEra / 4 - yearOfEra / 100)
  let monthFromMarch := (5 * dayOfYear + 2) / 153
  let day := dayOfYear - (153 * monthFromMarch + 2) / 5 + 1
  let month := if monthFromMarch < 10 then monthFromMarch + 3 else monthFromMarch - 9
  let year := era * 400 + Int.ofNat yearOfEra + (if month ≤ 2 then 1 else 0)
  (if year < 0 then "-" else "") ++ padded 4 year.natAbs ++ "-" ++ padded 2 month ++ "-" ++
    padded 2 day

example : dateOnly 1709164800000000000 = "2024-02-29" := by decide +kernel

def certExpiredText (expiry : Int) (isCa : Bool) : String :=
  (if isCa then "TLS CA certificate expired on " else "TLS certificate expired on ") ++
    dateOnly expiry

def certAboutToExpireText (expiry : Int) (isCa : Bool) : String :=
  (if isCa then "TLS CA certificate is about to expire, configured certificate is valid until "
    else "TLS certificate is about to expire, configured certificate is valid until ") ++
    dateOnly expiry

/-- The text of an error; the API server gives the text of its answers. -/
def GoError.text (apiText : ApiError → String) : GoError → String
  | .sentinel s => s.text
  | .new text => text
  | .api e => apiText e
  | .errorf pre inner post => pre ++ inner.text apiText ++ post
  | .apiRequestFailed err => err.text apiText
  | .endpointInvalid err => err.text apiText
  | .certExpired expiry isCa => certExpiredText expiry isCa
  | .certAboutToExpire expiry isCa => certAboutToExpireText expiry isCa
  | .invalidOTTLSpec err => err.text apiText
  | .invalidAdditionalMetric err => err.text apiText
  | .panic text => text

end Texts

namespace GoError

/-- Expiry and kind of the first `*CertExpiredError` of the chain. -/
def asCertExpired : GoError → Option (Int × Bool)
  | certExpired expiry isCa => some (expiry, isCa)
  | errorf _ inner _ => inner.asCertExpired
  | endpointInvalid err => err.asCertExpired
  | _ => none

def asCertAboutToExpire : GoError → Option (Int × Bool)
  | certAboutToExpire expiry isCa => some (expiry, isCa)
  | errorf _ inner _ => inner.asCertAboutToExpire
  | endpointInvalid err => err.asCertAboutToExpire
  | _ => none

def isEndpointInvalidError : GoError → Bool
  | endpointInvalid _ => true
  | errorf _ inner _ => inner.isEndpointInvalidError
  | _ => false

def isInvalidOTTLSpecError : GoError → Bool
  | invalidOTTLSpec _ => true
  | errorf _ inner _ => inner.isInvalidOTTLSpecError
  | endpointInvalid err => err.isInvalidOTTLSpecError
  | _ => false

def isInvalidAdditionalMetricError : GoError → Bool
  | invalidAdditionalMetric _ => true
  | errorf _ inner _ => inner.isInvalidAdditionalMetricError
  | endpointInvalid err => err.isInvalidAdditionalMetricError
  | _ => false

theorem isSome_asCertAboutToExpire (e : GoError) :
    e.asCertAboutToExpire.isSome = e.isCertAboutToExpireError := by
  induction e with
  | errorf pre inner post ih | endpointInvalid err ih => exact ih
  | _ => rfl

end GoError

namespace Conditions

inductive ConditionStatus where
  | conditionTrue
  | conditionFalse

inductive Reason where
  | endpointInvalid
  | gatewayConfigured
  | maxPipelinesExceeded
  | referencedSecretMissing
  | tlsCertificateAboutToExpire
  | tlsCertificateExpired
  | tlsConfigurationInvalid
  | validationFailed
  | ottlSpecInvalid
  | runtimeAdditionalMetricInvalid
  | noFluentbitInFipsMode
  | agentConfigured

def Reason.text : Reason → String
  | .endpointInvalid => "EndpointInvalid"
  | .gatewayConfigured => "GatewayConfigured"
  | .maxPipelinesExceeded => "MaxPipelinesExceeded"
  | .referencedSecretMissing => "ReferencedSecretMissing"
  | .tlsCertificateAboutToExpire => "TLSCertificateAboutToExpire"
  | .tlsCertificateExpired => "TLSCertificateExpired"
  | .tlsConfigurationInvalid => "TLSConfigurationInvalid"
  | .validationFailed => "ValidationFailed"
  | .ottlSpecInvalid => "OTTLSpecInvalid"
  | .runtimeAdditionalMetricInvalid => "RuntimeAdditionalMetricInvalid"
  | .noFluentbitInFipsMode => "FipsModeEnabled"
  | .agentConfigured => "AgentConfigured"

def linkOTTLSpecInvalid : String :=
  "https://kyma-project.io/external-content/telemetry-manager/docs/user/troubleshooting.html" ++
    "#ottl-spec-invalid-with-unspecific-error-message"

def commonMessages : Reason → Option String
  | .tlsConfigurationInvalid => some "TLS configuration invalid: %s"
  | .validationFailed =>
    some "Pipeline validation failed due to an error from the Kubernetes API server"
  | .ottlSpecInvalid =>
    some ("OTTL specification is invalid, %s. Fix the syntax error indicated by the message or " ++
      "see troubleshooting: " ++ linkOTTLSpecInvalid)
  | _ => none

def commonLogPipelineMessages : Reason → Option String
  | .agentConfigured =>
    some ("LogPipeline specification is successfully applied to the configuration of " ++
      "Log Agent")
  | .noFluentbitInFipsMode =>
    some "HTTP/custom output types are not supported when FIPS mode is enabled"
  | _ => none

def fluentBitLogPipelineMessages : Reason → Option String
  | .endpointInvalid => some "HTTP output host invalid: %s"
  | _ => none

def gatewayMessages (kind : String) : Reason → Option String
  | .endpointInvalid => some "OTLP output endpoint invalid: %s"
  | .gatewayConfigured =>
    some (kind ++ " specification is successfully applied to the configuration of OTLP Gateway")
  | _ => none

def otelLogPipelineMessages : Reason → Option String := gatewayMessages "LogPipeline"

def tracePipelineMessages : Reason → Option String := gatewayMessages "TracePipeline"

def metricPipelineMessages : Reason → Option String := gatewayMessages "MetricPipeline"

/-- The message of the first table that has one for the reason. -/
def message (tables : List (Reason → Option String)) (reason : Reason) : String :=
  (tables.findSome? (· reason)).getD ""

def messageForOtelLogPipeline : Reason → String :=
  message [commonMessages, commonLogPipelineMessages, otelLogPipelineMessages]

def messageForFluentBitLogPipeline : Reason → String :=
  message [commonMessages, commonLogPipelineMessages, fluentBitLogPipelineMessages]

def messageForTracePipeline : Reason → String := message [commonMessages, tracePipelineMessages]

def messageForMetricPipeline : Reason → String := message [commonMessages, metricPipelineMessages]

/-- `fmt.Sprintf` with a format that has one `%s`. -/
def sprintf (format arg : String) : String := Text.replaceFirst format "%s" arg

/-- The text of an error with a capital letter in front. There is no first letter to slice off an
empty text. -/
def convertErrToMsg (text : String) : Except GoError String :=
  match text.toList with
  | [] => .error (.panic "slice bounds out of range [:1] with length 0")
  | c :: cs => .ok (String.ofList (Text.toUpperChar c :: cs))

structure Evaluation where
  status : ConditionStatus
  reason : Reason
  message : String

def evaluateTLSCertCondition (apiText : ApiError → String) (errValidation : GoError) :
    Evaluation :=
  match errValidation.asCertExpired with
  | some (expiry, isCa) =>
    ⟨.conditionFalse, .tlsCertificateExpired, certExpiredText expiry isCa⟩
  | none =>
    match errValidation.asCertAboutToExpire with
    | some (expiry, isCa) =>
      ⟨.conditionTrue, .tlsCertificateAboutToExpire, certAboutToExpireText expiry isCa⟩
    | none =>
      ⟨.conditionFalse, .tlsConfigurationInvalid,
        sprintf ((commonMessages .tlsConfigurationInvalid).getD "") (errValidation.text apiText)⟩

theorem evaluateTLSCertCondition_true_iff (apiText : ApiError → String) (e : GoError) :
    (evaluateTLSCertCondition apiText e).status = .conditionTrue ↔
      e.asCertExpired = none ∧ e.isCertAboutToExpireError := by
  rw [← e.isSome_asCertAboutToExpire]
  unfold evaluateTLSCertCondition
  cases e.asCertExpired with
  | some expired => simp
  | none => cases e.asCertAboutToExpire <;> simp

end Conditions
end TelemetryManager
