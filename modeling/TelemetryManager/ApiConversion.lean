import TelemetryManager.FluentBitSections
import TelemetryManager.ObjectNames

/-! The conversion of pipeline specs between the API versions `v1alpha1` and `v1beta1`.
A type that both versions declare alike is shared, as the generated functions cast it. Absent and
empty lists are one value. Protocols and compressions are texts here: the conversion does not
check them. -/
namespace TelemetryManager

namespace V1Alpha1

structure OTLPOutput where
  protocol : String := ""
  endpoint : ValueType
  path : String := ""
  authentication : Option AuthenticationOptions := none
  headers : List Header := []
  tls : Option OutputTLS := none
  deriving DecidableEq

structure OTLPInput where
  disabled : Bool := false
  namespaces : Option NamespaceSelector := none
  deriving DecidableEq

structure LogPipelineNamespaceSelector where
  «include» : List String := []
  exclude : List String := []
  system : Bool := false
  deriving DecidableEq

structure LogPipelineApplicationInput where
  enabled : Option Bool := none
  namespaces : LogPipelineNamespaceSelector := {}
  containers : LogPipelineContainerSelector := {}
  fluentBitKeepAnnotations : Option Bool := none
  fluentBitDropLabels : Option Bool := none
  keepOriginalBody : Option Bool := none
  deriving DecidableEq

structure LogPipelineInput where
  application : Option LogPipelineApplicationInput := none
  otlp : Option OTLPInput := none
  deriving DecidableEq

structure FluentBitHTTPOutputTLS where
  disabled : Bool := false
  skipCertificateValidation : Bool := false
  ca : Option ValueType := none
  cert : Option ValueType := none
  key : Option ValueType := none
  deriving DecidableEq

structure FluentBitHTTPOutput where
  host : ValueType
  user : Option ValueType := none
  password : Option ValueType := none
  uri : String := ""
  port : String := ""
  compress : String := ""
  format : String := ""
  tls : FluentBitHTTPOutputTLS := {}
  dedot : Bool := false
  deriving DecidableEq

structure LogPipelineOutput where
  fluentBitCustom : String := ""
  fluentBitHTTP : Option FluentBitHTTPOutput := none
  otlp : Option OTLPOutput := none
  deriving DecidableEq

structure LogPipelineSpec where
  input : LogPipelineInput := {}
  fluentBitFilters : List FluentBitFilter := []
  output : LogPipelineOutput
  fluentBitFiles : List FluentBitFile := []
  fluentBitVariables : List FluentBitVariable := []
  transforms : List TransformSpec := []
  filters : List FilterSpec := []
  deriving DecidableEq

structure MetricPipelineInput where
  prometheus : Option MetricPipelinePrometheusInput := none
  runtime : Option MetricPipelineRuntimeInput := none
  istio : Option MetricPipelineIstioInput := none
  otlp : Option OTLPInput := none

end V1Alpha1

namespace V1Beta1

structure OTLPOutput where
  protocol : String := ""
  endpoint : ValueType
  path : String := ""
  authentication : Option AuthenticationOptions := none
  headers : List Header := []
  tls : Option OutputTLS := none
  compression : String := ""
  deriving DecidableEq

structure LogPipelineOutput where
  fluentBitCustom : String := ""
  fluentBitHTTP : Option FluentBitHTTPOutput := none
  otlp : Option OTLPOutput := none
  deriving DecidableEq

structure LogPipelineSpec where
  input : LogPipelineInput := {}
  fluentBitFilters : List FluentBitFilter := []
  output : LogPipelineOutput
  fluentBitFiles : List FluentBitFile := []
  fluentBitVariables : List FluentBitVariable := []
  transforms : List TransformSpec := []
  filters : List FilterSpec := []
  deriving DecidableEq

end V1Beta1

namespace ApiConversion

open FluentBitBuilder (systemNamespaces)

/-- A name that Kubernetes accepts for a namespace: at most 63 bytes, and a DNS label. -/
def isValidNamespaceName (name : String) : Bool :=
  name.utf8ByteSize ≤ 63 && isDNS1123Label name.toList

def sanitizeNamespaceNames (names : List String) : List String := names.filter isValidNamespaceName

def sanitizeSelector (selector : NamespaceSelector) : NamespaceSelector where
  «include» := sanitizeNamespaceNames selector.include
  exclude := sanitizeNamespaceNames selector.exclude

def convertOTLPInputToV1beta1 (input : V1Alpha1.OTLPInput) : OTLPInput where
  enabled := some !input.disabled
  namespaces := input.namespaces.map sanitizeSelector

def convertOTLPInputToV1alpha1 (input : OTLPInput) : V1Alpha1.OTLPInput where
  disabled := input.enabled.isSome && !input.enabled.getD false
  namespaces := input.namespaces.map sanitizeSelector

def convertOTLPOutputToV1beta1 (output : V1Alpha1.OTLPOutput) : V1Beta1.OTLPOutput where
  protocol := output.protocol
  endpoint := output.endpoint
  path := output.path
  authentication := output.authentication
  headers := output.headers
  tls := output.tls

/-- The compression has no counterpart and is dropped. -/
def convertOTLPOutputToV1alpha1 (output : V1Beta1.OTLPOutput) : V1Alpha1.OTLPOutput where
  protocol := output.protocol
  endpoint := output.endpoint
  path := output.path
  authentication := output.authentication
  headers := output.headers
  tls := output.tls

def convertMetricPipelineRuntimeInputToV1beta1 (input : MetricPipelineRuntimeInput) :
    MetricPipelineRuntimeInput :=
  { input with namespaces := input.namespaces.map sanitizeSelector }

/-- The selectors of the Prometheus and the Istio input are not sanitized. -/
def convertMetricPipelineInputToV1beta1 (input : V1Alpha1.MetricPipelineInput) :
    MetricPipelineInput where
  prometheus := input.prometheus
  runtime := input.runtime.map convertMetricPipelineRuntimeInputToV1beta1
  istio := input.istio
  otlp := input.otlp.map convertOTLPInputToV1beta1

def convertFluentBitHTTPOutputTLSToOutputTLS
    (tls : V1Alpha1.FluentBitHTTPOutputTLS) : OutputTLS where
  insecure := tls.disabled
  insecureSkipVerify := tls.skipCertificateValidation
  ca := tls.ca
  cert := tls.cert
  key := tls.key

def convertOutputTLSToFluentBitHTTPOutputTLS
    (tls : OutputTLS) : V1Alpha1.FluentBitHTTPOutputTLS where
  disabled := tls.insecure
  skipCertificateValidation := tls.insecureSkipVerify
  ca := tls.ca
  cert := tls.cert
  key := tls.key

def convertFluentBitHTTPOutputToV1beta1 (output : V1Alpha1.FluentBitHTTPOutput) :
    FluentBitHTTPOutput where
  host := output.host
  user := output.user
  password := output.password
  uri := output.uri
  port := output.port
  compress := output.compress
  format := output.format
  tls := convertFluentBitHTTPOutputTLSToOutputTLS output.tls
  dedot := output.dedot

def convertFluentBitHTTPOutputToV1alpha1 (output : FluentBitHTTPOutput) :
    V1Alpha1.FluentBitHTTPOutput where
  host := output.host
  user := output.user
  password := output.password
  uri := output.uri
  port := output.port
  compress := output.compress
  format := output.format
  tls := convertOutputTLSToFluentBitHTTPOutputTLS output.tls
  dedot := output.dedot

/-- The namespaces that the runtime input gets from the application input. System namespaces are
excluded if nothing else is said. -/
def convertApplicationNamespaces (selector : V1Alpha1.LogPipelineNamespaceSelector) :
    NamespaceSelector where
  «include» := sanitizeNamespaceNames selector.include
  exclude :=
    if selector.include = [] ∧ selector.exclude = [] ∧ selector.system = false then systemNamespaces
    else sanitizeNamespaceNames selector.exclude

def convertApplicationContainers (selector : LogPipelineContainerSelector) :
    Option LogPipelineContainerSelector :=
  if selector.include ≠ [] ∨ selector.exclude ≠ [] then some selector else none

def convertLogPipelineApplicationInput (input : V1Alpha1.LogPipelineApplicationInput) :
    LogPipelineRuntimeInput where
  enabled := input.enabled
  namespaces := some (convertApplicationNamespaces input.namespaces)
  containers := convertApplicationContainers input.containers
  fluentBitKeepAnnotations := input.fluentBitKeepAnnotations
  fluentBitDropLabels := input.fluentBitDropLabels
  keepOriginalBody := input.keepOriginalBody

def convertLogPipelineInputToV1beta1 (input : V1Alpha1.LogPipelineInput) : LogPipelineInput where
  runtime := input.application.map convertLogPipelineApplicationInput
  otlp := input.otlp.map convertOTLPInputToV1beta1

/-- An empty selector selects all namespaces, for which `v1alpha1` has the system flag. -/
def convertRuntimeNamespaces : Option NamespaceSelector → V1Alpha1.LogPipelineNamespaceSelector
  | none => {}
  | some selector =>
    if selector.include = [] ∧ selector.exclude = [] then { system := true }
    else { «include» := selector.include, exclude := selector.exclude, system := false }

def convertLogPipelineRuntimeInput (input : LogPipelineRuntimeInput) :
    V1Alpha1.LogPipelineApplicationInput where
  enabled := input.enabled
  namespaces := convertRuntimeNamespaces input.namespaces
  containers := input.containers.getD {}
  fluentBitKeepAnnotations := input.fluentBitKeepAnnotations
  fluentBitDropLabels := input.fluentBitDropLabels
  keepOriginalBody := input.keepOriginalBody

def convertLogPipelineInputToV1alpha1 (input : LogPipelineInput) : V1Alpha1.LogPipelineInput where
  application := input.runtime.map convertLogPipelineRuntimeInput
  otlp := input.otlp.map convertOTLPInputToV1alpha1

def convertLogPipelineOutputToV1beta1 (output : V1Alpha1.LogPipelineOutput) :
    V1Beta1.LogPipelineOutput where
  fluentBitCustom := output.fluentBitCustom
  fluentBitHTTP := output.fluentBitHTTP.map convertFluentBitHTTPOutputToV1beta1
  otlp := output.otlp.map convertOTLPOutputToV1beta1

def convertLogPipelineOutputToV1alpha1 (output : V1Beta1.LogPipelineOutput) :
    V1Alpha1.LogPipelineOutput where
  fluentBitCustom := output.fluentBitCustom
  fluentBitHTTP := output.fluentBitHTTP.map convertFluentBitHTTPOutputToV1alpha1
  otlp := output.otlp.map convertOTLPOutputToV1alpha1

def convertLogPipelineSpecToV1beta1
    (spec : V1Alpha1.LogPipelineSpec) : V1Beta1.LogPipelineSpec where
  input := convertLogPipelineInputToV1beta1 spec.input
  fluentBitFilters := spec.fluentBitFilters
  output := convertLogPipelineOutputToV1beta1 spec.output
  fluentBitFiles := spec.fluentBitFiles
  fluentBitVariables := spec.fluentBitVariables
  transforms := spec.transforms
  filters := spec.filters

def convertLogPipelineSpecToV1alpha1
    (spec : V1Beta1.LogPipelineSpec) : V1Alpha1.LogPipelineSpec where
  input := convertLogPipelineInputToV1alpha1 spec.input
  fluentBitFilters := spec.fluentBitFilters
  output := convertLogPipelineOutputToV1alpha1 spec.output
  fluentBitFiles := spec.fluentBitFiles
  fluentBitVariables := spec.fluentBitVariables
  transforms := spec.transforms
  filters := spec.filters

end ApiConversion
end TelemetryManager
