import Mathlib.Data.List.Basic

/-! The pipeline resources of API version `v1beta1`, with the fields that the modelled code reads.
A pointer is an `Option`. The OTLP output of trace and metric pipelines is required by the schema,
and an absent protocol has been filled in with `grpc` by the defaulting webhook. A slice that some
code compares with `nil` is an `Option` of a list. -/
namespace TelemetryManager

structure SecretKeyRef where
  name : String
  «namespace» : String
  key : String
  deriving DecidableEq

structure ValueFromSource where
  secretKeyRef : Option SecretKeyRef
  deriving DecidableEq

structure ValueType where
  value : String := ""
  valueFrom : Option ValueFromSource := none
  deriving DecidableEq

inductive OTLPProtocol where
  | http
  | grpc
  deriving DecidableEq

inductive OTLPCompressionEncoding where
  | none
  | gzip
  | snappy
  | zstd
  deriving DecidableEq

structure BasicAuthOptions where
  user : ValueType
  password : ValueType
  deriving DecidableEq

structure OAuth2Options where
  tokenURL : ValueType
  clientID : ValueType
  clientSecret : ValueType
  scopes : List String := []
  params : List (String × String) := []
  deriving DecidableEq

structure AuthenticationOptions where
  basic : Option BasicAuthOptions := none
  oauth2 : Option OAuth2Options := none
  deriving DecidableEq

structure Header extends ValueType where
  name : String
  headerPrefix : String := ""
  deriving DecidableEq

structure OutputTLS where
  insecure : Bool := false
  insecureSkipVerify : Bool := false
  ca : Option ValueType := none
  cert : Option ValueType := none
  key : Option ValueType := none
  deriving DecidableEq

structure OTLPOutput where
  protocol : OTLPProtocol := .grpc
  endpoint : ValueType
  path : String := ""
  authentication : Option AuthenticationOptions := none
  headers : List Header := []
  tls : Option OutputTLS := none
  compression : Option OTLPCompressionEncoding := none
  deriving DecidableEq

abbrev OTLPOutput.oauth2 (output : OTLPOutput) : Option OAuth2Options :=
  output.authentication.bind (·.oauth2)

structure NamespaceSelector where
  «include» : List String := []
  exclude : List String := []
  deriving DecidableEq

structure OTLPInput where
  enabled : Option Bool := none
  namespaces : Option NamespaceSelector := none
  deriving DecidableEq

structure TransformSpec where
  conditions : List String := []
  statements : List String := []
  deriving DecidableEq

structure FilterSpec where
  conditions : List String := []
  deriving DecidableEq

/-- The object metadata that the reconcilers read. Pipelines are cluster-scoped. -/
structure ObjectMeta where
  name : String
  uid : String := ""
  generation : Nat := 1
  deletionTimestamp : Option Int := none
  deriving DecidableEq

/-- `!GetDeletionTimestamp().IsZero()`. -/
def ObjectMeta.isBeingDeleted (m : ObjectMeta) : Bool := m.deletionTimestamp.isSome

structure Telemetry extends ObjectMeta where
  finalizers : List String := []

structure TracePipeline extends ObjectMeta where
  output : OTLPOutput
  transforms : List TransformSpec := []
  filters : Option (List FilterSpec) := none
  deriving DecidableEq

structure MetricPipelineRuntimeInputResource where
  enabled : Option Bool := none
  deriving DecidableEq

structure MetricPipelineRuntimeInputResources where
  pod : Option MetricPipelineRuntimeInputResource := none
  container : Option MetricPipelineRuntimeInputResource := none
  node : Option MetricPipelineRuntimeInputResource := none
  volume : Option MetricPipelineRuntimeInputResource := none
  daemonSet : Option MetricPipelineRuntimeInputResource := none
  deployment : Option MetricPipelineRuntimeInputResource := none
  statefulSet : Option MetricPipelineRuntimeInputResource := none
  job : Option MetricPipelineRuntimeInputResource := none
  deriving DecidableEq

structure MetricPipelineRuntimeInput where
  enabled : Option Bool := none
  namespaces : Option NamespaceSelector := none
  resources : Option MetricPipelineRuntimeInputResources := none
  additionalMetrics : List String := []
  deriving DecidableEq

structure MetricPipelineIstioInputDiagnosticMetrics where
  enabled : Option Bool := none
  deriving DecidableEq

structure EnvoyMetrics where
  enabled : Option Bool := none
  deriving DecidableEq

structure MetricPipelinePrometheusInput where
  enabled : Option Bool := none
  namespaces : Option NamespaceSelector := none
  diagnosticMetrics : Option MetricPipelineIstioInputDiagnosticMetrics := none
  deriving DecidableEq

structure MetricPipelineIstioInput where
  enabled : Option Bool := none
  namespaces : Option NamespaceSelector := none
  diagnosticMetrics : Option MetricPipelineIstioInputDiagnosticMetrics := none
  envoyMetrics : Option EnvoyMetrics := none
  deriving DecidableEq

structure MetricPipelineInput where
  prometheus : Option MetricPipelinePrometheusInput := none
  runtime : Option MetricPipelineRuntimeInput := none
  istio : Option MetricPipelineIstioInput := none
  otlp : Option OTLPInput := none
  deriving DecidableEq

inductive TemporalityType where
  | delta
  | preserve
  deriving DecidableEq

structure MetricPipeline extends ObjectMeta where
  input : MetricPipelineInput := {}
  output : OTLPOutput
  temporality : Option TemporalityType := none
  transforms : List TransformSpec := []
  filters : Option (List FilterSpec) := none
  deriving DecidableEq

structure LogPipelineContainerSelector where
  «include» : List String := []
  exclude : List String := []
  deriving DecidableEq

structure LogPipelineRuntimeInput where
  enabled : Option Bool := none
  namespaces : Option NamespaceSelector := none
  containers : Option LogPipelineContainerSelector := none
  fluentBitKeepAnnotations : Option Bool := none
  fluentBitDropLabels : Option Bool := none
  keepOriginalBody : Option Bool := none
  deriving DecidableEq

structure LogPipelineInput where
  runtime : Option LogPipelineRuntimeInput := none
  otlp : Option OTLPInput := none
  deriving DecidableEq

structure FluentBitHTTPOutput where
  host : ValueType
  user : Option ValueType := none
  password : Option ValueType := none
  uri : String := ""
  port : String := ""
  compress : String := ""
  format : String := ""
  tls : OutputTLS := {}
  dedot : Bool := false
  deriving DecidableEq

structure FluentBitFilter where
  custom : String := ""
  deriving DecidableEq

structure FluentBitFile where
  name : String
  content : String := ""
  deriving DecidableEq

structure FluentBitVariable where
  name : String
  valueFrom : ValueFromSource
  deriving DecidableEq

structure LogPipelineOutput where
  fluentBitCustom : String := ""
  fluentBitHTTP : Option FluentBitHTTPOutput := none
  otlp : Option OTLPOutput := none
  deriving DecidableEq

structure LogPipeline extends ObjectMeta where
  input : LogPipelineInput := {}
  fluentBitFilters : List FluentBitFilter := []
  output : LogPipelineOutput
  fluentBitFiles : List FluentBitFile := []
  fluentBitVariables : List FluentBitVariable := []
  transforms : List TransformSpec := []
  filters : Option (List FilterSpec) := none
  deriving DecidableEq

inductive SignalType where
  | trace
  | metric
  | log
  deriving DecidableEq

def SignalType.text : SignalType → String
  | .trace => "trace"
  | .metric => "metric"
  | .log => "log"

inductive OTLPPipeline where
  | trace (tp : TracePipeline)
  | log (lp : LogPipeline)
  | metric (mp : MetricPipeline)
  deriving DecidableEq

namespace OTLPPipeline

def objectMeta : OTLPPipeline → ObjectMeta
  | .trace tp => tp.toObjectMeta
  | .log lp => lp.toObjectMeta
  | .metric mp => mp.toObjectMeta

def signal : OTLPPipeline → SignalType
  | .trace _ => .trace
  | .log _ => .log
  | .metric _ => .metric

end OTLPPipeline
end TelemetryManager
