import TelemetryManager.Library.Placeholder
import TelemetryManager.Library.Registry
import TelemetryManager.PipelineApi

/-! Configuration of the OpenTelemetry collector: component types and component IDs. -/
namespace TelemetryManager.Collector

structure PipelineRef where
  name : String
  signalType : SignalType

def tracePipelineRef (tp : TracePipeline) : PipelineRef := ⟨tp.name, .trace⟩

def metricPipelineRef (mp : MetricPipeline) : PipelineRef := ⟨mp.name, .metric⟩

def logPipelineRef (lp : LogPipeline) : PipelineRef := ⟨lp.name, .log⟩

def pipelineRef (p : OTLPPipeline) : PipelineRef := ⟨p.objectMeta.name, p.signal⟩

def PipelineRef.typePrefix (r : PipelineRef) : String := r.signalType.text ++ "pipeline"

def PipelineRef.qualifiedName (r : PipelineRef) : String := r.typePrefix ++ "-" ++ r.name

structure TransformProcessorStatements where
  statements : List String
  conditions : List String := []
  deriving DecidableEq

structure TransformProcessorConfig where
  errorMode : String
  logStatements : List TransformProcessorStatements := []
  metricStatements : List TransformProcessorStatements := []
  traceStatements : List TransformProcessorStatements := []
  deriving DecidableEq

structure FilterProcessorConfig where
  errorMode : String
  metrics : List FilterSpec := []
  logs : List FilterSpec := []
  traces : List FilterSpec := []
  deriving DecidableEq

structure ExtractLabel where
  «from» : String
  key : String := ""
  tagName : String
  keyRegex : String := ""
  deriving DecidableEq

structure PodAssociation where
  «from» : String
  name : String := ""
  deriving DecidableEq

structure ExtractK8sMetadata where
  metadata : List String
  labels : List ExtractLabel
  annotations : List ExtractLabel := []
  otelAnnotations : Bool := false
  deriving DecidableEq

structure K8sAttributesProcessorConfig where
  authType : String
  passthrough : Bool
  nodeFromEnvVar : String
  extract : ExtractK8sMetadata
  podAssociation : List (List PodAssociation)
  deriving DecidableEq

inductive ProcessorConfig where
  | batch (sendBatchSize : Nat) (timeout : String) (sendBatchMaxSize : Nat)
  | memoryLimiter (checkInterval : String) (limitPercentage spikeLimitPercentage : Nat)
  | k8sAttributes (config : K8sAttributesProcessorConfig)
  | cumulativeToDelta (maxStaleness : Nat) (initialValue : String)
  | serviceEnrichment (resourceAttributes : List String)
  | istioNoiseFilter
  | istioEnrichment (scopeVersion : String)
  | transform (config : TransformProcessorConfig)
  | filter (config : FilterProcessorConfig)
  deriving DecidableEq

structure ModuleGVR where
  group : String
  version : String
  resource : String

inductive MetricGroupType where
  | container
  | pod
  | node
  | volume
  deriving DecidableEq

abbrev MetricSettings := Registry.Map String Bool

structure KubeletStatsReceiverConfig where
  collectionInterval : Nat
  authType : String
  insecureSkipVerify : Bool
  endpoint : String
  metricGroups : List MetricGroupType
  metrics : MetricSettings
  disabledResourceAttributes : List String
  extraMetadataLabels : List String
  allNodeNetworkInterfaces : Bool
  node : String
  k8sApiAuthType : String

structure K8sClusterReceiverConfig where
  authType : String
  collectionInterval : Nat
  nodeConditionsToReport : List String
  k8sLeaderElector : String
  metrics : MetricSettings

/-- The Prometheus receivers of the metric agent, by the arguments from which their scrape
configurations are computed. -/
inductive PrometheusReceiverConfig where
  | appPods (collectionInterval : Nat)
  | appServices (istioActive : Bool) (istioCertPath : String) (collectionInterval : Nat)
  | istio (envoyMetricsEnabled : Bool) (collectionInterval : Nat)

structure RetryOnFailure where
  enabled : Bool
  initialInterval : String
  maxInterval : String
  maxElapsedTime : String

inductive OperatorType where
  | move
  | severityParser
  | regexParser
  | remove
  | router
  | traceParser
  | noop
  | jsonParser
  | container

structure OperatorAttribute where
  parseFrom : String := ""

structure TraceAttribute where
  traceID : OperatorAttribute := {}
  spanID : OperatorAttribute := {}
  traceFlags : OperatorAttribute := {}

structure OperatorRoute where
  expression : String
  output : String

structure Operator where
  id : String
  type : OperatorType
  addMetadataFromFilePath : Option Bool := none
  format : String := ""
  «from» : String := ""
  «to» : String := ""
  ifExpr : String := ""
  parseFrom : String := ""
  parseTo : String := ""
  field : String := ""
  traceID : OperatorAttribute := {}
  spanID : OperatorAttribute := {}
  traceFlags : OperatorAttribute := {}
  regex : String := ""
  trace : TraceAttribute := {}
  routes : List OperatorRoute := []
  default : String := ""
  output : String := ""

structure FileLogReceiverConfig where
  exclude : List String
  «include» : List String
  includeFileName : Bool
  includeFilePath : Bool
  startAt : String
  storage : String
  retryOnFailure : RetryOnFailure
  operators : List Operator

/-- The receiver configurations. Durations of the metric agent are in nanoseconds. -/
inductive ReceiverConfig where
  | otlp (httpEndpoint grpcEndpoint : String)
  | kymaStats (authType collectionInterval : String) (resources : List ModuleGVR)
      (k8sLeaderElector : String)
  | kubeletStats (config : KubeletStatsReceiverConfig)
  | k8sCluster (config : K8sClusterReceiverConfig)
  | prometheus (config : PrometheusReceiverConfig)
  | fileLog (config : FileLogReceiverConfig)

structure RoutingConnectorTableEntry where
  statement : String
  pipelines : List String
  context : String := ""

inductive ConnectorConfig where
  | forward
  | routing (defaultPipelines : List String) (errorMode : String)
      (table : List RoutingConnectorTableEntry)

structure TLS where
  insecure : Bool
  insecureSkipVerify : Bool := false
  certPem : String := ""
  keyPem : String := ""
  caPem : String := ""

/-- The flush timeout is in nanoseconds. -/
structure Batch where
  minSize : Nat := 0
  maxSize : Nat := 0
  flushTimeout : Nat := 0
  sizer : String := ""

structure SendingQueue where
  enabled : Bool
  queueSize : Nat := 0
  sizer : String := ""
  batch : Batch := {}

structure OTLPExporterConfig where
  metricsEndpoint : String := ""
  tracesEndpoint : String := ""
  logsEndpoint : String := ""
  endpoint : String
  headers : Registry.Map String String
  tls : TLS
  compression : String
  sendingQueue : SendingQueue
  retryOnFailure : RetryOnFailure
  authenticator : String := ""

inductive ExtensionConfig where
  | k8sLeaderElector (authType leaseName leaseNamespace : String)
  | oauth2 (tokenURL clientID clientSecret : String) (scopes : List String)
      (params : List (String × String))
  | endpoint (endpoint : String)
  | cgroupRuntime (goMaxProcs goMemLimit : Bool) (ratioPercent : Nat) (refreshInterval : String)
  | fileStorage (createDirectory : Bool) (directory : String)

structure ServicePipeline where
  receivers : List String := []
  processors : List String := []
  exporters : List String := []

/-- The root configuration. The telemetry settings of the service are constant and left out. -/
structure Config where
  extensions : Registry.Map String ExtensionConfig
  serviceExtensions : List String
  pipelines : Registry.Map String ServicePipeline
  receivers : Registry.Map String ReceiverConfig
  processors : Registry.Map String ProcessorConfig
  exporters : Registry.Map String OTLPExporterConfig
  connectors : Registry.Map String ConnectorConfig

abbrev EnvVars := Registry.Map String String

def componentIDOTLPReceiver : String := "otlp"
def componentIDKymaStatsReceiver : String := "kymastats"
def componentIDK8sClusterReceiver : String := "k8s_cluster"
def componentIDKubeletStatsReceiver : String := "kubelet_stats"
def componentIDPrometheusAppPodsReceiver : String := "prometheus/app-pods"
def componentIDPrometheusAppServicesReceiver : String := "prometheus/app-services"
def componentIDPrometheusIstioReceiver : String := "prometheus/istio"
def componentIDFileLogReceiver (pipelineName : String) : String := "file_log/" ++ pipelineName
def componentIDBatchProcessor : String := "batch"
def componentIDMemoryLimiterProcessor : String := "memory_limiter"
def componentIDK8sAttributesProcessor : String := "k8s_attributes"
def componentIDCumulativeToDeltaProcessor : String := "cumulativetodelta"
def componentIDServiceEnrichmentProcessor : String := "service_enrichment"
def componentIDIstioNoiseFilterProcessor : String := "istio_noise_filter"
def componentIDIstioEnrichmentProcessor : String := "istio_enrichment"
def componentIDSetInstrumentationScopeKymaProcessor : String :=
  "transform/set-instrumentation-scope-kyma"
def componentIDSetInstrumentationScopeRuntimeProcessor : String :=
  "transform/set-instrumentation-scope-runtime"
def componentIDSetInstrumentationScopePrometheusProcessor : String :=
  "transform/set-instrumentation-scope-prometheus"
def componentIDSetInstrumentationScopeIstioProcessor : String :=
  "transform/set-instrumentation-scope-istio"
def componentIDInsertClusterAttributesProcessor : String := "transform/insert-cluster-attributes"
def componentIDDropKymaAttributesProcessor : String := "transform/drop-kyma-attributes"
def componentIDDropUnknownServiceNameProcessor : String := "transform/drop-unknown-service-name"
def componentIDRestoreOtelServiceAttrsProcessor : String := "transform/restore-otel-service-attrs"
def componentIDDropIstioServiceEnrichmentProcessor : String :=
  "transform/drop-istio-service-enrichment"
def componentIDSetObservedTimeIfZeroProcessor : String := "transform/set-observed-time-if-zero"
def componentIDSetKymaInputNameKymaProcessor : String := "transform/set-kyma-input-name-kyma"
def componentIDSetKymaInputNameRuntimeProcessor : String := "transform/set-kyma-input-name-runtime"
def componentIDSetKymaInputNamePrometheusProcessor : String :=
  "transform/set-kyma-input-name-prometheus"
def componentIDSetKymaInputNameIstioProcessor : String := "transform/set-kyma-input-name-istio"
def componentIDSetKymaInputNameOTLPProcessor : String := "transform/set-kyma-input-name-otlp"
def componentIDDropIfInputSourceOTLPProcessor : String := "filter/drop-if-input-source-otlp"
def componentIDDropEnvoyMetricsIfDisabledProcessor : String :=
  "filter/drop-envoy-metrics-if-disabled"
def componentIDDropRuntimePodMetricsProcessor : String := "filter/drop-runtime-pod-metrics"
def componentIDDropRuntimeContainerMetricsProcessor : String :=
  "filter/drop-runtime-container-metrics"
def componentIDDropRuntimeNodeMetricsProcessor : String := "filter/drop-runtime-node-metrics"
def componentIDDropRuntimeVolumeMetricsProcessor : String := "filter/drop-runtime-volume-metrics"
def componentIDDropRuntimeDeploymentMetricsProcessor : String :=
  "filter/drop-runtime-deployment-metrics"
def componentIDDropRuntimeDaemonSetMetricsProcessor : String :=
  "filter/drop-runtime-daemonset-metrics"
def componentIDDropRuntimeStatefulSetMetricsProcessor : String :=
  "filter/drop-runtime-statefulset-metrics"
def componentIDDropRuntimeJobMetricsProcessor : String := "filter/drop-runtime-job-metrics"
def componentIDDropRuntimeAdditionalMetricsProcessor : String :=
  "filter/drop-runtime-additional-metrics"
def componentIDDropPrometheusDiagnosticMetricsProcessor : String :=
  "filter/drop-diagnostic-metrics-if-input-source-prometheus"
def componentIDDropIstioDiagnosticMetricsProcessor : String :=
  "filter/drop-diagnostic-metrics-if-input-source-istio"
def componentIDFilterDropNonPVCVolumesMetricsProcessor : String :=
  "filter/drop-non-pvc-volumes-metrics"
def componentIDFilterDropVirtualNetworkInterfacesProcessor : String :=
  "filter/drop-virtual-network-interfaces"
def componentIDDropServiceNameProcessor : String := "transform/drop-service-name"
def componentIDDropSkipEnrichmentAttributeProcessor : String :=
  "transform/drop-skip-enrichment-attribute"
def componentIDInsertSkipEnrichmentAttributeProcessor : String :=
  "transform/insert-skip-enrichment-attribute"
def componentIDEnrichmentRoutingConnector : String := "routing/enrichment"
def componentIDRuntimeInputRoutingConnector : String := "routing/runtime-input"
def componentIDPrometheusInputRoutingConnector : String := "routing/prometheus-input"
def componentIDIstioInputRoutingConnector : String := "routing/istio-input"
def componentIDEnrichmentConnector : String := "forward/enrichment"
def componentIDInputConnector : String := "forward/input"
def componentIDK8sLeaderElectorExtension : String := "k8s_leader_elector"
def componentIDFileStorageExtension : String := "file_storage"
def componentIDHealthCheckExtension : String := "health_check"
def componentIDPprofExtension : String := "pprof"
def componentIDCGroupRuntimeExtension : String := "cgroup_runtime"

def componentIDUserDefinedFilterProcessor (r : PipelineRef) : String :=
  "filter/" ++ r.typePrefix ++ "-user-defined-" ++ r.name

def componentIDUserDefinedTransformProcessor (r : PipelineRef) : String :=
  "transform/" ++ r.typePrefix ++ "-user-defined-" ++ r.name

def componentIDNamespaceFilterProcessor (pipelineName : String) : String :=
  "filter/" ++ pipelineName ++ "-filter-by-namespace"

inductive InputSourceType where
  | runtime
  | prometheus
  | istio
  | otlp
  | kyma
  | k8sCluster

def InputSourceType.text : InputSourceType → String
  | .runtime => "runtime"
  | .prometheus => "prometheus"
  | .istio => "istio"
  | .otlp => "otlp"
  | .kyma => "kyma"
  | .k8sCluster => "k8s_cluster"

def componentIDNamespacePerInputFilterProcessor (pipelineName : String)
    (inputSource : InputSourceType) : String :=
  "filter/" ++ pipelineName ++ "-filter-by-namespace-" ++ inputSource.text ++ "-input"

def componentIDOTLPExporter (protocol : OTLPProtocol) (r : PipelineRef) : String :=
  match protocol with
  | .http => "otlp_http/" ++ r.qualifiedName
  | .grpc => "otlp_grpc/" ++ r.qualifiedName

def componentIDOAuth2Extension (r : PipelineRef) : String := "oauth2client/" ++ r.qualifiedName

def envVarCurrentPodIP : String := "MY_POD_IP"

def envVarCurrentNodeName : String := "MY_NODE_NAME"

def defaultExtensions : Registry.Map String ExtensionConfig :=
  Registry.registerAll
    [(componentIDHealthCheckExtension, .endpoint (Placeholder.ref envVarCurrentPodIP ++ ":13133")),
     (componentIDPprofExtension, .endpoint "127.0.0.1:1777"),
     (componentIDCGroupRuntimeExtension, .cgroupRuntime false true 80 "30s")] ∅

def newConfig : Config where
  extensions := defaultExtensions
  serviceExtensions := [componentIDHealthCheckExtension, componentIDPprofExtension,
    componentIDCGroupRuntimeExtension]
  pipelines := ∅
  receivers := ∅
  processors := ∅
  exporters := ∅
  connectors := ∅

end TelemetryManager.Collector
