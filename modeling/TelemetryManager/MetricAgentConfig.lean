import TelemetryManager.GatewayConfig
import TelemetryManager.MetricAgentReceivers

/-! The configuration of the metric agent.
Each input has a service pipeline of its own that is shared by all metric pipelines. A router behind
it sends metrics to one shared service pipeline for enrichment, or directly to the output service
pipelines if they are not to be enriched. Behind the enrichment, another router sends them to the
outputs of those metric pipelines that have the input enabled. -/
namespace TelemetryManager.MetricAgent

open Collector Interaction MetricPipelineUtils OtlpExporter Ottl RuntimeMetrics
open Gateway (addOTLPExporter addPipeline addPipelines addUserDefinedFilterProcessor
  addUserDefinedTransformProcessor annotationValueTelemetryServiceEnrichmentOtel
  batchingMaxQueueSize namespacesConditions shouldFilterByNamespace)

def maxStalenessMultiplier : Nat := 4

def enrichmentServicePipelineID : String := "metrics/enrichment-conditional"

def diagnosticMetricNames : List String :=
  ["up", "scrape_duration_seconds", "scrape_samples_scraped",
   "scrape_samples_post_metric_relabeling", "scrape_series_added"]

def skipEnrichmentAttribute : String := "io.kyma-project.telemetry.skip_enrichment"

def k8sLeaderElectorK8sCluster : String := "telemetry-metric-agent-k8scluster"

structure MetricCollectionIntervals where
  runtime : Nat := 30000000000
  prometheus : Nat := 30000000000
  istio : Nat := 30000000000

def MetricCollectionIntervals.max (intervals : MetricCollectionIntervals) : Nat :=
  Nat.max (Nat.max intervals.runtime intervals.prometheus) intervals.istio

structure BuildOptions where
  cluster : ClusterOptions := {}
  istioActive : Bool := false
  istioCertPath : String := ""
  instrumentationScopeVersion : String := ""
  agentNamespace : String := ""
  enrichments : Option EnrichmentSpec := none
  serviceEnrichment : String := ""
  collectionIntervals : MetricCollectionIntervals := {}

def useOTelServiceEnrichment (opts : BuildOptions) : Bool :=
  opts.serviceEnrichment = annotationValueTelemetryServiceEnrichmentOtel

def getPipelinesWithRuntimeInput (pipelines : List MetricPipeline) : List MetricPipeline :=
  pipelines.filter fun mp => isRuntimeInputEnabled mp.input

def getPipelinesWithPrometheusInput (pipelines : List MetricPipeline) : List MetricPipeline :=
  pipelines.filter fun mp => isPrometheusInputEnabled mp.input

def getPipelinesWithIstioInput (pipelines : List MetricPipeline) : List MetricPipeline :=
  pipelines.filter fun mp => isIstioInputEnabled mp.input

def shouldEnablePrometheusMetricsScraping (pipelines : List MetricPipeline) : Bool :=
  pipelines.any fun mp => isPrometheusInputEnabled mp.input

def shouldEnableIstioMetricsScraping (pipelines : List MetricPipeline) : Bool :=
  pipelines.any fun mp => isIstioInputEnabled mp.input

def shouldEnableEnvoyMetricsScraping (pipelines : List MetricPipeline) : Bool :=
  pipelines.any fun mp => isIstioInputEnabled mp.input && isEnvoyMetricsEnabled mp.input

def formatOutputMetricServicePipelineID (mp : MetricPipeline) : String :=
  "metrics/output-" ++ mp.name

def formatOutputPipelineIDs (pipelines : List MetricPipeline) : List String :=
  pipelines.map formatOutputMetricServicePipelineID

def inputRoutingConnector (outputPipelineIDs : List String) : ConnectorConfig :=
  .routing [enrichmentServicePipelineID] "ignore"
    [{ statement := "route() where attributes[\"" ++ skipEnrichmentAttribute ++ "\"] == \"true\""
       pipelines := outputPipelineIDs }]

def enrichmentRoutingConnectorTableEntry (pipelines : List MetricPipeline)
    (routingCondition : String) : RoutingConnectorTableEntry where
  context := "metric"
  statement := "route() where " ++ routingCondition
  pipelines := formatOutputPipelineIDs pipelines

def enrichmentRoutingConnector
    (runtimePipelines prometheusPipelines istioPipelines : List MetricPipeline) : ConnectorConfig :=
  .routing [] "ignore"
    ((if runtimePipelines ≠ [] then
        [enrichmentRoutingConnectorTableEntry runtimePipelines (kymaInputNameEquals .runtime)]
      else []) ++
     (if prometheusPipelines ≠ [] then
        [enrichmentRoutingConnectorTableEntry prometheusPipelines
          (kymaInputNameEquals .prometheus)]
      else []) ++
     (if istioPipelines ≠ [] then
        [enrichmentRoutingConnectorTableEntry istioPipelines (kymaInputNameEquals .istio)]
      else []))

def addExporterForInputRouter (componentID : String) (outputPipelines : List MetricPipeline) :
    Component :=
  .exportingConnector componentID
    (some (inputRoutingConnector (formatOutputPipelineIDs outputPipelines)))

def addReceiverForInputRouter (componentID : String) (outputPipelines : List MetricPipeline)
    (inputEnabled : Bool) : Component :=
  .receivingConnector componentID
    (if inputEnabled then
      some (inputRoutingConnector (formatOutputPipelineIDs outputPipelines))
    else none)

def addExporterForEnrichmentRouter
    (runtimePipelines prometheusPipelines istioPipelines : List MetricPipeline) : Component :=
  .exportingConnector componentIDEnrichmentRoutingConnector
    (some (enrichmentRoutingConnector runtimePipelines prometheusPipelines istioPipelines))

def addReceiverForEnrichmentRouter
    (runtimePipelines prometheusPipelines istioPipelines : List MetricPipeline) : Component :=
  .receivingConnector componentIDEnrichmentRoutingConnector
    (if runtimePipelines = [] ∧ prometheusPipelines = [] ∧ istioPipelines = [] then none
      else
        some (enrichmentRoutingConnector runtimePipelines prometheusPipelines istioPipelines))

section Inputs

variable (opts : BuildOptions)

def addKubeletStatsReceiver (runtimeResources : RuntimeResourceSources)
    (kubeletStatsAdditionalMetrics : List String) : Component :=
  .receiver componentIDKubeletStatsReceiver
    (some (.kubeletStats (kubeletStatsReceiver runtimeResources kubeletStatsAdditionalMetrics
      opts.collectionIntervals.runtime)))

def addK8sClusterReceiver (runtimeResources : RuntimeResourceSources)
    (k8sClusterAdditionalMetrics : List String) : Component :=
  .receiver componentIDK8sClusterReceiver
    (some (.k8sCluster (k8sClusterReceiver runtimeResources k8sClusterAdditionalMetrics
      opts.collectionIntervals.runtime)))

def addPrometheusAppPodsReceiver : Component :=
  .receiver componentIDPrometheusAppPodsReceiver
    (some (.prometheus (.appPods opts.collectionIntervals.prometheus)))

def addPrometheusAppServicesReceiver : Component :=
  .receiver componentIDPrometheusAppServicesReceiver
    (some (.prometheus (.appServices opts.istioActive opts.istioCertPath
      opts.collectionIntervals.prometheus)))

def addPrometheusIstioReceiver (envoyMetricsEnabled : Bool) : Component :=
  .receiver componentIDPrometheusIstioReceiver
    (some (.prometheus (.istio envoyMetricsEnabled opts.collectionIntervals.istio)))

def addMemoryLimiterProcessor : Component :=
  .processor componentIDMemoryLimiterProcessor (some (.memoryLimiter "1s" 75 15))

def dropNonPVCVolumesMetricsProcessor : ProcessorConfig :=
  metricFilterProcessor
    [⟨[joinWithAnd
      [resourceAttributeIsNotNil "k8s.volume.name",
       joinWithOr
        [resourceAttributeEquals "k8s.volume.type" "configMap",
         resourceAttributeEquals "k8s.volume.type" "downwardAPI",
         resourceAttributeEquals "k8s.volume.type" "emptyDir",
         resourceAttributeEquals "k8s.volume.type" "secret"]]]⟩]

def addFilterDropNonPVCVolumesMetricsProcessor (runtimeResources : RuntimeResourceSources) :
    Component :=
  .processor componentIDFilterDropNonPVCVolumesMetricsProcessor
    (if runtimeResources.volume then some dropNonPVCVolumesMetricsProcessor else none)

def dropVirtualNetworkInterfacesProcessor : ProcessorConfig :=
  metricFilterProcessor
    [⟨[joinWithAnd
      [isMatch "metric.name" "^k8s.node.network.*",
       Ottl.not (isMatch "datapoint.attributes[\"interface\"]" "^(eth|en).*")]]⟩]

def addFilterDropVirtualNetworkInterfacesProcessor : Component :=
  .processor componentIDFilterDropVirtualNetworkInterfacesProcessor
    (some dropVirtualNetworkInterfacesProcessor)

def addDropServiceNameProcessor : Component :=
  .processor componentIDDropServiceNameProcessor
    (some (metricTransformProcessor
      [{ statements := ["delete_key(resource.attributes, \"service.name\")"] }]))

def metricNameConditionsWithIsMatch (metrics : List String) : List String :=
  metrics.map fun m => isMatch "metric.name" ("^k8s." ++ m ++ ".*")

def insertSkipEnrichmentAttributeProcessor : ProcessorConfig :=
  metricTransformProcessor
    [{ conditions :=
        metricNameConditionsWithIsMatch ["node", "statefulset", "daemonset", "deployment", "job"]
       statements :=
        ["set(resource.attributes[\"" ++ skipEnrichmentAttribute ++ "\"], \"true\")"] }]

def addInsertSkipEnrichmentAttributeProcessor : Component :=
  .processor componentIDInsertSkipEnrichmentAttributeProcessor
    (some insertSkipEnrichmentAttributeProcessor)

def addSetInstrumentationScopeToRuntimeProcessor : Component :=
  .processor componentIDSetInstrumentationScopeRuntimeProcessor
    (some (instrumentationScopeProcessor opts.instrumentationScopeVersion [.runtime, .k8sCluster]))

def addSetInstrumentationScopeToPrometheusProcessor : Component :=
  .processor componentIDSetInstrumentationScopePrometheusProcessor
    (some (instrumentationScopeProcessor opts.instrumentationScopeVersion [.prometheus]))

def addSetInstrumentationScopeToIstioProcessor : Component :=
  .processor componentIDSetInstrumentationScopeIstioProcessor
    (some (instrumentationScopeProcessor opts.instrumentationScopeVersion [.istio]))

/-- The IDs that the source keeps in a map; there is none for the cluster receiver. -/
def inputName : InputSourceType → String
  | .runtime => componentIDSetKymaInputNameRuntimeProcessor
  | .prometheus => componentIDSetKymaInputNamePrometheusProcessor
  | .istio => componentIDSetKymaInputNameIstioProcessor
  | .kyma => componentIDSetKymaInputNameKymaProcessor
  | .otlp => componentIDSetKymaInputNameOTLPProcessor
  | .k8sCluster => ""

def addSetKymaInputNameProcessor (inputSource : InputSourceType) : Component :=
  .processor (inputName inputSource)
    (some (metricTransformProcessor (kymaInputNameProcessorStatements inputSource)))

def addIstioNoiseFilterProcessor : Component :=
  .processor componentIDIstioNoiseFilterProcessor (some .istioNoiseFilter)

end Inputs

section Enrichment

variable (opts : BuildOptions)

def addDropUnknownServiceNameProcessor : Component :=
  .processor componentIDDropUnknownServiceNameProcessor
    (if useOTelServiceEnrichment opts then
      some (metricTransformProcessor dropUnknownServiceNameProcessorStatements)
    else none)

def addK8sAttributesProcessor : Component :=
  .processor componentIDK8sAttributesProcessor
    (some (.k8sAttributes
      (k8sAttributesProcessor opts.enrichments (useOTelServiceEnrichment opts))))

def addRestoreOtelServiceAttrsProcessor : Component :=
  .processor componentIDRestoreOtelServiceAttrsProcessor
    (if useOTelServiceEnrichment opts then
      some (metricTransformProcessor restoreOtelServiceAnnotationsProcessorStatements)
    else none)

def addServiceEnrichmentProcessor : Component :=
  .processor componentIDServiceEnrichmentProcessor
    (if useOTelServiceEnrichment opts then none else some resolveServiceName)

end Enrichment

/-- What the runtime filter of a resource drops: its metrics, except the additional ones. -/
def dropRuntimeResourceMetricsConditions (pattern : MetricPattern)
    (additionalMetrics : List String) : List String :=
  let additionalResourceMetrics := getRuntimeAdditionalResourceMetrics additionalMetrics pattern
  [kymaInputNameEquals .runtime, isMatch "metric.name" pattern.text] ++
  if additionalResourceMetrics ≠ [] then
    [Ottl.not (joinWithOr (nameConditions additionalResourceMetrics))]
  else []

/-- The runtime filter of a resource, needed if the resource is disabled in the runtime input. -/
def addDropRuntimeResourceMetricsProcessor (componentID : String)
    (enabled : MetricPipelineInput → Bool) (pattern : MetricPattern) (mp : MetricPipeline) :
    Component :=
  .processor (componentID ++ "-" ++ mp.name)
    (if !isRuntimeInputEnabled mp.input || enabled mp.input then none
      else some (metricFilterProcessor [⟨[joinWithAnd (dropRuntimeResourceMetricsConditions pattern
        (runtimeAdditionalMetrics mp.input))]⟩]))

def addDropRuntimePodMetricsProcessor : MetricPipeline → Component :=
  addDropRuntimeResourceMetricsProcessor componentIDDropRuntimePodMetricsProcessor
    isRuntimePodInputEnabled podMetricPattern

def addDropRuntimeContainerMetricsProcessor : MetricPipeline → Component :=
  addDropRuntimeResourceMetricsProcessor componentIDDropRuntimeContainerMetricsProcessor
    isRuntimeContainerInputEnabled containerMetricPattern

def addDropRuntimeNodeMetricsProcessor : MetricPipeline → Component :=
  addDropRuntimeResourceMetricsProcessor componentIDDropRuntimeNodeMetricsProcessor
    isRuntimeNodeInputEnabled nodeMetricPattern

def addDropRuntimeVolumeMetricsProcessor : MetricPipeline → Component :=
  addDropRuntimeResourceMetricsProcessor componentIDDropRuntimeVolumeMetricsProcessor
    isRuntimeVolumeInputEnabled volumeMetricPattern

def addDropRuntimeDeploymentMetricsProcessor : MetricPipeline → Component :=
  addDropRuntimeResourceMetricsProcessor componentIDDropRuntimeDeploymentMetricsProcessor
    isRuntimeDeploymentInputEnabled deploymentMetricPattern

def addDropRuntimeDaemonSetMetricsProcessor : MetricPipeline → Component :=
  addDropRuntimeResourceMetricsProcessor componentIDDropRuntimeDaemonSetMetricsProcessor
    isRuntimeDaemonSetInputEnabled daemonsetMetricPattern

def addDropRuntimeStatefulSetMetricsProcessor : MetricPipeline → Component :=
  addDropRuntimeResourceMetricsProcessor componentIDDropRuntimeStatefulSetMetricsProcessor
    isRuntimeStatefulSetInputEnabled statefulsetMetricPattern

def addDropRuntimeJobMetricsProcessor : MetricPipeline → Component :=
  addDropRuntimeResourceMetricsProcessor componentIDDropRuntimeJobMetricsProcessor
    isRuntimeJobInputEnabled jobMetricPattern

/-- The additional metrics of all pipelines that this pipeline is not to receive. -/
def additionalMetricsToDrop (allAdditionalMetrics pipelineAdditionalMetrics : List String)
    (input : MetricPipelineInput) : List String :=
  let excludedMetrics := pipelineAdditionalMetrics ++
    (if isRuntimePodInputEnabled input then
      k8sClusterReceiverPodMetrics ++ kubeletStatsReceiverPodMetrics else []) ++
    (if isRuntimeContainerInputEnabled input then
      k8sClusterReceiverContainerMetrics ++ kubeletStatsReceiverContainerMetrics else []) ++
    (if isRuntimeNodeInputEnabled input then kubeletStatsReceiverNodeMetrics else []) ++
    (if isRuntimeVolumeInputEnabled input then kubeletStatsReceiverVolumeMetrics else []) ++
    (if isRuntimeDeploymentInputEnabled input then k8sClusterReceiverDeploymentMetrics else []) ++
    (if isRuntimeDaemonSetInputEnabled input then k8sClusterReceiverDaemonSetMetrics else []) ++
    (if isRuntimeStatefulSetInputEnabled input then k8sClusterReceiverStatefulSetMetrics else []) ++
    (if isRuntimeJobInputEnabled input then k8sClusterReceiverJobMetrics else [])
  allAdditionalMetrics.filter fun m => m ∉ excludedMetrics

def addDropAdditionalRuntimeMetricsProcessor (allAdditionalMetrics : List String)
    (mp : MetricPipeline) : Component :=
  .processor (componentIDDropRuntimeAdditionalMetricsProcessor ++ "-" ++ mp.name)
    (if !isRuntimeInputEnabled mp.input || allAdditionalMetrics.isEmpty then none
    else
      let metricsToDrop := additionalMetricsToDrop allAdditionalMetrics
        (runtimeAdditionalMetrics mp.input) mp.input
      if metricsToDrop = [] then none
      else some (metricFilterProcessor [⟨[joinWithAnd [kymaInputNameEquals .runtime,
        joinWithOr (nameConditions metricsToDrop)]]⟩]))

def runtimeFilters (allAdditionalMetrics : List String) (mp : MetricPipeline) : List Component :=
  [addDropRuntimePodMetricsProcessor mp,
   addDropRuntimeContainerMetricsProcessor mp,
   addDropRuntimeNodeMetricsProcessor mp,
   addDropRuntimeVolumeMetricsProcessor mp,
   addDropRuntimeDeploymentMetricsProcessor mp,
   addDropRuntimeDaemonSetMetricsProcessor mp,
   addDropRuntimeStatefulSetMetricsProcessor mp,
   addDropRuntimeJobMetricsProcessor mp,
   addDropAdditionalRuntimeMetricsProcessor allAdditionalMetrics mp]

def dropDiagnosticMetricsFilterProcessor (inputSource : InputSourceType) : ProcessorConfig :=
  metricFilterProcessor
    [⟨[joinWithAnd [kymaInputNameEquals inputSource,
      joinWithOr (nameConditions diagnosticMetricNames)]]⟩]

def addDropPrometheusDiagnosticMetricsProcessor (mp : MetricPipeline) : Component :=
  .processor componentIDDropPrometheusDiagnosticMetricsProcessor
    (if !isPrometheusInputEnabled mp.input || isPrometheusDiagnosticInputEnabled mp.input then none
      else some (dropDiagnosticMetricsFilterProcessor .prometheus))

def addDropIstioDiagnosticMetricsProcessor (mp : MetricPipeline) : Component :=
  .processor componentIDDropIstioDiagnosticMetricsProcessor
    (if !isIstioInputEnabled mp.input || isIstioDiagnosticInputEnabled mp.input then none
      else some (dropDiagnosticMetricsFilterProcessor .istio))

def addDropEnvoyMetricsIfDisabledProcessor (mp : MetricPipeline) : Component :=
  .processor componentIDDropEnvoyMetricsIfDisabledProcessor
    (if isIstioInputEnabled mp.input && isEnvoyMetricsEnabled mp.input then none
      else some (metricFilterProcessor
        [⟨[joinWithAnd [isMatch "metric.name" "^envoy_.*", kymaInputNameEquals .istio]]⟩]))

def filterByNamespaceProcessor (selector : NamespaceSelector) (inputSourceCondition : String) :
    ProcessorConfig :=
  metricFilterProcessor
    [⟨(if selector.exclude ≠ [] then
        [joinWithAnd [inputSourceCondition, joinWithOr (namespacesConditions selector.exclude)]]
        else []) ++
      (if selector.include ≠ [] then
        [joinWithAnd [inputSourceCondition, resourceAttributeIsNotNil k8sNamespaceName,
          Ottl.not (joinWithOr (namespacesConditions selector.include))]]
        else [])⟩]

/-- The namespace filter of an input, needed if the input is enabled and selects namespaces. -/
def addNamespaceFilterProcessor (inputSource : InputSourceType) (enabled : Bool)
    (namespaces : Option NamespaceSelector) (mp : MetricPipeline) : Component :=
  .processor (componentIDNamespacePerInputFilterProcessor mp.name inputSource)
    (if enabled && shouldFilterByNamespace namespaces then
      namespaces.map fun selector =>
        filterByNamespaceProcessor selector (kymaInputNameEquals inputSource)
    else none)

def addRuntimeNamespaceFilterProcessor (mp : MetricPipeline) : Component :=
  addNamespaceFilterProcessor .runtime (isRuntimeInputEnabled mp.input)
    (mp.input.runtime.bind (·.namespaces)) mp

def addPrometheusNamespaceFilterProcessor (mp : MetricPipeline) : Component :=
  addNamespaceFilterProcessor .prometheus (isPrometheusInputEnabled mp.input)
    (mp.input.prometheus.bind (·.namespaces)) mp

def addIstioNamespaceFilterProcessor (mp : MetricPipeline) : Component :=
  addNamespaceFilterProcessor .istio (isIstioInputEnabled mp.input)
    (mp.input.istio.bind (·.namespaces)) mp

def addInsertClusterAttributesProcessor (opts : BuildOptions) : Component :=
  .processor componentIDInsertClusterAttributesProcessor
    (some (metricTransformProcessor (insertClusterAttributesProcessorStatements opts.cluster)))

def addDropSkipEnrichmentAttributeProcessor : Component :=
  .processor componentIDDropSkipEnrichmentAttributeProcessor
    (some (metricTransformProcessor
      [{ statements :=
          ["delete_key(resource.attributes, \"io.kyma-project.telemetry.skip_enrichment\")"] }]))

def addDropKymaAttributesProcessor : Component :=
  .processor componentIDDropKymaAttributesProcessor
    (some (metricTransformProcessor dropKymaAttributesProcessorStatements))

/-- The temporality is dereferenced; admission defaults it. -/
def addCumulativeToDeltaProcessor (opts : BuildOptions) (mp : MetricPipeline) : Component :=
  match mp.temporality with
  | some .delta => .processor componentIDCumulativeToDeltaProcessor
      (some (.cumulativeToDelta (maxStalenessMultiplier * opts.collectionIntervals.max) "auto"))
  | some .preserve => .processor componentIDCumulativeToDeltaProcessor none
  | none => .nilDereference

def addBatchProcessor : Component :=
  .processor componentIDBatchProcessor (some (.batch 1024 "10s" 1024))

structure InputSources where
  runtime : Bool
  runtimeResources : RuntimeResourceSources
  prometheus : Bool
  istio : Bool
  envoy : Bool

def inputSources (pipelines : List MetricPipeline) : InputSources where
  runtimeResources := runtimeResourceSources pipelines
  runtime := shouldEnableRuntimeMetricsScraping pipelines
  prometheus := shouldEnablePrometheusMetricsScraping pipelines
  istio := shouldEnableIstioMetricsScraping pipelines
  envoy := shouldEnableEnvoyMetricsScraping pipelines

section Plans

variable (lib : ExporterLib) (opts : BuildOptions) (pipelines : List MetricPipeline)

def inputRuntimePlan : ServicePlan :=
  let inputs := inputSources pipelines
  let (k8sClusterAdditionalMetrics, kubeletStatsAdditionalMetrics) :=
    getRuntimeAdditionalMetrics pipelines
  { id := "metrics/input-runtime"
    components :=
      [addKubeletStatsReceiver opts inputs.runtimeResources kubeletStatsAdditionalMetrics,
       addK8sClusterReceiver opts inputs.runtimeResources k8sClusterAdditionalMetrics,
       addMemoryLimiterProcessor,
       addFilterDropNonPVCVolumesMetricsProcessor inputs.runtimeResources,
       addFilterDropVirtualNetworkInterfacesProcessor,
       addDropServiceNameProcessor,
       addInsertSkipEnrichmentAttributeProcessor,
       addSetInstrumentationScopeToRuntimeProcessor opts,
       addSetKymaInputNameProcessor .runtime,
       addExporterForInputRouter componentIDRuntimeInputRoutingConnector
        (getPipelinesWithRuntimeInput pipelines)] }

def inputPrometheusPlan : ServicePlan where
  id := "metrics/input-prometheus"
  components :=
    [addPrometheusAppPodsReceiver opts,
     addPrometheusAppServicesReceiver opts,
     addMemoryLimiterProcessor,
     addDropServiceNameProcessor,
     addSetInstrumentationScopeToPrometheusProcessor opts,
     addSetKymaInputNameProcessor .prometheus,
     addExporterForInputRouter componentIDPrometheusInputRoutingConnector
      (getPipelinesWithPrometheusInput pipelines)]

def inputIstioPlan : ServicePlan where
  id := "metrics/input-istio"
  components :=
    [addPrometheusIstioReceiver opts (inputSources pipelines).envoy,
     addMemoryLimiterProcessor,
     addDropServiceNameProcessor,
     addIstioNoiseFilterProcessor,
     addSetInstrumentationScopeToIstioProcessor opts,
     addSetKymaInputNameProcessor .istio,
     addExporterForInputRouter componentIDIstioInputRoutingConnector
      (getPipelinesWithIstioInput pipelines)]

def enrichmentPlan : ServicePlan :=
  let inputs := inputSources pipelines
  let pipelinesWithRuntimeInput := getPipelinesWithRuntimeInput pipelines
  let pipelinesWithPrometheusInput := getPipelinesWithPrometheusInput pipelines
  let pipelinesWithIstioInput := getPipelinesWithIstioInput pipelines
  { id := enrichmentServicePipelineID
    components :=
      [addReceiverForInputRouter componentIDRuntimeInputRoutingConnector pipelinesWithRuntimeInput
        inputs.runtime,
       addReceiverForInputRouter componentIDPrometheusInputRoutingConnector
        pipelinesWithPrometheusInput inputs.prometheus,
       addReceiverForInputRouter componentIDIstioInputRoutingConnector pipelinesWithIstioInput
        inputs.istio,
       addDropUnknownServiceNameProcessor opts,
       addK8sAttributesProcessor opts,
       addRestoreOtelServiceAttrsProcessor opts,
       addServiceEnrichmentProcessor opts,
       addExporterForEnrichmentRouter pipelinesWithRuntimeInput pipelinesWithPrometheusInput
        pipelinesWithIstioInput] }

def outputPlan (mp : MetricPipeline) : ServicePlan :=
  let pipelinesWithRuntimeInput := getPipelinesWithRuntimeInput pipelines
  let pipelinesWithPrometheusInput := getPipelinesWithPrometheusInput pipelines
  let pipelinesWithIstioInput := getPipelinesWithIstioInput pipelines
  { id := formatOutputMetricServicePipelineID mp
    components :=
      [addReceiverForEnrichmentRouter pipelinesWithRuntimeInput pipelinesWithPrometheusInput
        pipelinesWithIstioInput,
       addReceiverForInputRouter componentIDRuntimeInputRoutingConnector pipelinesWithRuntimeInput
        (isRuntimeInputEnabled mp.input),
       addReceiverForInputRouter componentIDPrometheusInputRoutingConnector
        pipelinesWithPrometheusInput (isPrometheusInputEnabled mp.input),
       addReceiverForInputRouter componentIDIstioInputRoutingConnector pipelinesWithIstioInput
        (isIstioInputEnabled mp.input)] ++
      runtimeFilters (allRuntimeAdditionalMetrics pipelines) mp ++
      [addDropPrometheusDiagnosticMetricsProcessor mp,
       addDropIstioDiagnosticMetricsProcessor mp,
       addDropEnvoyMetricsIfDisabledProcessor mp,
       addRuntimeNamespaceFilterProcessor mp,
       addPrometheusNamespaceFilterProcessor mp,
       addIstioNamespaceFilterProcessor mp,
       addInsertClusterAttributesProcessor opts,
       addDropSkipEnrichmentAttributeProcessor,
       -- Before the processors of the user, which are not to see these attributes.
       addDropKymaAttributesProcessor,
       addUserDefinedTransformProcessor (metricPipelineRef mp) metricTransformProcessor
        mp.transforms,
       addUserDefinedFilterProcessor (metricPipelineRef mp) metricFilterProcessor mp.filters,
       addCumulativeToDeltaProcessor opts mp,
       addBatchProcessor,
       addOTLPExporter lib (metricPipelineRef mp) mp.output
        (batchingMaxQueueSize / pipelines.length)] }

def sortPipelinesByName : List MetricPipeline :=
  pipelines.insertionSort fun a b => a.name ≤ b.name

section Sorted

variable {pipelines}

theorem mem_sortPipelinesByName {mp : MetricPipeline} :
    mp ∈ sortPipelinesByName pipelines ↔ mp ∈ pipelines := List.mem_insertionSort _

theorem nodup_sortPipelinesByName (hnames : (pipelines.map (·.name)).Nodup) :
    ((sortPipelinesByName pipelines).map (·.name)).Nodup :=
  ((List.perm_insertionSort _ pipelines).map _).nodup_iff.mpr hnames

end Sorted

def addServicePipelineIf (enabled : Bool) (errText : String) (plan : ServicePlan)
    (s : BuildState) : Client BuildState :=
  if enabled then mapErr (wrapf errText) (addServicePipeline plan s) else pure s

def build : Client BuildState := do
  let pipelines := sortPipelinesByName pipelines
  let inputs := inputSources pipelines
  let s := addExtension componentIDK8sLeaderElectorExtension
    (.k8sLeaderElector "serviceAccount" k8sLeaderElectorK8sCluster opts.agentNamespace) ∅
    ⟨newConfig, ∅⟩
  let s ← addServicePipelineIf inputs.runtime "failed to add runtime service pipeline: "
    (inputRuntimePlan opts pipelines) s
  let s ← addServicePipelineIf inputs.prometheus "failed to add prometheus service pipeline: "
    (inputPrometheusPlan opts pipelines) s
  let s ← addServicePipelineIf inputs.istio "failed to add istio service pipeline: "
    (inputIstioPlan opts pipelines) s
  let s ← mapErr (wrapf "failed to add enrichment service pipeline: ")
    (addServicePipeline (enrichmentPlan opts pipelines) s)
  addPipelines (fun mp => addPipeline "failed to add enrichment service pipeline: "
    (metricPipelineRef mp) mp.output.authentication (outputPlan lib opts pipelines mp)) pipelines s

def inputPlans : List ServicePlan :=
  (if (inputSources pipelines).runtime then [inputRuntimePlan opts pipelines] else []) ++
  (if (inputSources pipelines).prometheus then [inputPrometheusPlan opts pipelines] else []) ++
  (if (inputSources pipelines).istio then [inputIstioPlan opts pipelines] else [])

def servicePlans : List ServicePlan :=
  inputPlans opts pipelines ++ [enrichmentPlan opts pipelines] ++
    pipelines.map (outputPlan lib opts pipelines)

theorem addServicePipelineIf_returns (enabled : Bool) (errText : String) (plan : ServicePlan)
    (s : BuildState) :
    Returns (PlansAdded (if enabled then [plan] else []) s)
      (addServicePipelineIf enabled errText plan s) := by
  cases enabled with
  | true => exact .mapErr _ (addServicePipeline_returns plan s)
  | false => exact .pure (.refl s)

theorem build_returns :
    Returns (PlansAdded (servicePlans lib opts (sortPipelinesByName pipelines)) ⟨newConfig, ∅⟩)
      (build lib opts pipelines) := by
  refine .bind (addServicePipelineIf_returns _ _ _ _) fun t ht => ?_
  refine .bind (addServicePipelineIf_returns _ _ _ t) fun u hu => ?_
  refine .bind (addServicePipelineIf_returns _ _ _ u) fun v hv => ?_
  refine .bind (.mapErr _ (addServicePipeline_returns _ v)) fun w hw => ?_
  refine (Gateway.addPipelines_returns
    (fun _ s => Gateway.addPipeline_returns _ _ _ _ s) _ w).mono fun x hx => ?_
  exact (PlansAdded.extension _ _ _ _).trans ((((ht.trans hu).trans hv).trans hw).trans hx)

end Plans

end TelemetryManager.MetricAgent
