import Mathlib.Data.List.Sort
import TelemetryManager.ComponentBuilder
import TelemetryManager.ProcessorBuilders

/-! The configuration of the OTLP gateway.
Trace and log pipelines are one service pipeline each. Metric pipelines share two input service
pipelines and one for enrichment, and have an output service pipeline each. The builders of the
three signals fill one configuration in turn. -/
namespace TelemetryManager.Gateway

open Collector Interaction OtlpExporter

structure BuildOptions where
  logPipelines : List LogPipeline := []
  tracePipelines : List TracePipeline := []
  metricPipelines : List MetricPipeline := []
  cluster : ClusterOptions := {}
  enrichments : Option EnrichmentSpec := none
  serviceEnrichment : String := ""
  moduleVersion : String := ""
  gatewayNamespace : String := ""

def annotationValueTelemetryServiceEnrichmentOtel : String := "otel"

def batchingMaxQueueSize : Nat := 256

def sortPipelinesByName (opts : BuildOptions) : BuildOptions :=
  { opts with
    logPipelines := opts.logPipelines.insertionSort fun a b => a.name ≤ b.name
    tracePipelines := opts.tracePipelines.insertionSort fun a b => a.name ≤ b.name
    metricPipelines := opts.metricPipelines.insertionSort fun a b => a.name ≤ b.name }

/-! ## Components shared by the signals

The source has one copy of these functions for each signal, which differ in nothing but the type
of the pipeline they ignore. -/

def otlpReceiverConfig : ReceiverConfig :=
  .otlp (Placeholder.ref envVarCurrentPodIP ++ ":4318")
    (Placeholder.ref envVarCurrentPodIP ++ ":4317")

def memoryLimiterConfig : ProcessorConfig := .memoryLimiter "1s" 75 15

def useOTelServiceEnrichment (opts : BuildOptions) : Bool :=
  opts.serviceEnrichment = annotationValueTelemetryServiceEnrichmentOtel

def k8sAttributesProcessorConfig (opts : BuildOptions) : ProcessorConfig :=
  .k8sAttributes (k8sAttributesProcessor opts.enrichments (useOTelServiceEnrichment opts))

def serviceEnrichmentProcessorConfig (opts : BuildOptions) : Option ProcessorConfig :=
  if useOTelServiceEnrichment opts then none else some resolveServiceName

def istioNoiseFilterProcessorConfig : ProcessorConfig := .istioNoiseFilter

def otelOnly (opts : BuildOptions) (config : ProcessorConfig) : Option ProcessorConfig :=
  if useOTelServiceEnrichment opts then some config else none

def addOTLPReceiver : Component := .receiver componentIDOTLPReceiver (some otlpReceiverConfig)

def addMemoryLimiterProcessor : Component :=
  .processor componentIDMemoryLimiterProcessor (some memoryLimiterConfig)

def addDropUnknownServiceNameProcessor (opts : BuildOptions) : Component :=
  .processor componentIDDropUnknownServiceNameProcessor
    (otelOnly opts (allSignalsTransformProcessor dropUnknownServiceNameProcessorStatements))

def addK8sAttributesProcessor (opts : BuildOptions) : Component :=
  .processor componentIDK8sAttributesProcessor (some (k8sAttributesProcessorConfig opts))

def addRestoreOtelServiceAttrsProcessor (opts : BuildOptions) : Component :=
  .processor componentIDRestoreOtelServiceAttrsProcessor
    (otelOnly opts (allSignalsTransformProcessor restoreOtelServiceAnnotationsProcessorStatements))

def addIstioNoiseFilterProcessor : Component :=
  .processor componentIDIstioNoiseFilterProcessor (some istioNoiseFilterProcessorConfig)

def addInsertClusterAttributesProcessor (opts : BuildOptions) : Component :=
  .processor componentIDInsertClusterAttributesProcessor
    (some (allSignalsTransformProcessor
      (insertClusterAttributesProcessorStatements opts.cluster)))

def addServiceEnrichmentProcessor (opts : BuildOptions) : Component :=
  .processor componentIDServiceEnrichmentProcessor (serviceEnrichmentProcessorConfig opts)

def addDropKymaAttributesProcessor : Component :=
  .processor componentIDDropKymaAttributesProcessor
    (some (allSignalsTransformProcessor dropKymaAttributesProcessorStatements))

def addUserDefinedTransformProcessor (r : PipelineRef)
    (processor : List TransformProcessorStatements → ProcessorConfig)
    (transforms : List TransformSpec) : Component :=
  .processor (componentIDUserDefinedTransformProcessor r)
    (if transforms = [] then none
      else some (processor (transformSpecsToProcessorStatements transforms)))

def addUserDefinedFilterProcessor (r : PipelineRef)
    (processor : List FilterSpec → ProcessorConfig) (filters : Option (List FilterSpec)) :
    Component :=
  .processor (componentIDUserDefinedFilterProcessor r) (filters.map processor)

def addBatchProcessor (size : Nat) : Component :=
  .processor componentIDBatchProcessor (some (.batch size "10s" size))

def addOTLPExporter (lib : ExporterLib) (r : PipelineRef) (output : OTLPOutput) (queueSize : Nat) :
    Component :=
  .exporter (componentIDOTLPExporter output.protocol r)
    (otlpExporterWithEnvVars lib r output (newSendingQueue queueSize))

def shouldFilterByNamespace (selector : Option NamespaceSelector) : Bool :=
  selector.any fun selector => selector.include ≠ [] || selector.exclude ≠ []

def namespacesConditions (namespaces : List String) : List String :=
  namespaces.map Ottl.namespaceEquals

/-- The namespace selector of an OTLP input that is enabled and selects namespaces. -/
def namespaceFilterOf (input : Option OTLPInput) : Option NamespaceSelector :=
  match input with
  | none => none
  | some otlpInput =>
    if SharedTypes.isOTLPInputEnabled (some otlpInput) &&
        shouldFilterByNamespace otlpInput.namespaces then
      otlpInput.namespaces
    else none

section Trace

variable (lib : ExporterLib) (opts : BuildOptions)

def addDropIstioServiceEnrichmentProcessor : Component :=
  .processor componentIDDropIstioServiceEnrichmentProcessor
    (otelOnly opts (traceTransformProcessor
      [{ statements := ["delete_matching_keys(resource.attributes, \"service.*\") where " ++
          "span.attributes[\"component\"] == \"proxy\""] }]))

def addTraceUserDefinedTransformProcessor (tp : TracePipeline) : Component :=
  addUserDefinedTransformProcessor (tracePipelineRef tp) traceTransformProcessor tp.transforms

def addTraceUserDefinedFilterProcessor (tp : TracePipeline) : Component :=
  addUserDefinedFilterProcessor (tracePipelineRef tp) traceFilterProcessor tp.filters

def addTraceBatchProcessor : Component := addBatchProcessor 512

def addTraceOTLPExporter (queueSize : Nat) (tp : TracePipeline) : Component :=
  addOTLPExporter lib (tracePipelineRef tp) tp.output queueSize

def formatTraceServicePipelineID (tp : TracePipeline) : String := "traces/" ++ tp.name

def tracePlan (queueSize : Nat) (tp : TracePipeline) : ServicePlan where
  id := formatTraceServicePipelineID tp
  components :=
    [addOTLPReceiver,
     addMemoryLimiterProcessor,
     addDropIstioServiceEnrichmentProcessor opts,
     addDropUnknownServiceNameProcessor opts,
     addK8sAttributesProcessor opts,
     addRestoreOtelServiceAttrsProcessor opts,
     addIstioNoiseFilterProcessor,
     addInsertClusterAttributesProcessor opts,
     addServiceEnrichmentProcessor opts,
     addDropKymaAttributesProcessor,
     addTraceUserDefinedTransformProcessor tp,
     addTraceUserDefinedFilterProcessor tp,
     addTraceBatchProcessor,
     addTraceOTLPExporter lib queueSize tp]

end Trace

section Log

variable (lib : ExporterLib) (opts : BuildOptions)

def addSetObsTimeIfZeroProcessor : Component :=
  .processor componentIDSetObservedTimeIfZeroProcessor
    (some (logTransformProcessor
      [{ conditions := ["log.observed_time_unix_nano == 0"]
         statements := ["set(log.observed_time, Now())"] }]))

/-- Drops every log record: one of the two times is set in any record. -/
def dropIfInputSourceOTLPProcessor : ProcessorConfig :=
  logFilterProcessor
    [⟨[Ottl.joinWithOr [Ottl.isNotNil "log.observed_time", Ottl.isNotNil "log.time"]]⟩]

def addDropIfInputSourceOTLPProcessor (lp : LogPipeline) : Component :=
  .processor componentIDDropIfInputSourceOTLPProcessor
    (if SharedTypes.isOTLPInputEnabled lp.input.otlp then none
      else some dropIfInputSourceOTLPProcessor)

def namespaceFilterProcessor (selector : NamespaceSelector) : ProcessorConfig :=
  logFilterProcessor
    [⟨(if selector.exclude ≠ [] then [Ottl.joinWithOr (namespacesConditions selector.exclude)]
        else []) ++
      (if selector.include ≠ [] then
        [Ottl.joinWithAnd [Ottl.resourceAttributeIsNotNil Ottl.k8sNamespaceName,
          Ottl.not (Ottl.joinWithOr (namespacesConditions selector.include))]]
        else [])⟩]

def addNamespaceFilterProcessor (lp : LogPipeline) : Component :=
  .processor (componentIDNamespaceFilterProcessor lp.name)
    ((namespaceFilterOf lp.input.otlp).map namespaceFilterProcessor)

def addLogIstioAccessLogsEnrichmentProcessor : Component :=
  .processor componentIDIstioEnrichmentProcessor (some (.istioEnrichment opts.moduleVersion))

def addLogUserDefinedTransformProcessor (lp : LogPipeline) : Component :=
  addUserDefinedTransformProcessor (logPipelineRef lp) logTransformProcessor lp.transforms

def addLogUserDefinedFilterProcessor (lp : LogPipeline) : Component :=
  addUserDefinedFilterProcessor (logPipelineRef lp) logFilterProcessor lp.filters

def addLogBatchProcessor : Component := addBatchProcessor 512

def formatLogServicePipelineID (lp : LogPipeline) : String := "logs/" ++ lp.name

/-- The OTLP output of a log pipeline, `nil` in pipelines of Fluent Bit. -/
def addLogOTLPExporter (queueSize : Nat) (lp : LogPipeline) : Component :=
  match lp.output.otlp with
  | some output => addOTLPExporter lib (logPipelineRef lp) output queueSize
  | none => .nilDereference

def logPlan (queueSize : Nat) (lp : LogPipeline) : ServicePlan where
  id := formatLogServicePipelineID lp
  components :=
    [addOTLPReceiver,
     addMemoryLimiterProcessor,
     addSetObsTimeIfZeroProcessor,
     addDropUnknownServiceNameProcessor opts,
     addK8sAttributesProcessor opts,
     addRestoreOtelServiceAttrsProcessor opts,
     addIstioNoiseFilterProcessor,
     addDropIfInputSourceOTLPProcessor lp,
     addNamespaceFilterProcessor lp,
     addInsertClusterAttributesProcessor opts,
     addServiceEnrichmentProcessor opts,
     addDropKymaAttributesProcessor,
     addLogIstioAccessLogsEnrichmentProcessor opts,
     addLogUserDefinedTransformProcessor lp,
     addLogUserDefinedFilterProcessor lp,
     addLogBatchProcessor,
     addLogOTLPExporter lib queueSize lp]

end Log

section Metric

variable (lib : ExporterLib) (opts : BuildOptions)

def addMetricKymaStatsReceiver : Component :=
  .receiver componentIDKymaStatsReceiver
    (some (.kymaStats "serviceAccount" "30s"
      [⟨"operator.kyma-project.io", "v1beta1", "telemetries"⟩,
       ⟨"telemetry.kyma-project.io", "v1beta1", "logpipelines"⟩,
       ⟨"telemetry.kyma-project.io", "v1beta1", "tracepipelines"⟩,
       ⟨"telemetry.kyma-project.io", "v1beta1", "metricpipelines"⟩]
      "k8s_leader_elector"))

def addMetricSetKymaInputNameProcessor (id : String) (inputSource : InputSourceType) : Component :=
  .processor id (some (metricTransformProcessor (kymaInputNameProcessorStatements inputSource)))

def addMetricExporterForInputForwarder : Component :=
  .exportingConnector componentIDInputConnector (some .forward)

def addMetricReceiverForInputForwarder : Component :=
  .receivingConnector componentIDInputConnector (some .forward)

def addMetricExporterForEnrichmentForwarder : Component :=
  .exportingConnector componentIDEnrichmentConnector (some .forward)

def addMetricReceiverForEnrichmentForwarder : Component :=
  .receivingConnector componentIDEnrichmentConnector (some .forward)

def addMetricSetInstrumentationScopeToKymaProcessor : Component :=
  .processor componentIDSetInstrumentationScopeKymaProcessor
    (some (instrumentationScopeProcessor opts.moduleVersion [.kyma]))

def metricInputOTLPPlan : ServicePlan where
  id := "metrics/input-otlp"
  components :=
    [addOTLPReceiver,
     addMetricSetKymaInputNameProcessor componentIDSetKymaInputNameOTLPProcessor .otlp,
     addMetricExporterForInputForwarder]

def metricInputKymaStatsPlan : ServicePlan where
  id := "metrics/input-kyma-stats"
  components :=
    [addMetricKymaStatsReceiver,
     addMetricSetKymaInputNameProcessor componentIDSetKymaInputNameKymaProcessor .kyma,
     addMetricExporterForInputForwarder]

def metricEnrichmentPlan : ServicePlan where
  id := "metrics/enrichment"
  components :=
    [addMetricReceiverForInputForwarder,
     addMemoryLimiterProcessor,
     addMetricSetInstrumentationScopeToKymaProcessor opts,
     addDropUnknownServiceNameProcessor opts,
     addK8sAttributesProcessor opts,
     addRestoreOtelServiceAttrsProcessor opts,
     addServiceEnrichmentProcessor opts,
     addInsertClusterAttributesProcessor opts,
     addMetricExporterForEnrichmentForwarder]

def addMetricDropOTLPIfInputDisabledProcessor (mp : MetricPipeline) : Component :=
  .processor componentIDDropIfInputSourceOTLPProcessor
    (if SharedTypes.isOTLPInputEnabled mp.input.otlp then none
      else some (metricFilterProcessor [⟨[Ottl.kymaInputNameEquals .otlp]⟩]))

def metricFilterByNamespaceProcessorConfig (selector : NamespaceSelector) : ProcessorConfig :=
  let notFromKymaStatsReceiver := Ottl.not (Ottl.kymaInputNameEquals .kyma)
  metricFilterProcessor
    [⟨(if selector.exclude ≠ [] then
        [Ottl.joinWithAnd [notFromKymaStatsReceiver,
          Ottl.joinWithOr (namespacesConditions selector.exclude)]]
        else []) ++
      (if selector.include ≠ [] then
        [Ottl.joinWithAnd [notFromKymaStatsReceiver,
          Ottl.resourceAttributeIsNotNil Ottl.k8sNamespaceName,
          Ottl.not (Ottl.joinWithOr (namespacesConditions selector.include))]]
        else [])⟩]

def addMetricOTLPNamespaceFilterProcessor (mp : MetricPipeline) : Component :=
  .processor (componentIDNamespacePerInputFilterProcessor mp.name .otlp)
    ((namespaceFilterOf mp.input.otlp).map metricFilterByNamespaceProcessorConfig)

/-- The temporality is dereferenced; admission defaults it. -/
def addMetricCumulativeToDeltaProcessor (mp : MetricPipeline) : Component :=
  match mp.temporality with
  | some .delta => .processor componentIDCumulativeToDeltaProcessor
      (some (.cumulativeToDelta 0 "auto"))
  | some .preserve => .processor componentIDCumulativeToDeltaProcessor none
  | none => .nilDereference

def addMetricUserDefinedTransformProcessor (mp : MetricPipeline) : Component :=
  addUserDefinedTransformProcessor (metricPipelineRef mp) metricTransformProcessor mp.transforms

def addMetricUserDefinedFilterProcessor (mp : MetricPipeline) : Component :=
  addUserDefinedFilterProcessor (metricPipelineRef mp) metricFilterProcessor mp.filters

def addMetricBatchProcessor : Component := addBatchProcessor 1024

def addMetricOTLPExporter (queueSize : Nat) (mp : MetricPipeline) : Component :=
  addOTLPExporter lib (metricPipelineRef mp) mp.output queueSize

def formatMetricOutputServicePipelineID (mp : MetricPipeline) : String :=
  "metrics/" ++ mp.name ++ "-output"

def metricOutputPlan (queueSize : Nat) (mp : MetricPipeline) : ServicePlan where
  id := formatMetricOutputServicePipelineID mp
  components :=
    [addMetricReceiverForEnrichmentForwarder,
     addMetricDropOTLPIfInputDisabledProcessor mp,
     addMetricOTLPNamespaceFilterProcessor mp,
     addDropKymaAttributesProcessor,
     addMetricUserDefinedTransformProcessor mp,
     addMetricUserDefinedFilterProcessor mp,
     addMetricCumulativeToDeltaProcessor mp,
     addMetricBatchProcessor,
     addMetricOTLPExporter lib queueSize mp]

end Metric

section Build

variable (lib : ExporterLib)

def addOAuth2Extension (r : PipelineRef) (auth : Option AuthenticationOptions) (s : BuildState) :
    Client BuildState :=
  match auth.bind (·.oauth2) with
  | none => pure s
  | some oauth2 => do
    let (config, envVars) ←
      mapErr (wrapf ("failed to build OAuth2 extension for pipeline " ++ r.name ++ ": "))
        (oauth2ExtensionWithEnvVars r oauth2)
    pure (addExtension (componentIDOAuth2Extension r) config envVars s)

def addPipeline (errText : String) (r : PipelineRef) (auth : Option AuthenticationOptions)
    (plan : ServicePlan) (s : BuildState) : Client BuildState := do
  let s ← addOAuth2Extension r auth s
  mapErr (wrapf errText) (addServicePipeline plan s)

def addPipelines {α : Type} (add : α → BuildState → Client BuildState) :
    List α → BuildState → Client BuildState
  | [], s => pure s
  | pipeline :: pipelines, s => do
    let s ← add pipeline s
    addPipelines add pipelines s

def buildTracePipelines (opts : BuildOptions) (s : BuildState) : Client BuildState :=
  let queueSize := batchingMaxQueueSize / opts.tracePipelines.length
  addPipelines (fun tp => addPipeline "failed to add trace service pipeline: "
    (tracePipelineRef tp) tp.output.authentication (tracePlan lib opts queueSize tp))
    opts.tracePipelines s

def buildLogPipelines (opts : BuildOptions) (s : BuildState) : Client BuildState :=
  let queueSize := batchingMaxQueueSize / opts.logPipelines.length
  addPipelines (fun lp s =>
    match lp.output.otlp with
    | none => throw (.panic "invalid memory address or nil pointer dereference")
    | some output => addPipeline "failed to add log service pipeline: "
        (logPipelineRef lp) output.authentication (logPlan lib opts queueSize lp) s)
    opts.logPipelines s

def buildMetricPipelines (opts : BuildOptions) (s : BuildState) : Client BuildState :=
  if opts.metricPipelines = [] then pure s
  else do
    let queueSize := batchingMaxQueueSize / opts.metricPipelines.length
    let s := addExtension componentIDK8sLeaderElectorExtension
      (.k8sLeaderElector "serviceAccount" "telemetry-metric-gateway-kymastats"
        opts.gatewayNamespace) ∅ s
    let s ← mapErr (wrapf "failed to add metric input-otlp service pipeline: ")
      (addServicePipeline metricInputOTLPPlan s)
    let s ← mapErr (wrapf "failed to add metric input-kyma-stats service pipeline: ")
      (addServicePipeline metricInputKymaStatsPlan s)
    let s ← mapErr (wrapf "failed to add metric enrichment service pipeline: ")
      (addServicePipeline (metricEnrichmentPlan opts) s)
    addPipelines (fun mp => addPipeline "failed to add metric output service pipeline: "
      (metricPipelineRef mp) mp.output.authentication (metricOutputPlan lib queueSize mp))
      opts.metricPipelines s

def build (opts : BuildOptions) : Client BuildState := do
  let opts := sortPipelinesByName opts
  let s ← buildTracePipelines lib opts ⟨newConfig, ∅⟩
  let s ← buildLogPipelines lib opts s
  buildMetricPipelines lib opts s

end Build

section Plans

variable (lib : ExporterLib) (opts : BuildOptions)

def tracePlans : List ServicePlan :=
  opts.tracePipelines.map
    (tracePlan lib opts (batchingMaxQueueSize / opts.tracePipelines.length))

def logPlans : List ServicePlan :=
  opts.logPipelines.map (logPlan lib opts (batchingMaxQueueSize / opts.logPipelines.length))

def metricPlans : List ServicePlan :=
  if opts.metricPipelines = [] then []
  else [metricInputOTLPPlan, metricInputKymaStatsPlan, metricEnrichmentPlan opts] ++
    opts.metricPipelines.map
      (metricOutputPlan lib (batchingMaxQueueSize / opts.metricPipelines.length))

def servicePlans : List ServicePlan := tracePlans lib opts ++ logPlans lib opts ++
  metricPlans lib opts

theorem addPipeline_returns (errText : String) (r : PipelineRef)
    (auth : Option AuthenticationOptions) (plan : ServicePlan) (s : BuildState) :
    Returns (PlansAdded [plan] s) (addPipeline errText r auth plan s) := by
  have hextension : Returns (PlansAdded [] s) (addOAuth2Extension r auth s) := by
    unfold addOAuth2Extension
    cases auth.bind (·.oauth2) with
    | none => exact .pure (.refl s)
    | some oauth2 => exact .bind (.true _) fun _ _ => .pure (.extension _ _ _ s)
  refine .bind hextension fun t ht => ?_
  exact .mapErr _ ((addServicePipeline_returns plan t).mono fun u hu => ht.trans hu)

theorem addPipelines_returns {α : Type} {add : α → BuildState → Client BuildState}
    {plan : α → ServicePlan} (h : ∀ a s, Returns (PlansAdded [plan a] s) (add a s)) :
    ∀ (pipelines : List α) (s : BuildState),
      Returns (PlansAdded (pipelines.map plan) s) (addPipelines add pipelines s)
  | [], s => .pure (.refl s)
  | a :: pipelines, s =>
    .bind (h a s) fun t ht => (addPipelines_returns h pipelines t).mono fun _ hu => ht.trans hu

theorem buildTracePipelines_returns (s : BuildState) :
    Returns (PlansAdded (tracePlans lib opts) s) (buildTracePipelines lib opts s) :=
  addPipelines_returns (fun _ s => addPipeline_returns _ _ _ _ s) _ s

theorem buildLogPipelines_returns (s : BuildState) :
    Returns (PlansAdded (logPlans lib opts) s) (buildLogPipelines lib opts s) := by
  refine addPipelines_returns (fun lp s => ?_) _ s
  cases lp.output.otlp with
  | none => exact .throw _
  | some output => exact addPipeline_returns _ _ _ _ s

theorem buildMetricPipelines_returns (s : BuildState) :
    Returns (PlansAdded (metricPlans lib opts) s) (buildMetricPipelines lib opts s) := by
  unfold buildMetricPipelines metricPlans
  by_cases hempty : opts.metricPipelines = []
  · rw [if_pos hempty, if_pos hempty]
    exact .pure (.refl s)
  · rw [if_neg hempty, if_neg hempty]
    have hstep : ∀ errText plan s, Returns (PlansAdded [plan] s)
        (mapErr (wrapf errText) (addServicePipeline plan s)) :=
      fun _ plan s => .mapErr _ (addServicePipeline_returns plan s)
    refine .bind (hstep _ _ _) fun t ht => .bind (hstep _ _ t) fun u hu =>
      .bind (hstep _ _ u) fun v hv => ?_
    refine (addPipelines_returns (fun _ s => addPipeline_returns _ _ _ _ s) _ v).mono
      fun w hw => ?_
    exact (PlansAdded.extension _ _ _ s).trans (((ht.trans hu).trans hv).trans hw)

theorem build_returns :
    Returns (PlansAdded (servicePlans lib (sortPipelinesByName opts)) ⟨newConfig, ∅⟩)
      (build lib opts) := by
  refine .bind (buildTracePipelines_returns lib _ _) fun t ht => ?_
  refine .bind (buildLogPipelines_returns lib _ t) fun u hu => ?_
  exact (buildMetricPipelines_returns lib _ u).mono fun v hv => (ht.trans hu).trans hv

end Plans

/-! ## A library and an output to build with

The endpoint is a plain value, so that no object of the cluster is read. -/

def sampleExporterLib : ExporterLib where
  parse := fun _ => .error "missing path"
  urlString := fun u _ => u.path
  pathJoin := fun base path => base ++ path
  base64 := id

def noObjects (r : ApiReq) : ApiResp r := .error .notFound

def sampleOutput : OTLPOutput where
  endpoint := { value := "https://backend:4317" }

end TelemetryManager.Gateway
