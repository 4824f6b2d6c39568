import TelemetryManager.GatewayProcessors
import TelemetryManager.ServiceGraph

/-! The structure of a gateway configuration: what its service pipelines refer to, and which
processors data passes on its way to a backend. -/
namespace TelemetryManager.Gateway

open Collector Interaction OtlpExporter

/-! ## The plan of a pipeline -/

def otlpOutput : OTLPPipeline → Option OTLPOutput
  | .trace tp => some tp.output
  | .log lp => lp.output.otlp
  | .metric mp => some mp.output

def exporterID (p : OTLPPipeline) : Option String :=
  (otlpOutput p).map fun output => componentIDOTLPExporter output.protocol (pipelineRef p)

section Plans

variable (lib : ExporterLib) (opts : BuildOptions)

def pipelinePlan : OTLPPipeline → ServicePlan
  | .trace tp => tracePlan lib opts (batchingMaxQueueSize / opts.tracePipelines.length) tp
  | .log lp => logPlan lib opts (batchingMaxQueueSize / opts.logPipelines.length) lp
  | .metric mp => metricOutputPlan lib (batchingMaxQueueSize / opts.metricPipelines.length) mp

def metricInputPlans : List ServicePlan := [metricInputOTLPPlan, metricInputKymaStatsPlan]

variable {plan : ServicePlan}

variable {lib opts}

theorem mem_servicePlans_iff :
    plan ∈ servicePlans lib opts ↔
      (opts.metricPipelines ≠ [] ∧ (plan ∈ metricInputPlans ∨ plan = metricEnrichmentPlan opts)) ∨
      ∃ p ∈ opts.pipelines, plan = pipelinePlan lib opts p := by
  have hmetrics : plan ∈ metricPlans lib opts ↔
      (opts.metricPipelines ≠ [] ∧ (plan ∈ metricInputPlans ∨ plan = metricEnrichmentPlan opts)) ∨
      ∃ mp ∈ opts.metricPipelines, plan = pipelinePlan lib opts (.metric mp) := by
    unfold metricPlans
    by_cases hempty : opts.metricPipelines = []
    · simp [hempty]
    · rw [if_neg hempty]
      simp only [metricInputPlans, List.mem_append, List.mem_cons,
        List.not_mem_nil, or_false, List.mem_map, ne_eq, hempty, not_false_iff, true_and, or_assoc,
        pipelinePlan, eq_comm]
  simp only [servicePlans, List.mem_append, hmetrics, tracePlans, logPlans, List.mem_map,
    BuildOptions.pipelines]
  constructor
  · rintro ((⟨tp, htp, rfl⟩ | ⟨lp, hlp, rfl⟩) | hstage | ⟨mp, hmp, rfl⟩)
    · exact .inr ⟨.trace tp, .inl (.inl ⟨tp, htp, rfl⟩), rfl⟩
    · exact .inr ⟨.log lp, .inl (.inr ⟨lp, hlp, rfl⟩), rfl⟩
    · exact .inl hstage
    · exact .inr ⟨.metric mp, .inr ⟨mp, hmp, rfl⟩, rfl⟩
  · rintro (hstage | ⟨p, (⟨tp, htp, rfl⟩ | ⟨lp, hlp, rfl⟩) | ⟨mp, hmp, rfl⟩, rfl⟩)
    · exact .inr (.inl hstage)
    · exact .inl (.inl ⟨tp, htp, rfl⟩)
    · exact .inl (.inr ⟨lp, hlp, rfl⟩)
    · exact .inr (.inr ⟨mp, hmp, rfl⟩)

theorem pipelinePlan_mem {p : OTLPPipeline} (hp : p ∈ opts.pipelines) :
    pipelinePlan lib opts p ∈ servicePlans lib opts :=
  mem_servicePlans_iff.mpr (.inr ⟨p, hp, rfl⟩)

variable (lib opts)

def pipelineSource : OTLPPipeline → String
  | .trace _ | .log _ => componentIDOTLPReceiver
  | .metric _ => componentIDEnrichmentConnector

theorem pipelinePlan_ends (p : OTLPPipeline) :
    (pipelinePlan lib opts p).servicePipeline.receivers = [pipelineSource p] ∧
      (pipelinePlan lib opts p).servicePipeline.exporters = (exporterID p).toList := by
  rw [ServicePlan.servicePipeline_receivers, ServicePlan.servicePipeline_exporters]
  cases p with
  | trace tp => exact ⟨rfl, rfl⟩
  | log lp =>
    simp only [pipelinePlan, logPlan, addLogOTLPExporter, exporterID, otlpOutput]
    cases lp.output.otlp <;> exact ⟨rfl, rfl⟩
  | metric mp =>
    rcases htemporality : mp.temporality with _ | (_ | _)
    all_goals
      simp only [pipelinePlan, metricOutputPlan, addMetricCumulativeToDeltaProcessor, htemporality]
      exact ⟨rfl, rfl⟩

theorem pipelinePlan_receivers (p : OTLPPipeline) :
    (pipelinePlan lib opts p).servicePipeline.receivers = [pipelineSource p] :=
  (pipelinePlan_ends lib opts p).1

theorem pipelinePlan_exporters (p : OTLPPipeline) :
    (pipelinePlan lib opts p).servicePipeline.exporters = (exporterID p).toList :=
  (pipelinePlan_ends lib opts p).2

theorem mem_metricInputPlans :
    plan ∈ metricInputPlans ↔ plan = metricInputOTLPPlan ∨ plan = metricInputKymaStatsPlan := by
  simp [metricInputPlans]

theorem metricInputPlan_receivers (hplan : plan ∈ metricInputPlans) :
    plan.servicePipeline.receivers = [componentIDOTLPReceiver] ∨
      plan.servicePipeline.receivers = [componentIDKymaStatsReceiver] := by
  rw [ServicePlan.servicePipeline_receivers]
  rcases mem_metricInputPlans.mp hplan with rfl | rfl
  · exact .inl rfl
  · exact .inr rfl

theorem metricInputPlan_exporters (hplan : plan ∈ metricInputPlans) :
    plan.servicePipeline.exporters = [componentIDInputConnector] := by
  rw [ServicePlan.servicePipeline_exporters]
  rcases mem_metricInputPlans.mp hplan with rfl | rfl <;> rfl

theorem metricEnrichmentPlan_receivers :
    (metricEnrichmentPlan opts).servicePipeline.receivers = [componentIDInputConnector] := by
  rw [ServicePlan.servicePipeline_receivers]
  rfl

theorem metricEnrichmentPlan_exporters :
    (metricEnrichmentPlan opts).servicePipeline.exporters = [componentIDEnrichmentConnector] := by
  rw [ServicePlan.servicePipeline_exporters]
  rfl

/-! ## Connectors -/

theorem isConnector_input : isConnector componentIDInputConnector := by decide

theorem isConnector_enrichment : isConnector componentIDEnrichmentConnector := by decide

theorem isConnector_otlp : isConnector componentIDOTLPReceiver = false := by decide

theorem isConnector_kymaStats : isConnector componentIDKymaStatsReceiver = false := by decide

theorem isConnector_otlpExporter (protocol : OTLPProtocol) (r : PipelineRef) :
    isConnector (componentIDOTLPExporter protocol r) = false := by
  simp only [isConnector, Text.hasPrefix, componentIDOTLPExporter]
  cases protocol <;> simp only [String.toList_append] <;> rfl

theorem isConnector_exporterID {p : OTLPPipeline} {id : String} (h : exporterID p = some id) :
    isConnector id = false := by
  obtain ⟨output, -, rfl⟩ := Option.map_eq_some_iff.mp h
  exact isConnector_otlpExporter _ _

theorem pipelinePlan_typed (p : OTLPPipeline) :
    ∀ c ∈ (pipelinePlan lib opts p).components, c.Typed := by
  have hexporter := fun output : OTLPOutput =>
    isConnector_otlpExporter output.protocol (pipelineRef p)
  refine List.forall_iff_forall_mem.mp ?_
  cases p with
  | trace tp => and_intros <;> first | trivial | exact isConnector_otlp | exact hexporter _
  | log lp =>
    simp only [pipelinePlan, logPlan, addLogOTLPExporter]
    cases lp.output.otlp <;> and_intros <;>
      first | trivial | exact isConnector_otlp | exact hexporter _
  | metric mp =>
    simp only [pipelinePlan, metricOutputPlan, addMetricCumulativeToDeltaProcessor]
    rcases mp.temporality with _ | (_ | _) <;> and_intros <;>
      first | trivial | exact isConnector_enrichment | exact hexporter _

theorem metricStage_typed (hplan : plan ∈ metricInputPlans ∨ plan = metricEnrichmentPlan opts) :
    ∀ c ∈ plan.components, c.Typed := by
  refine List.forall_iff_forall_mem.mp ?_
  rcases hplan with hinput | rfl
  · rcases mem_metricInputPlans.mp hinput with rfl | rfl
    · exact ⟨isConnector_otlp, trivial, isConnector_input⟩
    · exact ⟨isConnector_kymaStats, trivial, isConnector_input⟩
  · exact ⟨isConnector_input, trivial, trivial, trivial, trivial, trivial, trivial, trivial,
      isConnector_enrichment⟩

theorem exists_exporterID {p : OTLPPipeline}
    (h : Component.nilDereference ∉ (pipelinePlan lib opts p).components) :
    ∃ id, exporterID p = some id := by
  cases p with
  | trace tp | metric mp => exact ⟨_, rfl⟩
  | log lp =>
    cases houtput : lp.output.otlp with
    | some output => exact ⟨_, by rw [exporterID, otlpOutput, houtput]; rfl⟩
    | none => exact absurd (by simp [pipelinePlan, logPlan, addLogOTLPExporter, houtput]) h

/-- Only the metric enrichment and the metric pipelines receive from connectors. -/
theorem receives_connector {id : String} (hplan : plan ∈ servicePlans lib opts)
    (hreceives : id ∈ plan.servicePipeline.receivers) (hid : isConnector id) :
    opts.metricPipelines ≠ [] ∧
      ((plan = metricEnrichmentPlan opts ∧ id = componentIDInputConnector) ∨
        ∃ mp, OTLPPipeline.metric mp ∈ opts.pipelines ∧ plan = pipelinePlan lib opts (.metric mp) ∧
          id = componentIDEnrichmentConnector) := by
  rcases mem_servicePlans_iff.mp hplan with ⟨hmetrics, hinput | rfl⟩ | ⟨p, hp, rfl⟩
  · rcases metricInputPlan_receivers hinput with h | h <;>
      rw [h, List.mem_singleton] at hreceives <;> rw [hreceives] at hid
    · exact absurd hid (by simp [isConnector_otlp])
    · exact absurd hid (by simp [isConnector_kymaStats])
  · rw [metricEnrichmentPlan_receivers, List.mem_singleton] at hreceives
    exact ⟨hmetrics, .inl ⟨rfl, hreceives⟩⟩
  · rw [pipelinePlan_receivers, List.mem_singleton] at hreceives
    cases p with
    | trace tp | log lp =>
      exact absurd (hreceives ▸ hid) (by simp [pipelineSource, isConnector_otlp])
    | metric mp =>
      exact ⟨List.ne_nil_of_mem (metric_mem_pipelines.mp hp), .inr ⟨mp, hp, rfl, hreceives⟩⟩

/-- Only the metric inputs and the metric enrichment export to connectors. -/
theorem exports_connector {id : String} (hplan : plan ∈ servicePlans lib opts)
    (hexports : id ∈ plan.servicePipeline.exporters) (hid : isConnector id) :
    opts.metricPipelines ≠ [] ∧
      ((plan ∈ metricInputPlans ∧ id = componentIDInputConnector) ∨
        (plan = metricEnrichmentPlan opts ∧ id = componentIDEnrichmentConnector)) := by
  rcases mem_servicePlans_iff.mp hplan with ⟨hmetrics, hinput | rfl⟩ | ⟨p, hp, rfl⟩
  · rw [metricInputPlan_exporters hinput, List.mem_singleton] at hexports
    exact ⟨hmetrics, .inl ⟨hinput, hexports⟩⟩
  · rw [metricEnrichmentPlan_exporters, List.mem_singleton] at hexports
    exact ⟨hmetrics, .inr ⟨rfl, hexports⟩⟩
  · rw [pipelinePlan_exporters, Option.mem_toList] at hexports
    rw [isConnector_exporterID hexports] at hid
    cases hid

theorem servicePlans_coherent
    (hderef : ∀ plan ∈ servicePlans lib opts, Component.nilDereference ∉ plan.components) :
    CoherentPlans (servicePlans lib opts) where
  typed := by
    intro plan hplan
    rcases mem_servicePlans_iff.mp hplan with ⟨-, hstage⟩ | ⟨p, -, rfl⟩
    · exact metricStage_typed opts hstage
    · exact pipelinePlan_typed lib opts p
  connected := by
    intro id hid
    have hstage : ∀ plan, opts.metricPipelines ≠ [] →
        plan ∈ metricInputPlans ∨ plan = metricEnrichmentPlan opts → plan ∈ servicePlans lib opts :=
      fun plan hmetrics h => mem_servicePlans_iff.mpr (.inl ⟨hmetrics, h⟩)
    constructor
    · rintro ⟨plan, hplan, hreceives⟩
      obtain ⟨hmetrics, ⟨-, rfl⟩ | ⟨mp, -, -, rfl⟩⟩ :=
        receives_connector lib opts hplan hreceives hid
      · have hinput : metricInputOTLPPlan ∈ metricInputPlans := List.mem_cons_self
        exact ⟨_, hstage _ hmetrics (.inl hinput), by simp [metricInputPlan_exporters hinput]⟩
      · exact ⟨_, hstage _ hmetrics (.inr rfl), by simp [metricEnrichmentPlan_exporters]⟩
    · rintro ⟨plan, hplan, hexports⟩
      obtain ⟨hmetrics, ⟨-, rfl⟩ | ⟨-, rfl⟩⟩ := exports_connector lib opts hplan hexports hid
      · exact ⟨_, hstage _ hmetrics (.inr rfl), by simp [metricEnrichmentPlan_receivers]⟩
      · obtain ⟨mp, hmp⟩ := List.exists_mem_of_ne_nil _ hmetrics
        exact ⟨_, pipelinePlan_mem (metric_mem_pipelines.mpr hmp),
          by simp [pipelinePlan_receivers, pipelineSource]⟩
  nonempty := by
    intro plan hplan
    rcases mem_servicePlans_iff.mp hplan with ⟨-, hinput | rfl⟩ | ⟨p, -, rfl⟩
    · rw [metricInputPlan_exporters hinput]
      rcases metricInputPlan_receivers hinput with h | h <;> simp [h]
    · simp [metricEnrichmentPlan_receivers, metricEnrichmentPlan_exporters]
    · obtain ⟨id, hid⟩ := exists_exporterID lib opts (hderef _ hplan)
      simp [pipelinePlan_receivers, pipelinePlan_exporters, hid]

end Plans

/-! ## Owners of service pipelines -/

theorem qualifiedName_injective {r r' : PipelineRef} (h : r.qualifiedName = r'.qualifiedName) :
    r = r' := by
  obtain ⟨name, signal⟩ := r
  obtain ⟨name', signal'⟩ := r'
  have hfirst := congrArg (fun s : String => s.toList.take 1) h
  have hsignal : signal = signal' := by
    revert hfirst
    cases signal <;> cases signal' <;>
      simp [PipelineRef.qualifiedName, PipelineRef.typePrefix, SignalType.text,
        String.toList_append]
  subst hsignal
  have hname : name = name' := (String.append_right_inj _).mp h
  rw [hname]

theorem componentIDOTLPExporter_injective {protocol protocol' : OTLPProtocol} {r r' : PipelineRef}
    (h : componentIDOTLPExporter protocol r = componentIDOTLPExporter protocol' r') : r = r' := by
  have hsixth := congrArg (fun s : String => s.toList.take 6) h
  cases protocol <;> cases protocol' <;>
    simp only [componentIDOTLPExporter] at h hsixth
  · exact qualifiedName_injective ((String.append_right_inj _).mp h)
  · simp [String.toList_append] at hsixth
  · simp [String.toList_append] at hsixth
  · exact qualifiedName_injective ((String.append_right_inj _).mp h)

theorem exporterID_injective {p q : OTLPPipeline} {id : String} (hp : exporterID p = some id)
    (hq : exporterID q = some id) : pipelineRef p = pipelineRef q := by
  obtain ⟨output, -, rfl⟩ := Option.map_eq_some_iff.mp hp
  obtain ⟨output', -, h⟩ := Option.map_eq_some_iff.mp hq
  exact (componentIDOTLPExporter_injective h).symm

/-- The pipeline owns one service pipeline, whose only exporter is the one of the pipeline. -/
def Owns (config : Config) (p : OTLPPipeline) : Prop :=
  ∃ exporter, exporterID p = some exporter ∧
    ∃! k, ∃ sp, config.pipelines.lookup k = some sp ∧ sp.exporters = [exporter]

/-! ## Processors of a service pipeline -/

def processorIDs (components : List Component) : List String :=
  (components.filterMap Component.processorEntry).map Prod.fst

theorem servicePipeline_processorIDs (plan : ServicePlan) :
    plan.servicePipeline.processors = processorIDs plan.components :=
  plan.servicePipeline_processors

theorem processorIDs_append (components components' : List Component) :
    processorIDs (components ++ components') =
      processorIDs components ++ processorIDs components' := by
  simp [processorIDs]

section Order

variable (opts : BuildOptions)

def earlyComponents : OTLPPipeline → List Component
  | .trace _ =>
    [addDropIstioServiceEnrichmentProcessor opts, addDropUnknownServiceNameProcessor opts,
     addK8sAttributesProcessor opts, addRestoreOtelServiceAttrsProcessor opts,
     addIstioNoiseFilterProcessor, addInsertClusterAttributesProcessor opts,
     addServiceEnrichmentProcessor opts]
  | .log lp =>
    [addSetObsTimeIfZeroProcessor, addDropUnknownServiceNameProcessor opts,
     addK8sAttributesProcessor opts, addRestoreOtelServiceAttrsProcessor opts,
     addIstioNoiseFilterProcessor, addDropIfInputSourceOTLPProcessor lp] ++
    [addNamespaceFilterProcessor lp] ++
    [addInsertClusterAttributesProcessor opts, addServiceEnrichmentProcessor opts]
  | .metric mp =>
    [addMetricDropOTLPIfInputDisabledProcessor mp] ++ [addMetricOTLPNamespaceFilterProcessor mp]

def lateComponents : OTLPPipeline → List Component
  | .trace tp =>
    [addTraceUserDefinedTransformProcessor tp, addTraceUserDefinedFilterProcessor tp,
     addTraceBatchProcessor]
  | .log lp =>
    [addLogIstioAccessLogsEnrichmentProcessor opts, addLogUserDefinedTransformProcessor lp,
     addLogUserDefinedFilterProcessor lp, addLogBatchProcessor]
  | .metric mp =>
    [addMetricUserDefinedTransformProcessor mp, addMetricUserDefinedFilterProcessor mp,
     addMetricCumulativeToDeltaProcessor mp, addMetricBatchProcessor]

def enrichmentComponents : List Component :=
  [addMetricSetInstrumentationScopeToKymaProcessor opts, addDropUnknownServiceNameProcessor opts,
   addK8sAttributesProcessor opts, addRestoreOtelServiceAttrsProcessor opts,
   addServiceEnrichmentProcessor opts, addInsertClusterAttributesProcessor opts]

/-- Trace and log pipelines limit the memory themselves, metric pipelines in the enrichment. -/
def limiterOf : OTLPPipeline → List String
  | .trace _ | .log _ => [componentIDMemoryLimiterProcessor]
  | .metric _ => []

theorem pipelinePlan_processors (lib : ExporterLib) (p : OTLPPipeline) :
    (pipelinePlan lib opts p).servicePipeline.processors =
      limiterOf p ++ processorIDs (earlyComponents opts p) ++
        componentIDDropKymaAttributesProcessor :: processorIDs (lateComponents opts p) := by
  have hsplit : ∀ first last : Component, first.processorEntry = none → last.processorEntry = none →
      ∀ limiter early late : List Component,
        processorIDs
          (first :: limiter ++ early ++ addDropKymaAttributesProcessor :: late ++ [last]) =
          processorIDs limiter ++ processorIDs early ++
            componentIDDropKymaAttributesProcessor :: processorIDs late := by
    intro first last hfirst hlast limiter early late
    have hdrop : addDropKymaAttributesProcessor.processorEntry =
      some (componentIDDropKymaAttributesProcessor, _) := rfl
    simp [processorIDs, hfirst, hlast, hdrop]
  rw [servicePipeline_processorIDs]
  cases p with
  | trace tp =>
    exact hsplit addOTLPReceiver (addTraceOTLPExporter lib _ tp) rfl rfl [addMemoryLimiterProcessor]
      (earlyComponents opts (.trace tp)) (lateComponents opts (.trace tp))
  | log lp =>
    refine hsplit addOTLPReceiver (addLogOTLPExporter lib _ lp) rfl ?_ [addMemoryLimiterProcessor]
      (earlyComponents opts (.log lp)) (lateComponents opts (.log lp))
    unfold addLogOTLPExporter
    split <;> rfl
  | metric mp =>
    exact hsplit addMetricReceiverForEnrichmentForwarder (addMetricOTLPExporter lib _ mp) rfl rfl []
      (earlyComponents opts (.metric mp)) (lateComponents opts (.metric mp))

theorem metricEnrichmentPlan_processors :
    (metricEnrichmentPlan opts).servicePipeline.processors =
      componentIDMemoryLimiterProcessor :: processorIDs (enrichmentComponents opts) := by
  rw [servicePipeline_processorIDs]
  have hsplit : (metricEnrichmentPlan opts).components =
      [addMetricReceiverForInputForwarder, addMemoryLimiterProcessor] ++
        enrichmentComponents opts ++ [addMetricExporterForEnrichmentForwarder] := rfl
  have hfirst : processorIDs [addMetricReceiverForInputForwarder, addMemoryLimiterProcessor] =
    [componentIDMemoryLimiterProcessor] := rfl
  have hlast : processorIDs [addMetricExporterForEnrichmentForwarder] = [] := rfl
  rw [hsplit, processorIDs_append, processorIDs_append, hfirst, hlast, List.append_nil]
  rfl

/-- Static IDs other than those of the memory limiter and of `drop-kyma-attributes`. -/
def plainIDs : List String :=
  [componentIDDropIstioServiceEnrichmentProcessor, componentIDDropUnknownServiceNameProcessor,
   componentIDK8sAttributesProcessor, componentIDRestoreOtelServiceAttrsProcessor,
   componentIDIstioNoiseFilterProcessor, componentIDInsertClusterAttributesProcessor,
   componentIDServiceEnrichmentProcessor, componentIDSetObservedTimeIfZeroProcessor,
   componentIDDropIfInputSourceOTLPProcessor, componentIDIstioEnrichmentProcessor,
   componentIDSetInstrumentationScopeKymaProcessor, componentIDSetKymaInputNameOTLPProcessor,
   componentIDSetKymaInputNameKymaProcessor, componentIDCumulativeToDeltaProcessor,
   componentIDBatchProcessor]

theorem plainIDs_static {id : String} (h : id ∈ plainIDs) : id ∈ staticIDs := by
  have hsub : plainIDs ⊆ staticIDs := by decide +kernel
  exact hsub h

theorem limiter_not_plain : componentIDMemoryLimiterProcessor ∉ plainIDs := by decide

theorem dropKyma_not_plain : componentIDDropKymaAttributesProcessor ∉ plainIDs := by decide

theorem limiter_static : componentIDMemoryLimiterProcessor ∈ staticIDs := by
  simp [staticIDs, sharedIDs, sharedComponents, addMemoryLimiterProcessor, Component.processorID]

theorem dropKyma_static : componentIDDropKymaAttributesProcessor ∈ staticIDs := by
  simp [staticIDs, sharedIDs, sharedComponents, addDropKymaAttributesProcessor,
    Component.processorID]

variable {opts} {p : OTLPPipeline} {id : String}

theorem mem_processorIDs_iff {components : List Component} :
    id ∈ processorIDs components ↔ ∃ c ∈ components, ∃ e, c.processorEntry = some e ∧ e.1 = id := by
  simp only [processorIDs, List.mem_map, List.mem_filterMap]
  constructor
  · rintro ⟨e, ⟨c, hc, he⟩, hid⟩
    exact ⟨c, hc, e, he, hid⟩
  · rintro ⟨c, hc, e, he, hid⟩
    exact ⟨e, ⟨c, hc, he⟩, hid⟩

theorem plain_of_mem_processorIDs {components : List Component}
    (hids : (components.map (·.processorID)).all (· ∈ plainIDs) = true)
    (h : id ∈ processorIDs components) : id ∈ plainIDs := by
  obtain ⟨c, hc, e, he, rfl⟩ := mem_processorIDs_iff.mp h
  have hid := List.mem_map.mpr ⟨c, hc, (Component.processorEntry_fst he).symm⟩
  exact of_decide_eq_true (List.all_eq_true.mp hids _ hid)

theorem enrichment_plain (h : id ∈ processorIDs (enrichmentComponents opts)) : id ∈ plainIDs :=
  plain_of_mem_processorIDs rfl h

theorem metricInputPlan_plain {plan : ServicePlan} (hplan : plan ∈ metricInputPlans)
    (h : id ∈ plan.servicePipeline.processors) : id ∈ plainIDs := by
  have hplain : ∀ plan ∈ metricInputPlans, processorIDs plan.components ⊆ plainIDs := by
    decide +kernel
  rw [servicePipeline_processorIDs] at h
  exact hplain plan hplan h

/-- In front of `drop-kyma-attributes` there are static processors and the namespace filter. -/
theorem early_ids (h : id ∈ processorIDs (earlyComponents opts p)) :
    id ∈ plainIDs ∨ ∃ e, namespaceFilter p = some e ∧ e.1 = id := by
  cases p with
  | trace tp => exact .inl (plain_of_mem_processorIDs rfl h)
  | log lp =>
    simp only [earlyComponents, processorIDs_append, List.mem_append] at h
    rcases h with (h | h) | h
    · exact .inl (plain_of_mem_processorIDs rfl h)
    · obtain ⟨c, hc, e, he, hid⟩ := mem_processorIDs_iff.mp h
      rw [List.mem_singleton.mp hc] at he
      exact .inr ⟨e, he, hid⟩
    · exact .inl (plain_of_mem_processorIDs rfl h)
  | metric mp =>
    simp only [earlyComponents, processorIDs_append, List.mem_append] at h
    rcases h with h | h
    · exact .inl (plain_of_mem_processorIDs rfl h)
    · obtain ⟨c, hc, e, he, hid⟩ := mem_processorIDs_iff.mp h
      rw [List.mem_singleton.mp hc] at he
      exact .inr ⟨e, he, hid⟩

theorem namespaceFilter_early {e : String × ProcessorConfig} (h : namespaceFilter p = some e) :
    e.1 ∈ processorIDs (earlyComponents opts p) := by
  cases p with
  | trace tp => cases h
  | log lp =>
    exact mem_processorIDs_iff.mpr
      ⟨addNamespaceFilterProcessor lp, by simp [earlyComponents], e, h, rfl⟩
  | metric mp =>
    exact mem_processorIDs_iff.mpr
      ⟨addMetricOTLPNamespaceFilterProcessor mp, by simp [earlyComponents], e, h, rfl⟩

/-- Behind `drop-kyma-attributes` there are static processors and the user-defined ones. -/
theorem late_ids (h : id ∈ processorIDs (lateComponents opts p)) :
    id ∈ plainIDs ∨ ∃ e, (userTransform p = some e ∨ userFilter p = some e) ∧ e.1 = id := by
  have hplain : ∀ id' ∈ [componentIDBatchProcessor, componentIDIstioEnrichmentProcessor,
      componentIDCumulativeToDeltaProcessor], id' ∈ plainIDs := by
    decide +kernel
  obtain ⟨c, hc, e, he, rfl⟩ := mem_processorIDs_iff.mp h
  cases p with
  | trace tp =>
    simp only [lateComponents, List.mem_cons, List.not_mem_nil, or_false] at hc
    rcases hc with rfl | rfl | rfl
    · exact .inr ⟨e, .inl he, rfl⟩
    · exact .inr ⟨e, .inr he, rfl⟩
    · cases he
      exact .inl (hplain _ (.head _))
  | log lp =>
    simp only [lateComponents, List.mem_cons, List.not_mem_nil, or_false] at hc
    rcases hc with rfl | rfl | rfl | rfl
    · cases he
      exact .inl (hplain _ (.tail _ (.head _)))
    · exact .inr ⟨e, .inl he, rfl⟩
    · exact .inr ⟨e, .inr he, rfl⟩
    · cases he
      exact .inl (hplain _ (.head _))
  | metric mp =>
    simp only [lateComponents, List.mem_cons, List.not_mem_nil, or_false] at hc
    rcases hc with rfl | rfl | rfl | rfl
    · exact .inr ⟨e, .inl he, rfl⟩
    · exact .inr ⟨e, .inr he, rfl⟩
    · unfold addMetricCumulativeToDeltaProcessor at he
      split at he <;> cases he
      exact .inl (hplain _ (.tail _ (.tail _ (.head _))))
    · cases he
      exact .inl (hplain _ (.head _))

variable (opts)

def UserDefined (id : String) : Prop :=
  ∃ p ∈ opts.pipelines, ∃ e, (userTransform p = some e ∨ userFilter p = some e) ∧ e.1 = id

def SeparateFilterIDs : Prop :=
  ∀ p ∈ opts.pipelines, ∀ q ∈ opts.pipelines, ∀ f n,
    userFilter p = some f → namespaceFilter q = some n → f.1 ≠ n.1

variable {opts}

theorem user_not_static {e : String × ProcessorConfig}
    (h : userTransform p = some e ∨ userFilter p = some e) : e.1 ∉ staticIDs := by
  intro hstatic
  have hfamily := family_static hstatic
  rcases h with h | h
  · rw [family_of_userTransform h] at hfamily
    cases hfamily
  · rw [family_of_userFilter h] at hfamily
    cases hfamily

theorem static_not_early (hstatic : id ∈ staticIDs) (hplain : id ∉ plainIDs) :
    id ∉ processorIDs (earlyComponents opts p) := by
  intro h
  rcases early_ids h with h | ⟨e, he, rfl⟩
  · exact hplain h
  · have hfamily := family_of_namespaceFilter he
    rw [family_static hstatic] at hfamily
    cases hfamily

theorem static_not_late (hstatic : id ∈ staticIDs) (hplain : id ∉ plainIDs) :
    id ∉ processorIDs (lateComponents opts p) := by
  intro h
  rcases late_ids h with h | ⟨e, he, rfl⟩
  · exact hplain h
  · exact user_not_static he hstatic

theorem static_not_userDefined (h : id ∈ staticIDs) : ¬ UserDefined opts id := by
  rintro ⟨p, -, e, he, rfl⟩
  exact user_not_static he h

theorem early_not_userDefined (hsep : SeparateFilterIDs opts) (hp : p ∈ opts.pipelines)
    (h : id ∈ processorIDs (earlyComponents opts p)) : ¬ UserDefined opts id := by
  rcases early_ids h with h | ⟨n, hn, rfl⟩
  · exact static_not_userDefined (plainIDs_static h)
  · rintro ⟨q, hq, f, hf | hf, hkey⟩
    · have hfamily := family_of_userTransform hf
      rw [hkey, family_of_namespaceFilter hn] at hfamily
      cases hfamily
    · exact hsep q hq p hp f n hf hn hkey

end Order

section Built

variable {lib : ExporterLib} {opts : BuildOptions} {s : BuildState}
  (hadded : PlansAdded (servicePlans lib opts) ⟨newConfig, ∅⟩ s)
  (hids : ((servicePlans lib opts).map (·.id)).Nodup)

include hadded hids

theorem lookup_pipeline_iff {k : String} {sp : ServicePipeline} :
    s.config.pipelines.lookup k = some sp ↔
      ∃ plan ∈ servicePlans lib opts, plan.id = k ∧ plan.servicePipeline = sp :=
  hadded.lookup_iff hids fun _ => rfl

theorem coherent_of_added : Coherent s.config :=
  .of_added hadded hids (servicePlans_coherent lib opts hadded.dereferenced)

theorem owns_of_added (hnames : DistinctNames opts) {p : OTLPPipeline} (hp : p ∈ opts.pipelines) :
    Owns s.config p := by
  have hplan : pipelinePlan lib opts p ∈ servicePlans lib opts :=
    pipelinePlan_mem hp
  obtain ⟨exporter, hexporter⟩ := exists_exporterID lib opts (hadded.dereferenced _ hplan)
  refine ⟨exporter, hexporter, (pipelinePlan lib opts p).id, ⟨_,
    (lookup_pipeline_iff hadded hids).mpr ⟨_, hplan, rfl, rfl⟩, ?_⟩, ?_⟩
  · rw [pipelinePlan_exporters, hexporter]
    rfl
  · rintro k ⟨sp, hsp, hexporters⟩
    obtain ⟨plan, hplan', rfl, rfl⟩ := (lookup_pipeline_iff hadded hids).mp hsp
    have hconnector := isConnector_exporterID hexporter
    rcases mem_servicePlans_iff.mp hplan' with ⟨-, hinput | rfl⟩ | ⟨q, hq, rfl⟩
    · rw [metricInputPlan_exporters hinput, List.singleton_inj] at hexporters
      exact absurd (hexporters ▸ hconnector) (by simp [isConnector_input])
    · rw [metricEnrichmentPlan_exporters, List.singleton_inj] at hexporters
      exact absurd (hexporters ▸ hconnector) (by simp [isConnector_enrichment])
    · rw [pipelinePlan_exporters] at hexporters
      have hq' : exporterID q = some exporter := by
        rw [← Option.mem_toList, hexporters]
        exact List.mem_singleton_self _
      rw [hnames.ref_injective hq hp (exporterID_injective hq' hexporter)]

end Built

structure Guarded (opts : BuildOptions) (processors : List String) : Prop where
  limiter : processors.count componentIDMemoryLimiterProcessor = 1
  dropKyma : processors.count componentIDDropKymaAttributesProcessor = 1
  userDefined : ∃ before after,
    processors = before ++ componentIDDropKymaAttributesProcessor :: after ∧
      ∀ id ∈ before, ¬ UserDefined opts id

/-- The processors on the way to the exporter of the pipeline. -/
def PassesTo (opts : BuildOptions) (p : OTLPPipeline) (processors : List String) : Prop :=
  ∃ front middle, front ⊆ plainIDs ∧ middle ⊆ plainIDs ∧
    processors = front ++ componentIDMemoryLimiterProcessor ::
      (middle ++ processorIDs (earlyComponents opts p)) ++
        componentIDDropKymaAttributesProcessor :: processorIDs (lateComponents opts p)

section Routes

variable {lib : ExporterLib} {opts : BuildOptions} {s : BuildState} {p : OTLPPipeline}
  {processors : List String}

theorem PassesTo.dropKyma_once (h : PassesTo opts p processors) :
    ∃ before after, processors = before ++ componentIDDropKymaAttributesProcessor :: after ∧
      componentIDDropKymaAttributesProcessor ∉ before ∧
      componentIDDropKymaAttributesProcessor ∉ after ∧
      (∀ id ∈ processorIDs (earlyComponents opts p), id ∈ before) ∧
      ∀ id ∈ before, id ∈ plainIDs ∨ id = componentIDMemoryLimiterProcessor ∨
        id ∈ processorIDs (earlyComponents opts p) := by
  obtain ⟨front, middle, hfront, hmiddle, rfl⟩ := h
  have hne : componentIDDropKymaAttributesProcessor ≠ componentIDMemoryLimiterProcessor := by decide
  refine ⟨_, _, rfl, ?_, static_not_late dropKyma_static dropKyma_not_plain, ?_, ?_⟩
  · simp only [List.mem_append, List.mem_cons, not_or]
    exact ⟨fun h => dropKyma_not_plain (hfront h), hne, fun h => dropKyma_not_plain (hmiddle h),
      static_not_early dropKyma_static dropKyma_not_plain⟩
  · intro id hid
    simp [hid]
  · intro id hid
    simp only [List.mem_append, List.mem_cons] at hid
    rcases hid with hid | hid | hid | hid
    · exact .inl (hfront hid)
    · exact .inr (.inl hid)
    · exact .inl (hmiddle hid)
    · exact .inr (.inr hid)

theorem PassesTo.guarded (hsep : SeparateFilterIDs opts) (hp : p ∈ opts.pipelines)
    (h : PassesTo opts p processors) : Guarded opts processors := by
  obtain ⟨before, after, hsplit, hbefore, hafter, -, hids⟩ := h.dropKyma_once
  constructor
  · obtain ⟨front, middle, hfront, hmiddle, rfl⟩ := h
    have hne : componentIDDropKymaAttributesProcessor ≠ componentIDMemoryLimiterProcessor := by
      decide
    have hplain : ∀ l, l ⊆ plainIDs → l.count componentIDMemoryLimiterProcessor = 0 :=
      fun l hl => List.count_eq_zero.mpr fun h => limiter_not_plain (hl h)
    have hearly : (processorIDs (earlyComponents opts p)).count
        componentIDMemoryLimiterProcessor = 0 :=
      List.count_eq_zero.mpr (static_not_early limiter_static limiter_not_plain)
    have hlate : (processorIDs (lateComponents opts p)).count
        componentIDMemoryLimiterProcessor = 0 :=
      List.count_eq_zero.mpr (static_not_late limiter_static limiter_not_plain)
    simp [List.count_append, hplain front hfront, hplain middle hmiddle, hearly, hlate, hne]
  · rw [hsplit, List.count_append, List.count_cons_self, List.count_eq_zero.mpr hbefore,
      List.count_eq_zero.mpr hafter]
  · refine ⟨before, after, hsplit, fun id hid => ?_⟩
    rcases hids id hid with hplain | rfl | hearly
    · exact static_not_userDefined (plainIDs_static hplain)
    · exact static_not_userDefined limiter_static
    · exact early_not_userDefined hsep hp hearly

/-- A namespace filter with the ID of a user-defined filter is in front
of `drop-kyma-attributes`. -/
theorem PassesTo.not_guarded (h : PassesTo opts p processors) {n : String × ProcessorConfig}
    (hn : namespaceFilter p = some n) (huser : UserDefined opts n.1) :
    ¬ Guarded opts processors := by
  rintro ⟨-, -, before', after', hsplit', hids'⟩
  obtain ⟨before, after, hsplit, hbefore, hafter, hearly, -⟩ := h.dropKyma_once
  rw [hsplit] at hsplit'
  obtain ⟨rfl, -, -⟩ := (List.append_cons_inj_of_notMem hbefore hafter).mp hsplit'
  exact hids' n.1 (hearly n.1 (namespaceFilter_early hn)) huser

variable (hadded : PlansAdded (servicePlans lib opts) ⟨newConfig, ∅⟩ s)
  (hids : ((servicePlans lib opts).map (·.id)).Nodup)

include hadded hids

/-- Where the ways from a receiver lead: to the exporter of a pipeline, or to one of the two
connectors of the metric pipelines. -/
theorem route_cases {source target : String} (hsource : isConnector source = false)
    (h : Route s.config source processors target) :
    (∃ p ∈ opts.pipelines, exporterID p = some target ∧ PassesTo opts p processors) ∨
    (target = componentIDInputConnector ∧ processors ⊆ plainIDs) ∨
    (target = componentIDEnrichmentConnector ∧ ∃ front middle, front ⊆ plainIDs ∧
      middle ⊆ plainIDs ∧ processors = front ++ componentIDMemoryLimiterProcessor :: middle) := by
  have hcoherent := coherent_of_added hadded hids
  have hne : componentIDEnrichmentConnector ≠ componentIDInputConnector := by decide
  induction h with
  | within hsp hreceiver hexporter =>
    obtain ⟨plan, hplan, -, rfl⟩ := (lookup_pipeline_iff hadded hids).mp hsp
    rcases mem_servicePlans_iff.mp hplan with ⟨-, hinput | rfl⟩ | ⟨p, hp, rfl⟩
    · rw [metricInputPlan_exporters hinput, List.mem_singleton] at hexporter
      exact .inr (.inl ⟨hexporter, fun id => metricInputPlan_plain hinput⟩)
    · rw [metricEnrichmentPlan_receivers, List.mem_singleton] at hreceiver
      rw [hreceiver, isConnector_input] at hsource
      cases hsource
    · rw [pipelinePlan_exporters, Option.mem_toList] at hexporter
      rw [pipelinePlan_receivers, List.mem_singleton] at hreceiver
      refine .inl ⟨p, hp, hexporter, ?_⟩
      rw [pipelinePlan_processors]
      cases p with
      | trace tp | log lp => exact ⟨[], [], List.nil_subset _, List.nil_subset _, rfl⟩
      | metric mp =>
        rw [hreceiver, pipelineSource, isConnector_enrichment] at hsource
        cases hsource
  | across h hconnector hsp hreceiver hexporter ih =>
    obtain ⟨plan, hplan, -, rfl⟩ := (lookup_pipeline_iff hadded hids).mp hsp
    have hc := ((hcoherent.receivingConnectors _).mp hconnector).2
    obtain ⟨-, ⟨rfl, rfl⟩ | ⟨mp, hmp, rfl, rfl⟩⟩ := receives_connector lib opts hplan hreceiver hc
    · -- behind the first connector there is the enrichment
      rcases ih with ⟨p, -, htarget, -⟩ | ⟨-, hfront⟩ | ⟨htarget, -⟩
      · rw [isConnector_exporterID htarget] at hc
        cases hc
      · rw [metricEnrichmentPlan_exporters, List.mem_singleton] at hexporter
        rw [metricEnrichmentPlan_processors]
        exact .inr (.inr ⟨hexporter, _, _, hfront, fun id => enrichment_plain, rfl⟩)
      · exact absurd htarget.symm hne
    · -- behind the second connector there are the outputs
      rcases ih with ⟨p, -, htarget, -⟩ | ⟨htarget, -⟩ | ⟨-, front, middle, hfront, hmiddle, rfl⟩
      · rw [isConnector_exporterID htarget] at hc
        cases hc
      · exact absurd htarget hne
      · rw [pipelinePlan_exporters, Option.mem_toList] at hexporter
        rw [pipelinePlan_processors]
        exact .inl ⟨_, hmp, hexporter, front, middle, hfront, hmiddle, by simp [limiterOf]⟩

theorem exists_route (hp : p ∈ opts.pipelines) {target : String} (h : exporterID p = some target) :
    componentIDOTLPReceiver ∈ s.config.receivers ∧ target ∈ s.config.exporters ∧
      ∃ processors, Route s.config componentIDOTLPReceiver processors target := by
  have hcoherent := coherent_of_added hadded hids
  have hmem : ∀ {plan}, plan ∈ servicePlans lib opts →
      s.config.pipelines.lookup plan.id = some plan.servicePipeline :=
    fun hplan => (lookup_pipeline_iff hadded hids).mpr ⟨_, hplan, rfl, rfl⟩
  have hplan := hmem (pipelinePlan_mem hp)
  have hreceives := List.mem_singleton.mpr (Eq.refl (pipelineSource p))
  rw [← pipelinePlan_receivers lib opts] at hreceives
  have hexports : target ∈ (pipelinePlan lib opts p).servicePipeline.exporters := by
    rw [pipelinePlan_exporters, h]
    exact List.mem_singleton_self _
  have hexporter : target ∈ s.config.exporters :=
    (hcoherent.exporters _).mpr ⟨⟨_, _, hplan, hexports⟩, isConnector_exporterID h⟩
  cases p with
  | trace tp | log lp =>
    exact ⟨(hcoherent.receivers _).mpr ⟨⟨_, _, hplan, hreceives⟩, isConnector_otlp⟩, hexporter, _,
      .within hplan hreceives hexports⟩
  | metric mp =>
    have hmetrics := List.ne_nil_of_mem (metric_mem_pipelines.mp hp)
    have hinput : metricInputOTLPPlan ∈ metricInputPlans := List.mem_cons_self
    have hinputPlan := hmem (mem_servicePlans_iff.mpr (.inl ⟨hmetrics, .inl hinput⟩))
    have henrichmentPlan := hmem (mem_servicePlans_iff.mpr (.inl ⟨hmetrics, .inr rfl⟩))
    have hotlp : componentIDOTLPReceiver ∈ metricInputOTLPPlan.servicePipeline.receivers :=
      by decide
    have hfirst : componentIDInputConnector ∈ metricInputOTLPPlan.servicePipeline.exporters := by
      rw [metricInputPlan_exporters hinput]
      exact List.mem_singleton_self _
    have hsecond := List.mem_singleton.mpr (Eq.refl componentIDInputConnector)
    rw [← metricEnrichmentPlan_receivers opts] at hsecond
    have hthird := List.mem_singleton.mpr (Eq.refl componentIDEnrichmentConnector)
    rw [← metricEnrichmentPlan_exporters opts] at hthird
    refine ⟨(hcoherent.receivers _).mpr ⟨⟨_, _, hinputPlan, hotlp⟩, isConnector_otlp⟩, hexporter, _,
      .across (.across (.within hinputPlan hotlp hfirst) ?_ henrichmentPlan hsecond hthird) ?_ hplan
        hreceives hexports⟩
    · exact (hcoherent.exportingConnectors _).mpr ⟨⟨_, _, hinputPlan, hfirst⟩, isConnector_input⟩
    · exact (hcoherent.exportingConnectors _).mpr
        ⟨⟨_, _, henrichmentPlan, hthird⟩, isConnector_enrichment⟩

theorem routes_guarded_iff (hnames : DistinctNames opts) :
    (∀ receiver ∈ s.config.receivers, ∀ exporter ∈ s.config.exporters, ∀ processors,
      Route s.config receiver processors exporter → Guarded opts processors) ↔
      SeparateFilterIDs opts := by
  have hcoherent := coherent_of_added hadded hids
  constructor
  · intro h p hp q hq f n hf hn hkey
    obtain ⟨target, htarget⟩ := exists_exporterID lib opts (hadded.dereferenced _
      (pipelinePlan_mem hq))
    obtain ⟨hreceiver, hexporter, processors, hroute⟩ := exists_route hadded hids hq htarget
    rcases route_cases hadded hids isConnector_otlp hroute with
      ⟨q', hq', htarget', hpasses⟩ | ⟨rfl, -⟩ | ⟨rfl, -⟩
    · rw [hnames.ref_injective hq' hq (exporterID_injective htarget' htarget)] at hpasses
      exact hpasses.not_guarded hn ⟨p, hp, f, .inr hf, hkey⟩ (h _ hreceiver _ hexporter _ hroute)
    · exact absurd (isConnector_exporterID htarget) (by simp [isConnector_input])
    · exact absurd (isConnector_exporterID htarget) (by simp [isConnector_enrichment])
  · intro hsep receiver hreceiver exporter hexporter processors hroute
    have hsource := ((hcoherent.receivers _).mp hreceiver).2
    have htarget := ((hcoherent.exporters _).mp hexporter).2
    rcases route_cases hadded hids hsource hroute with ⟨p, hp, -, hpasses⟩ | ⟨rfl, -⟩ | ⟨rfl, -⟩
    · exact hpasses.guarded hsep hp
    · exact absurd htarget (by simp [isConnector_input])
    · exact absurd htarget (by simp [isConnector_enrichment])

end Routes

theorem separateFilterIDs_sort {opts : BuildOptions} :
    SeparateFilterIDs (sortPipelinesByName opts) ↔ SeparateFilterIDs opts := by
  simp only [SeparateFilterIDs, mem_pipelines_sort]

theorem guarded_sort {opts : BuildOptions} {processors : List String} :
    Guarded (sortPipelinesByName opts) processors ↔ Guarded opts processors := by
  have huser : ∀ id, UserDefined (sortPipelinesByName opts) id ↔ UserDefined opts id := by
    simp only [UserDefined, mem_pipelines_sort, implies_true]
  constructor <;> rintro ⟨hlimiter, hdrop, before, after, hsplit, hids⟩ <;>
    exact ⟨hlimiter, hdrop, before, after, hsplit, by simpa only [huser] using hids⟩

/-- A built configuration defines what its service uses and nothing else, and every pipeline owns
one service pipeline with its exporter. Data passes the memory limiter and `drop-kyma-attributes`
once on every way to a backend. All this, and no user-defined processor in front of
`drop-kyma-attributes`, holds exactly if no user-defined filter has the ID of a namespace filter. -/
theorem gateway_config_sound_iff (lib : ExporterLib) (answer : ApiTable)
    (opts : BuildOptions) (s : BuildState) (hnames : DistinctNames opts)
    (hbuild : evalE answer (build lib opts) = .ok s) :
    (Coherent s.config ∧ (∀ p ∈ opts.pipelines, Owns s.config p) ∧
      ∀ receiver ∈ s.config.receivers, ∀ exporter ∈ s.config.exporters, ∀ processors,
        Route s.config receiver processors exporter → Guarded opts processors) ↔
      SeparateFilterIDs opts := by
  have hadded := (build_returns lib opts).eval hbuild
  have hsorted := distinctNames_sort hnames
  have hids := servicePlans_ids_nodup lib hsorted
  have hroutes := routes_guarded_iff hadded hids hsorted
  simp only [guarded_sort, separateFilterIDs_sort] at hroutes
  rw [← hroutes]
  refine ⟨fun h => h.2.2, fun h => ⟨coherent_of_added hadded hids, fun p hp => ?_, h⟩⟩
  exact owns_of_added hadded hids hsorted (mem_pipelines_sort.mpr hp)

def selectedNamespaces : NamespaceSelector where
  «include» := ["default"]

def selectingPipeline : LogPipeline where
  name := "logpipeline-user-defined-foo"
  input := { otlp := some { namespaces := some selectedNamespaces } }
  output := { otlp := some sampleOutput }

def filteringPipeline : LogPipeline where
  name := "foo-filter-by-namespace"
  input := {}
  output := { otlp := some sampleOutput }
  filters := some [⟨["IsMatch(log.body, \"kyma\")"]⟩]

def collidingOptions : BuildOptions where
  logPipelines := [selectingPipeline, filteringPipeline]

def collidingFilterID : String := "filter/logpipeline-user-defined-foo-filter-by-namespace"

/-- The log records of one pipeline pass the user-defined filter of the other one, in front of
`drop-kyma-attributes`. -/
theorem foreign_filter_before_dropKyma :
    DistinctNames collidingOptions ∧
    ∃ s before after, evalE noObjects (build sampleExporterLib collidingOptions) = .ok s ∧
      "otlp" ∈ s.config.receivers ∧
      "otlp_grpc/logpipeline-logpipeline-user-defined-foo" ∈ s.config.exporters ∧
      Route s.config "otlp" (before ++ componentIDDropKymaAttributesProcessor :: after)
        "otlp_grpc/logpipeline-logpipeline-user-defined-foo" ∧
      collidingFilterID ∈ before ∧ UserDefined collidingOptions collidingFilterID ∧
      s.config.processors.lookup collidingFilterID =
        some (logFilterProcessor [⟨["IsMatch(log.body, \"kyma\")"]⟩]) := by
  have hnames : DistinctNames collidingOptions := ⟨by decide, by decide, by decide⟩
  obtain ⟨s, hbuild⟩ := exists_evalE_eq noObjects
    (x := build sampleExporterLib collidingOptions) rfl
  have hadded := (build_returns sampleExporterLib collidingOptions).eval hbuild
  have hids := servicePlans_ids_nodup sampleExporterLib (distinctNames_sort hnames)
  have hcoherent := coherent_of_added hadded hids
  have hmem : OTLPPipeline.log selectingPipeline ∈ collidingOptions.pipelines :=
    List.mem_cons_self
  have hplan := (lookup_pipeline_iff hadded hids).mpr
    ⟨_, pipelinePlan_mem (mem_pipelines_sort.mpr hmem), rfl, rfl⟩
  have hreceives : "otlp" ∈ (pipelinePlan sampleExporterLib (sortPipelinesByName collidingOptions)
      (.log selectingPipeline)).servicePipeline.receivers := by
    rw [pipelinePlan_receivers]
    exact List.mem_singleton_self _
  have hexports : "otlp_grpc/logpipeline-logpipeline-user-defined-foo" ∈
      (pipelinePlan sampleExporterLib (sortPipelinesByName collidingOptions)
        (.log selectingPipeline)).servicePipeline.exporters := by
    rw [pipelinePlan_exporters]
    exact List.mem_singleton_self _
  have hroute := Route.within hplan hreceives hexports
  rw [pipelinePlan_processors] at hroute
  refine ⟨hnames, s, _, _, hbuild, ?_, ?_, hroute, ?_, ?_, ?_⟩
  · exact (hcoherent.receivers _).mpr ⟨⟨_, _, hplan, hreceives⟩, isConnector_otlp⟩
  · exact (hcoherent.exporters _).mpr ⟨⟨_, _, hplan, hexports⟩, by decide⟩
  · exact List.mem_append_right _ (namespaceFilter_early (p := .log selectingPipeline)
      (e := (collidingFilterID, namespaceFilterProcessor selectedNamespaces)) rfl)
  · exact ⟨.log filteringPipeline, List.mem_cons_of_mem _ List.mem_cons_self, _, .inr rfl, rfl⟩
  · rw [hadded.processors, Registry.lookup_registerAll]
    rfl

/-- A trace and a log pipeline without namespace filters. -/
theorem trace_and_log_config_sound :
    ∃ s, evalE noObjects (build sampleExporterLib traceAndLogOptions) = .ok s ∧
      Coherent s.config ∧ (∀ p ∈ traceAndLogOptions.pipelines, Owns s.config p) ∧
      ∀ receiver ∈ s.config.receivers, ∀ exporter ∈ s.config.exporters, ∀ processors,
        Route s.config receiver processors exporter → Guarded traceAndLogOptions processors := by
  obtain ⟨s, hbuild⟩ := exists_evalE_eq noObjects
    (x := build sampleExporterLib traceAndLogOptions) rfl
  refine ⟨s, hbuild, ?_⟩
  refine (gateway_config_sound_iff sampleExporterLib noObjects traceAndLogOptions s
    ⟨by decide, by decide, by decide⟩ hbuild).mpr ?_
  intro p _ q hq f n _ hn
  cases (traceAndLogOptions_unfiltered q hq).symm.trans hn

end TelemetryManager.Gateway
