import TelemetryManager.MetricAgentConfig
import TelemetryManager.ServiceGraph

/-! Routes of datapoints through the metric agent.
A datapoint of an input comes to the outputs of those pipelines that have the input enabled, either
through the enrichment or past it. -/
namespace TelemetryManager.MetricAgent

open Collector Interaction MetricPipelineUtils OtlpExporter Ottl

inductive PullInput where
  | runtime
  | prometheus
  | istio
  deriving DecidableEq

namespace PullInput

def source : PullInput → InputSourceType
  | .runtime => .runtime
  | .prometheus => .prometheus
  | .istio => .istio

def isEnabled : PullInput → MetricPipelineInput → Bool
  | .runtime => isRuntimeInputEnabled
  | .prometheus => isPrometheusInputEnabled
  | .istio => isIstioInputEnabled

def routerID : PullInput → String
  | .runtime => componentIDRuntimeInputRoutingConnector
  | .prometheus => componentIDPrometheusInputRoutingConnector
  | .istio => componentIDIstioInputRoutingConnector

def plan (opts : BuildOptions) (pipelines : List MetricPipeline) : PullInput → ServicePlan
  | .runtime => inputRuntimePlan opts pipelines
  | .prometheus => inputPrometheusPlan opts pipelines
  | .istio => inputIstioPlan opts pipelines

def servicePipelineID (input : PullInput) : String := "metrics/input-" ++ input.source.text

def pipelines (input : PullInput) (pipelines : List MetricPipeline) : List MetricPipeline :=
  pipelines.filter fun mp => input.isEnabled mp.input

def outputs (input : PullInput) (pipelines : List MetricPipeline) : List String :=
  formatOutputPipelineIDs (input.pipelines pipelines)

def isUsed (input : PullInput) (pipelines : List MetricPipeline) : Bool :=
  pipelines.any fun mp => input.isEnabled mp.input

end PullInput

open PullInput

def pullInputs : List PullInput := [.runtime, .prometheus, .istio]

@[simp] theorem mem_pullInputs (input : PullInput) : input ∈ pullInputs := by
  cases input <;> decide

section Plans

variable (lib : ExporterLib) (opts : BuildOptions) (pipelines : List MetricPipeline)

variable {lib opts pipelines}

theorem mem_servicePlans_iff {plan : ServicePlan} :
    plan ∈ servicePlans lib opts pipelines ↔
      (∃ input : PullInput, input.isUsed pipelines ∧ plan = input.plan opts pipelines) ∨
      plan = enrichmentPlan opts pipelines ∨
      ∃ mp ∈ pipelines, plan = outputPlan lib opts pipelines mp := by
  have hinputs : plan ∈ inputPlans opts pipelines ↔
      ∃ input : PullInput, input.isUsed pipelines ∧ plan = input.plan opts pipelines := by
    simp only [inputPlans, List.mem_append, List.mem_ite_nil_right, List.mem_singleton, or_assoc]
    constructor
    · rintro (⟨h, rfl⟩ | ⟨h, rfl⟩ | ⟨h, rfl⟩)
      · exact ⟨.runtime, h, rfl⟩
      · exact ⟨.prometheus, h, rfl⟩
      · exact ⟨.istio, h, rfl⟩
    · rintro ⟨input, h, rfl⟩
      cases input with
      | runtime => exact .inl ⟨h, rfl⟩
      | prometheus => exact .inr (.inl ⟨h, rfl⟩)
      | istio => exact .inr (.inr ⟨h, rfl⟩)
  simp only [servicePlans, List.mem_append, hinputs, List.mem_singleton, List.mem_map, or_assoc,
    eq_comm]

theorem inputPlan_mem {input : PullInput} (hused : input.isUsed pipelines) :
    input.plan opts pipelines ∈ servicePlans lib opts pipelines :=
  mem_servicePlans_iff.mpr (.inl ⟨input, hused, rfl⟩)

theorem enrichmentPlan_mem : enrichmentPlan opts pipelines ∈ servicePlans lib opts pipelines :=
  mem_servicePlans_iff.mpr (.inr (.inl rfl))

theorem outputPlan_mem {mp : MetricPipeline} (hmp : mp ∈ pipelines) :
    outputPlan lib opts pipelines mp ∈ servicePlans lib opts pipelines :=
  mem_servicePlans_iff.mpr (.inr (.inr ⟨mp, hmp, rfl⟩))

variable (lib opts pipelines)

theorem inputPlan_exporters (input : PullInput) :
    (input.plan opts pipelines).servicePipeline.exporters = [input.routerID] := by
  rw [ServicePlan.servicePipeline_exporters]
  cases input <;> rfl

theorem enrichmentPlan_exporters :
    (enrichmentPlan opts pipelines).servicePipeline.exporters =
      [componentIDEnrichmentRoutingConnector] := by
  rw [ServicePlan.servicePipeline_exporters]
  rfl

theorem outputPlan_exporters (mp : MetricPipeline) :
    (outputPlan lib opts pipelines mp).servicePipeline.exporters =
      [componentIDOTLPExporter mp.output.protocol (metricPipelineRef mp)] := by
  rw [ServicePlan.servicePipeline_exporters]
  rcases htemporality : mp.temporality with _ | (_ | _)
  all_goals
    simp only [outputPlan, addCumulativeToDeltaProcessor, htemporality]
    rfl

def receiverIDs : List String :=
  [componentIDKubeletStatsReceiver, componentIDK8sClusterReceiver,
   componentIDPrometheusAppPodsReceiver, componentIDPrometheusAppServicesReceiver,
   componentIDPrometheusIstioReceiver]

variable {opts pipelines} in
theorem mem_receiverIDs_of_inputPlan {input : PullInput} {id : String}
    (h : id ∈ (input.plan opts pipelines).servicePipeline.receivers) : id ∈ receiverIDs := by
  rw [ServicePlan.servicePipeline_receivers] at h
  cases input with
  | runtime =>
    have h : id ∈ [componentIDKubeletStatsReceiver, componentIDK8sClusterReceiver] := h
    simp only [List.mem_cons, List.not_mem_nil, or_false] at h
    rcases h with rfl | rfl <;> decide
  | prometheus =>
    have h : id ∈ [componentIDPrometheusAppPodsReceiver,
      componentIDPrometheusAppServicesReceiver] := h
    simp only [List.mem_cons, List.not_mem_nil, or_false] at h
    rcases h with rfl | rfl <;> decide
  | istio =>
    have h : id ∈ [componentIDPrometheusIstioReceiver] := h
    rw [List.mem_singleton.mp h]
    decide

theorem receiverRef_addReceiverForInputRouter (input : PullInput) (enabled : Bool) :
    (addReceiverForInputRouter input.routerID (input.pipelines pipelines) enabled).receiverRef =
      if enabled then some input.routerID else none := by
  cases enabled <;> rfl

variable {opts pipelines} in
theorem mem_enrichmentPlan_receivers_iff {id : String} :
    id ∈ (enrichmentPlan opts pipelines).servicePipeline.receivers ↔
      ∃ input : PullInput, input.isUsed pipelines ∧ id = input.routerID := by
  have href := receiverRef_addReceiverForInputRouter pipelines
  have hreceivers : (enrichmentPlan opts pipelines).servicePipeline.receivers =
      (pullInputs.map fun input => addReceiverForInputRouter input.routerID
        (input.pipelines pipelines) (input.isUsed pipelines)).filterMap Component.receiverRef := by
    rw [ServicePlan.servicePipeline_receivers]
    rfl
  simp only [hreceivers, List.mem_filterMap, List.mem_map, mem_pullInputs, true_and]
  constructor
  · rintro ⟨c, ⟨input, rfl⟩, hid⟩
    rw [href] at hid
    split at hid
    · exact ⟨input, ‹_›, (Option.some.inj hid).symm⟩
    · cases hid
  · rintro ⟨input, hused, rfl⟩
    exact ⟨_, ⟨input, rfl⟩, by rw [href, if_pos hused]⟩

def enrichmentReceiver : Component :=
  addReceiverForEnrichmentRouter (getPipelinesWithRuntimeInput pipelines)
    (getPipelinesWithPrometheusInput pipelines) (getPipelinesWithIstioInput pipelines)

def enrichmentRouter : ConnectorConfig :=
  enrichmentRoutingConnector (getPipelinesWithRuntimeInput pipelines)
    (getPipelinesWithPrometheusInput pipelines) (getPipelinesWithIstioInput pipelines)

def outputReceivers (mp : MetricPipeline) : List Component :=
  enrichmentReceiver pipelines ::
    pullInputs.map fun input => addReceiverForInputRouter input.routerID
      (input.pipelines pipelines) (input.isEnabled mp.input)

theorem outputPlan_receiverRefs (mp : MetricPipeline) :
    (outputPlan lib opts pipelines mp).servicePipeline.receivers =
      (outputReceivers pipelines mp).filterMap Component.receiverRef := by
  rw [ServicePlan.servicePipeline_receivers]
  rcases htemporality : mp.temporality with _ | (_ | _)
  all_goals
    simp only [outputPlan, addCumulativeToDeltaProcessor, htemporality]
    rfl

theorem outputPlan_connectors (mp : MetricPipeline) :
    (outputPlan lib opts pipelines mp).connectors =
      (outputReceivers pipelines mp).filterMap Component.connectorEntry := by
  rcases htemporality : mp.temporality with _ | (_ | _)
  all_goals
    simp only [ServicePlan.connectors, outputPlan, addCumulativeToDeltaProcessor, htemporality]
    rfl

theorem receiverRef_enrichmentReceiver :
    (enrichmentReceiver pipelines).receiverRef =
      if pullInputs.any (·.isUsed pipelines) then some componentIDEnrichmentRoutingConnector
      else none := by
  have hnone : (getPipelinesWithRuntimeInput pipelines = [] ∧
      getPipelinesWithPrometheusInput pipelines = [] ∧ getPipelinesWithIstioInput pipelines = []) ↔
      ¬ pullInputs.any (·.isUsed pipelines) := by
    simp [pullInputs, isUsed, isEnabled, getPipelinesWithRuntimeInput,
      getPipelinesWithPrometheusInput, getPipelinesWithIstioInput]
  unfold enrichmentReceiver addReceiverForEnrichmentRouter
  by_cases hused : pullInputs.any (·.isUsed pipelines)
  · rw [if_pos hused, if_neg fun h => hnone.mp h hused]
    rfl
  · rw [if_neg hused, if_pos (hnone.mpr hused)]
    rfl

variable {lib opts pipelines} in
theorem mem_outputPlan_receivers_iff {mp : MetricPipeline} {id : String} :
    id ∈ (outputPlan lib opts pipelines mp).servicePipeline.receivers ↔
      ((∃ input : PullInput, input.isUsed pipelines) ∧ id = componentIDEnrichmentRoutingConnector) ∨
      ∃ input : PullInput, input.isEnabled mp.input ∧ id = input.routerID := by
  have href := receiverRef_addReceiverForInputRouter pipelines
  simp only [outputPlan_receiverRefs, outputReceivers, List.mem_filterMap, List.mem_cons,
    List.mem_map, mem_pullInputs, true_and]
  constructor
  · rintro ⟨c, rfl | ⟨input, rfl⟩, hid⟩
    · rw [receiverRef_enrichmentReceiver] at hid
      split at hid
      · obtain ⟨input, _, hused⟩ := List.any_eq_true.mp ‹_›
        exact .inl ⟨⟨input, hused⟩, (Option.some.inj hid).symm⟩
      · cases hid
    · rw [href] at hid
      split at hid
      · exact .inr ⟨input, ‹_›, (Option.some.inj hid).symm⟩
      · cases hid
  · rintro (⟨⟨input, hused⟩, rfl⟩ | ⟨input, henabled, rfl⟩)
    · refine ⟨_, .inl rfl, ?_⟩
      rw [receiverRef_enrichmentReceiver,
        if_pos (List.any_eq_true.mpr ⟨input, by simp, hused⟩)]
    · exact ⟨_, .inr ⟨input, rfl⟩, by rw [href, if_pos henabled]⟩

def routers : List (String × ConnectorConfig) :=
  (componentIDEnrichmentRoutingConnector, enrichmentRouter pipelines) ::
  pullInputs.map fun input => (input.routerID, inputRoutingConnector (input.outputs pipelines))

theorem mem_routers_of_plan {plan : ServicePlan} (hplan : plan ∈ servicePlans lib opts pipelines)
    {e : String × ConnectorConfig} (he : e ∈ plan.connectors) : e ∈ routers pipelines := by
  have hreceiver : ∀ (input : PullInput) (enabled : Bool), e ∈ (addReceiverForInputRouter
      input.routerID (input.pipelines pipelines) enabled).connectorEntry →
        e ∈ routers pipelines := by
    intro input enabled he
    cases enabled with
    | false => cases he
    | true =>
      cases he
      exact List.mem_cons_of_mem _ (List.mem_map.mpr ⟨input, by simp, rfl⟩)
  rcases mem_servicePlans_iff.mp hplan with ⟨input, _, rfl⟩ | rfl | ⟨mp, _, rfl⟩
  · have he : e ∈ [(input.routerID, inputRoutingConnector (input.outputs pipelines))] := by
      cases input <;> exact he
    rw [List.mem_singleton.mp he]
    exact List.mem_cons_of_mem _ (List.mem_map.mpr ⟨input, by simp, rfl⟩)
  · have hconnectors : (enrichmentPlan opts pipelines).connectors =
        ((pullInputs.map fun input => addReceiverForInputRouter input.routerID
          (input.pipelines pipelines) (input.isUsed pipelines)) ++
          [addExporterForEnrichmentRouter (getPipelinesWithRuntimeInput pipelines)
            (getPipelinesWithPrometheusInput pipelines)
            (getPipelinesWithIstioInput pipelines)]).filterMap Component.connectorEntry := rfl
    rw [hconnectors] at he
    obtain ⟨c, hc, he⟩ := List.mem_filterMap.mp he
    rcases List.mem_append.mp hc with hc | hc
    · obtain ⟨input, _, rfl⟩ := List.mem_map.mp hc
      exact hreceiver input _ he
    · rw [List.mem_singleton.mp hc] at he
      cases he
      exact List.mem_cons_self
  · rw [outputPlan_connectors] at he
    obtain ⟨c, hc, he⟩ := List.mem_filterMap.mp he
    rcases List.mem_cons.mp hc with rfl | hc
    · unfold enrichmentReceiver addReceiverForEnrichmentRouter at he
      split at he
      · cases he
      · cases he
        exact List.mem_cons_self
    · obtain ⟨input, _, rfl⟩ := List.mem_map.mp hc
      exact hreceiver input _ he

theorem routers_keys : (routers pipelines).map Prod.fst =
    componentIDEnrichmentRoutingConnector :: pullInputs.map routerID := rfl

theorem routers_nodup : ((routers pipelines).map Prod.fst).Nodup := by
  rw [routers_keys]
  decide

/-- The route behind the enrichment to the outputs with the input. -/
def enrichmentRoute (input : PullInput) : List RoutingConnectorTableEntry :=
  if input.pipelines pipelines ≠ [] then
    [enrichmentRoutingConnectorTableEntry (input.pipelines pipelines)
      (kymaInputNameEquals input.source)]
  else []

theorem enrichmentRouter_eq : enrichmentRouter pipelines =
    .routing [] "ignore" (pullInputs.flatMap (enrichmentRoute pipelines)) := by
  simp only [pullInputs, List.flatMap_cons, List.flatMap_nil, List.append_nil,
    ← List.append_assoc]
  rfl

theorem inputPlan_id (input : PullInput) :
    (input.plan opts pipelines).id = input.servicePipelineID := by
  cases input <;> rfl

def sharedIDs : List String :=
  pullInputs.map servicePipelineID ++ [enrichmentServicePipelineID]

theorem output_ne_shared (mp : MetricPipeline) {id : String} (hid : id ∈ sharedIDs) :
    formatOutputMetricServicePipelineID mp ≠ id := by
  rintro rfl
  have hpre : "metrics/output-".toList <+: (formatOutputMetricServicePipelineID mp).toList := by
    unfold formatOutputMetricServicePipelineID
    simp
  have hnone : ∀ id ∈ sharedIDs, ¬ "metrics/output-".toList <+: id.toList := by decide
  exact hnone _ hid hpre

theorem formatOutput_nodup {l : List MetricPipeline} (hnames : (l.map (·.name)).Nodup) :
    (formatOutputPipelineIDs l).Nodup := by
  have hcomp : formatOutputPipelineIDs l = (l.map (·.name)).map ("metrics/output-" ++ ·) := by
    unfold formatOutputPipelineIDs formatOutputMetricServicePipelineID
    simp
  rw [hcomp]
  exact hnames.map fun _ _ h => (String.append_right_inj _).mp h

theorem servicePlans_ids_nodup (hnames : (pipelines.map (·.name)).Nodup) :
    ((servicePlans lib opts pipelines).map (·.id)).Nodup := by
  have hshared : ((inputPlans opts pipelines ++ [enrichmentPlan opts pipelines]).map
      (·.id)).Sublist sharedIDs := by
    unfold inputPlans
    cases (inputSources pipelines).runtime <;> cases (inputSources pipelines).prometheus <;>
      cases (inputSources pipelines).istio <;>
      exact List.isSublist_iff_sublist.mp rfl
  have houtputs : (pipelines.map (outputPlan lib opts pipelines)).map (·.id) =
      formatOutputPipelineIDs pipelines := by
    simp [formatOutputPipelineIDs, outputPlan]
  rw [servicePlans, List.map_append, houtputs]
  refine List.Nodup.append (hshared.nodup (by decide)) (formatOutput_nodup hnames) ?_
  intro id hid houtput
  obtain ⟨mp, _, rfl⟩ := List.mem_map.mp houtput
  exact output_ne_shared mp (hshared.subset hid) rfl

end Plans

section Built

variable {lib : ExporterLib} {opts : BuildOptions} {pipelines : List MetricPipeline}
    {s : BuildState}
  (hadded : PlansAdded (servicePlans lib opts pipelines) ⟨newConfig, ∅⟩ s)

include hadded

theorem mem_connectors_iff {k : String} :
    k ∈ s.config.connectors ↔
      ∃ plan ∈ servicePlans lib opts pipelines, k ∈ plan.connectors.map Prod.fst := by
  have hnew : k ∉ newConfig.connectors := AList.notMem_empty k
  rw [hadded.connectors, mem_foldl_connect_iff]
  simp only [hnew, false_or, List.filterMap_flatMap, List.map_flatMap, List.mem_flatMap]
  rfl

theorem mem_routers_of_connector {k : String} (hk : k ∈ s.config.connectors) :
    k ∈ (routers pipelines).map Prod.fst := by
  obtain ⟨plan, hplan, hk⟩ := (mem_connectors_iff hadded).mp hk
  obtain ⟨e, he, rfl⟩ := List.mem_map.mp hk
  exact List.mem_map_of_mem (mem_routers_of_plan lib opts pipelines hplan he)

theorem lookup_router {e : String × ConnectorConfig} (he : e ∈ routers pipelines)
    (hregistered : ∃ plan ∈ servicePlans lib opts pipelines, e.1 ∈ plan.connectors.map Prod.fst) :
    s.config.connectors.lookup e.1 = some e.2 := by
  have hagree : ∀ e' ∈ ((servicePlans lib opts pipelines).flatMap
      ServicePlan.components).filterMap Component.connectorEntry, e'.1 = e.1 → e'.2 = e.2 := by
    intro e' he' hkey
    rw [List.filterMap_flatMap] at he'
    obtain ⟨plan, hplan, he'⟩ := List.mem_flatMap.mp he'
    have hrouter := mem_routers_of_plan lib opts pipelines hplan he'
    exact congrArg Prod.snd (List.inj_on_of_nodup_map (routers_nodup pipelines) hrouter he hkey)
  have hlookup := lookup_foldl_connect _ newConfig.connectors hagree (by simp [newConfig])
  have hkey : e.1 ∈ (((servicePlans lib opts pipelines).flatMap
      ServicePlan.components).filterMap Component.connectorEntry).map Prod.fst := by
    rw [List.filterMap_flatMap, List.map_flatMap]
    exact List.mem_flatMap.mpr hregistered
  rw [hadded.connectors, hlookup, if_pos hkey]

variable {input : PullInput}

theorem inputRouter_registered (hused : input.isUsed pipelines) :
    s.config.connectors.lookup input.routerID =
      some (inputRoutingConnector (input.outputs pipelines)) := by
  refine lookup_router hadded
    (e := (input.routerID, inputRoutingConnector (input.outputs pipelines)))
    (List.mem_cons_of_mem _ (List.mem_map.mpr ⟨input, by simp, rfl⟩)) ?_
  refine ⟨_, inputPlan_mem hused, ?_⟩
  cases input <;> exact List.mem_cons_self

theorem enrichmentRouter_registered :
    s.config.connectors.lookup componentIDEnrichmentRoutingConnector =
      some (enrichmentRouter pipelines) := by
  refine lookup_router hadded (e := (componentIDEnrichmentRoutingConnector, _))
    List.mem_cons_self ⟨_, enrichmentPlan_mem, ?_⟩
  refine List.mem_map.mpr ⟨_, List.mem_filterMap.mpr ⟨addExporterForEnrichmentRouter
    (getPipelinesWithRuntimeInput pipelines) (getPipelinesWithPrometheusInput pipelines)
    (getPipelinesWithIstioInput pipelines), ?_, rfl⟩, rfl⟩
  simp [enrichmentPlan]

theorem exporter_not_connector (mp : MetricPipeline) :
    componentIDOTLPExporter mp.output.protocol (metricPipelineRef mp) ∉ s.config.connectors := by
  intro hk
  have hkeys := mem_routers_of_connector hadded hk
  have hfirst : ∀ k ∈ (routers pipelines).map Prod.fst, k.toList.take 1 = ['r'] := by
    rw [routers_keys]
    decide
  have ho : (componentIDOTLPExporter mp.output.protocol (metricPipelineRef mp)).toList.take 1 =
      ['o'] := by
    cases mp.output.protocol <;> simp [componentIDOTLPExporter, String.toList_append]
  rw [hfirst _ hkeys] at ho
  cases ho

theorem receiver_not_connector {id : String} (hid : id ∈ receiverIDs) :
    id ∉ s.config.connectors := by
  intro hk
  have hkeys := mem_routers_of_connector hadded hk
  rw [routers_keys] at hkeys
  have hnone : ∀ id ∈ receiverIDs,
      id ∉ componentIDEnrichmentRoutingConnector :: pullInputs.map routerID := by
    decide
  exact hnone id hid hkeys

variable (hnames : (pipelines.map (·.name)).Nodup)

include hnames

theorem lookup_pipeline_iff {id : String} {sp : ServicePipeline} :
    s.config.pipelines.lookup id = some sp ↔
      ∃ plan ∈ servicePlans lib opts pipelines, plan.id = id ∧ plan.servicePipeline = sp := by
  rw [hadded.pipelines]
  exact installed_eq_some_iff (servicePlans_ids_nodup lib opts pipelines hnames) id sp

omit hadded hnames in
/-- The stage of a node: input, router behind it, enrichment, router behind it, output. -/
def stage : ServiceNode → Nat
  | .pipeline id =>
    if id ∈ pullInputs.map servicePipelineID then 0
    else if id = enrichmentServicePipelineID then 2 else 4
  | .connector c => if c = componentIDEnrichmentRoutingConnector then 3 else 1

omit hadded hnames in
theorem stage_input (input : PullInput) : stage (.pipeline input.servicePipelineID) = 0 := by
  cases input <;> decide

omit hadded hnames in
theorem stage_inputRouter (input : PullInput) : stage (.connector input.routerID) = 1 := by
  cases input <;> decide

omit hadded hnames in
theorem stage_output (mp : MetricPipeline) :
    stage (.pipeline (formatOutputMetricServicePipelineID mp)) = 4 := by
  have hinput : formatOutputMetricServicePipelineID mp ∉
      pullInputs.map servicePipelineID := fun h =>
    output_ne_shared mp (List.mem_append_left _ h) rfl
  have henrichment : formatOutputMetricServicePipelineID mp ≠ enrichmentServicePipelineID :=
    output_ne_shared mp (List.mem_append_right _ (by simp))
  simp [stage, hinput, henrichment]

theorem stage_lt_of_edge {a b : ServiceNode} (hedge : Edge s.config a b) : stage a < stage b := by
  cases hedge with
  | exports hsp hc hconnector =>
    obtain ⟨plan, hplan, rfl, rfl⟩ := (lookup_pipeline_iff hadded hnames).mp hsp
    rcases mem_servicePlans_iff.mp hplan with ⟨input, _, rfl⟩ | rfl | ⟨mp, _, rfl⟩
    · rw [inputPlan_exporters, List.mem_singleton] at hc
      rw [hc, inputPlan_id, stage_input, stage_inputRouter]
      decide
    · rw [enrichmentPlan_exporters, List.mem_singleton] at hc
      rw [hc]
      exact (by decide : stage (.pipeline enrichmentServicePipelineID) <
        stage (.connector componentIDEnrichmentRoutingConnector))
    · rw [outputPlan_exporters, List.mem_singleton] at hc
      exact absurd (hc ▸ hconnector) (exporter_not_connector hadded mp)
  | receives hsp hc hconnector =>
    obtain ⟨plan, hplan, rfl, rfl⟩ := (lookup_pipeline_iff hadded hnames).mp hsp
    rcases mem_servicePlans_iff.mp hplan with ⟨input, _, rfl⟩ | rfl | ⟨mp, _, rfl⟩
    · exact absurd hconnector (receiver_not_connector hadded (mem_receiverIDs_of_inputPlan hc))
    · obtain ⟨input, _, rfl⟩ := mem_enrichmentPlan_receivers_iff.mp hc
      rw [stage_inputRouter]
      exact (by decide : 1 < stage (.pipeline enrichmentServicePipelineID))
    · have houtput : stage (.pipeline (outputPlan lib opts pipelines mp).id) = 4 := stage_output mp
      rw [houtput]
      rcases mem_outputPlan_receivers_iff.mp hc with ⟨_, rfl⟩ | ⟨input, _, rfl⟩
      · decide
      · rw [stage_inputRouter]
        decide

theorem acyclic_of_added : Acyclic s.config :=
  Delivery.acyclic_of_rank fun _ _ => stage_lt_of_edge hadded hnames

theorem lookup_of_plan {plan : ServicePlan} (hplan : plan ∈ servicePlans lib opts pipelines) :
    s.config.pipelines.lookup plan.id = some plan.servicePipeline :=
  (lookup_pipeline_iff hadded hnames).mpr ⟨plan, hplan, rfl, rfl⟩

theorem lookup_enrichment : s.config.pipelines.lookup enrichmentServicePipelineID =
    some (enrichmentPlan opts pipelines).servicePipeline :=
  lookup_of_plan hadded hnames enrichmentPlan_mem

variable {mp : MetricPipeline}

theorem lookup_output (hmp : mp ∈ pipelines) :
    s.config.pipelines.lookup (formatOutputMetricServicePipelineID mp) =
      some (outputPlan lib opts pipelines mp).servicePipeline :=
  lookup_of_plan hadded hnames (outputPlan_mem hmp)

theorem listens_output (hmp : mp ∈ pipelines) (henabled : input.isEnabled mp.input) :
    listens s.config input.routerID (formatOutputMetricServicePipelineID mp) ∧
      listens s.config componentIDEnrichmentRoutingConnector
        (formatOutputMetricServicePipelineID mp) := by
  have hused : input.isUsed pipelines := List.any_eq_true.mpr ⟨mp, hmp, henabled⟩
  simp only [listens, lookup_output hadded hnames hmp, Option.any_some, decide_eq_true_eq]
  exact ⟨mem_outputPlan_receivers_iff.mpr (.inr ⟨input, henabled, rfl⟩),
    mem_outputPlan_receivers_iff.mpr (.inl ⟨⟨input, hused⟩, rfl⟩)⟩

theorem listens_outputs (input : PullInput) :
    (∀ id ∈ input.outputs pipelines, listens s.config input.routerID id) ∧
      ∀ id ∈ input.outputs pipelines,
        listens s.config componentIDEnrichmentRoutingConnector id := by
  constructor <;> intro id hid <;> obtain ⟨mp, hmp, rfl⟩ := List.mem_map.mp hid <;>
    obtain ⟨hmp, henabled⟩ := List.mem_filter.mp hmp
  · exact (listens_output hadded hnames hmp henabled).1
  · exact (listens_output hadded hnames hmp henabled).2

end Built

def nodesPipeline : MetricPipeline where
  name := "nodes"
  input := { runtime := some { enabled := some true } }
  output := Gateway.sampleOutput
  temporality := some .preserve

def appsPipeline : MetricPipeline where
  name := "apps"
  input := { prometheus := some { enabled := some true } }
  output := Gateway.sampleOutput
  temporality := some .delta

end TelemetryManager.MetricAgent
