import TelemetryManager.MetricAgentFilters
import TelemetryManager.MetricAgentProcessors

/-! What arrives at the outputs of the metric agent.
The processors of an input put its name on every datapoint. Behind the enrichment, the datapoint is
routed by this name. -/
namespace TelemetryManager.MetricAgent

open Collector Interaction MetricPipelineUtils OtlpExporter Ottl RuntimeMetrics

def routingConditions : List Condition :=
  .attributeEquals skipEnrichmentAttribute "true" ::
    pullInputs.map fun input => .inputNameEquals input.source

/-- The collector takes a route as its condition is meant. -/
def Routes (engine : Engine) (c : Condition) : Prop :=
  ∀ d, engine ("route() where " ++ c.text) d = c.holds d

def enrichmentStatements : List String :=
  (dropUnknownServiceNameProcessorStatements ++
    restoreOtelServiceAnnotationsProcessorStatements).flatMap (·.statements)

def enrichers (opts : BuildOptions) : List ProcessorConfig :=
  [.k8sAttributes (k8sAttributesProcessor opts.enrichments (useOTelServiceEnrichment opts)),
   resolveServiceName]

def inputNameOf (d : Datapoint) : Option String := d.resourceAttribute kymaInputNameAttribute

/-- The collector does what the texts on the way of a datapoint say, and an enrichment keeps a name
of the input that is set. -/
structure Understands (m : Machine) (opts : BuildOptions) : Prop where
  routes : ∀ c ∈ routingConditions, Routes m.engine c
  sets : ∀ (input : PullInput) (d : Datapoint), inputNameOf
    (m.statement (setResourceAttribute kymaInputNameAttribute input.source.text) d) =
      some input.source.text
  statements : ∀ text ∈ enrichmentStatements, ∀ d, inputNameOf (m.statement text d) = inputNameOf d
  own : ∀ c ∈ enrichers opts, ∀ d name, name ≠ "" → inputNameOf d = some name →
    ∃ d', m.own c d = some d' ∧ inputNameOf d' = some name

section Built

variable {lib : ExporterLib} {opts : BuildOptions} {pipelines : List MetricPipeline}
    {s : BuildState}
  (hadded : PlansAdded (servicePlans lib opts pipelines) ⟨newConfig, ∅⟩ s)

include hadded

theorem lookup_registered {e : String × ProcessorConfig}
    (he : e ∈ (servicePlans lib opts pipelines).flatMap ServicePlan.processors)
    (hagree : ∀ e', Origin opts pipelines e' → e.1 = e'.1 → e.2 = e'.2) :
    s.config.processors.lookup e.1 = some e.2 := by
  rw [hadded.processors]
  refine Registry.lookup_registerAll_of_agree he fun e' he' => ?_
  obtain ⟨plan', hplan', hmem⟩ := List.mem_flatMap.mp he'
  exact hagree e' (origin_of_plan lib hplan' hmem)

variable (hnames : (pipelines.map (·.name)).Nodup) (m : Machine)

include hnames

/-- The processors of the inputs and of the enrichment are those that were configured for them. -/
theorem processed_shared {plan : ServicePlan} (hplan : plan ∈ servicePlans lib opts pipelines)
    (hshared : plan ∈ pullInputs.map (PullInput.plan opts pipelines) ++
      [enrichmentPlan opts pipelines]) (d : Datapoint) :
    processed m s.config plan.id d = (plan.processors.map Prod.snd).foldlM m.process d := by
  have hlookup : ∀ e ∈ plan.processors, s.config.processors.lookup e.1 = some e.2 := by
    intro e he
    refine lookup_registered hadded (List.mem_flatMap.mpr ⟨plan, hplan, he⟩) fun e' he' hkey => ?_
    obtain ⟨c, hc, hentry⟩ := List.mem_filterMap.mp he
    rcases shared_component hshared hc with hnone | hstatic
    · rw [hnone] at hentry
      cases hentry
    · exact he'.agree_static (mem_entries_of hstatic hentry) hkey
  have hconfigs : (plan.processors.map Prod.fst).filterMap s.config.processors.lookup =
      plan.processors.map Prod.snd := by
    rw [List.filterMap_map, ← List.filterMap_eq_map]
    exact List.filterMap_congr hlookup
  simp only [processed, lookup_of_plan hadded hnames hplan, Option.map_some, Option.getD_some,
    plan.servicePipeline_processors, hconfigs]

omit hadded hnames in
theorem inputPlan_processors (input : PullInput) :
    ∃ front, (input.plan opts pipelines).processors = front ++ [(inputName input.source,
      metricTransformProcessor (kymaInputNameProcessorStatements input.source))] := by
  have hsplit : (input.plan opts pipelines).components =
      (input.plan opts pipelines).components.dropLast.dropLast ++
        [addSetKymaInputNameProcessor input.source,
         addExporterForInputRouter input.routerID (input.pipelines pipelines)] := by
    cases input <;> rfl
  exact ⟨_, (congrArg entries hsplit).trans List.filterMap_append⟩

variable (hunderstands : Understands m opts) {input : PullInput} {d d' : Datapoint}

include hunderstands

/-- The last processor of an input sets its name. -/
theorem inputNameOf_processed (hused : input.isUsed pipelines)
    (h : processed m s.config input.servicePipelineID d = some d') :
    inputNameOf d' = some input.source.text := by
  obtain ⟨front, hprocessors⟩ := @inputPlan_processors opts pipelines input
  rw [← inputPlan_id opts pipelines, processed_shared hadded hnames m (inputPlan_mem hused)
    (List.mem_append_left _ (List.mem_map_of_mem (mem_pullInputs input))), hprocessors,
    List.map_append, List.foldlM_append] at h
  obtain ⟨e, -, he⟩ := Option.bind_eq_some_iff.mp h
  cases he
  exact hunderstands.sets input e

omit hadded hnames in
theorem inputNameOf_execute {group : TransformProcessorStatements}
    (h : ∀ text ∈ group.statements, text ∈ enrichmentStatements) :
    inputNameOf (m.execute d group) = inputNameOf d := by
  have hfold : ∀ texts : List String, (∀ text ∈ texts, text ∈ enrichmentStatements) → ∀ d,
      inputNameOf (texts.foldl (fun d text => m.statement text d) d) = inputNameOf d := by
    intro texts htexts
    induction texts with
    | nil => exact fun d => rfl
    | cons text texts ih =>
      intro d
      obtain ⟨htext, htexts⟩ := List.forall_mem_cons.mp htexts
      rw [List.foldl_cons, ih htexts, hunderstands.statements text htext]
  unfold Machine.execute
  split
  · exact hfold _ h d
  · rfl

omit hadded hnames in
theorem process_enrichment {e : String × ProcessorConfig}
    (he : e ∈ (enrichmentPlan opts pipelines).processors) {name : String} (hname : name ≠ "")
    (hd : inputNameOf d = some name) :
    ∃ d', m.process d e.2 = some d' ∧ inputNameOf d' = some name := by
  have hgroup : ∀ group ∈ dropUnknownServiceNameProcessorStatements ++
      restoreOtelServiceAnnotationsProcessorStatements,
      ∃ d', m.process d (metricTransformProcessor [group]) = some d' ∧
        inputNameOf d' = some name := by
    intro group hgroup
    refine ⟨m.execute d group, rfl, ?_⟩
    rw [inputNameOf_execute m hunderstands, hd]
    exact fun text htext => List.mem_flatMap.mpr ⟨group, hgroup, htext⟩
  obtain ⟨c, hc, hentry⟩ := List.mem_filterMap.mp he
  simp only [enrichmentPlan, List.mem_cons, List.not_mem_nil, or_false] at hc
  rcases hc with rfl | rfl | rfl | rfl | rfl | rfl | rfl | rfl
  -- the receivers, and the exporter at the end, are no processors
  · cases hentry
  · cases hentry
  · cases hentry
  · unfold addDropUnknownServiceNameProcessor at hentry
    split at hentry <;> cases hentry
    exact hgroup _ (.head _)
  · cases hentry
    exact hunderstands.own _ (.head _) d name hname hd
  · unfold addRestoreOtelServiceAttrsProcessor at hentry
    split at hentry <;> cases hentry
    exact hgroup _ (.tail _ (.head _))
  · unfold addServiceEnrichmentProcessor at hentry
    split at hentry <;> cases hentry
    exact hunderstands.own _ (.tail _ (.head _)) d name hname hd
  · cases hentry

theorem exists_enriched {name : String} (hname : name ≠ "") (hd : inputNameOf d = some name) :
    ∃ d', processed m s.config enrichmentServicePipelineID d = some d' ∧
      inputNameOf d' = some name := by
  have hall : ∀ l : List (String × ProcessorConfig),
      (∀ e ∈ l, e ∈ (enrichmentPlan opts pipelines).processors) → ∀ d, inputNameOf d = some name →
        ∃ d', (l.map Prod.snd).foldlM m.process d = some d' ∧ inputNameOf d' = some name := by
    intro l hl
    induction l with
    | nil => exact fun d hd => ⟨d, rfl, hd⟩
    | cons e l ih =>
      intro d hd
      obtain ⟨he, hl⟩ := List.forall_mem_cons.mp hl
      obtain ⟨d₁, hd₁, hname₁⟩ := process_enrichment m hunderstands he hname hd
      rw [List.map_cons, List.foldlM_cons, hd₁]
      exact ih hl d₁ hname₁
  have hshared := processed_shared hadded hnames m enrichmentPlan_mem
    (List.mem_append_right _ (List.mem_singleton_self _)) d
  rw [show enrichmentServicePipelineID = (enrichmentPlan opts pipelines).id from rfl, hshared]
  exact hall _ (fun _ he => he) d hd

omit hunderstands in
theorem deliveries_output {id : String} (hid : id ∈ formatOutputPipelineIDs pipelines)
    (d : Datapoint) : deliveries m s.config (id, d) = [] := by
  obtain ⟨mp, hmp, rfl⟩ := List.mem_map.mp hid
  have hexporter := AList.lookup_eq_none.mpr (exporter_not_connector hadded mp)
  cases hd' : processed m s.config (formatOutputMetricServicePipelineID mp) d <;>
    simp [deliveries, lookup_output hadded hnames hmp, hd', outputPlan_exporters, connectorTargets,
      hexporter]

/-- Behind its input a datapoint goes to the enrichment, or to the outputs if it skips that. -/
theorem deliveries_input (hused : input.isUsed pipelines)
    (h : processed m s.config input.servicePipelineID d = some d') :
    deliveries m s.config (input.servicePipelineID, d) =
      (if d'.resourceAttribute skipEnrichmentAttribute = some "true" then input.outputs pipelines
        else [enrichmentServicePipelineID]).map (·, d') := by
  have hlookup : s.config.pipelines.lookup input.servicePipelineID =
      some (input.plan opts pipelines).servicePipeline := by
    rw [← inputPlan_id opts pipelines]
    exact lookup_of_plan hadded hnames (inputPlan_mem hused)
  have henrichment : listens s.config input.routerID enrichmentServicePipelineID := by
    have hmem := (@mem_enrichmentPlan_receivers_iff opts _ _).mpr ⟨input, hused, rfl⟩
    simp [listens, lookup_enrichment hadded hnames, hmem]
  have hroute : m.engine ("route() where attributes[\"" ++ skipEnrichmentAttribute ++
      "\"] == \"true\"") d' = decide (d'.resourceAttribute skipEnrichmentAttribute = some "true") :=
    hunderstands.routes (.attributeEquals skipEnrichmentAttribute "true") List.mem_cons_self d'
  simp only [deliveries, hlookup, h, inputPlan_exporters, List.flatMap_cons, List.flatMap_nil,
    List.append_nil, connectorTargets, inputRouter_registered hadded hused, inputRoutingConnector]
  by_cases hskip : d'.resourceAttribute skipEnrichmentAttribute = some "true"
  · simp only [hroute, hskip, decide_true, List.find?_cons_of_pos, if_true]
    rw [List.filter_eq_self.mpr (listens_outputs hadded hnames input).1]
  · simp [hroute, hskip, henrichment]

omit hadded hnames in
/-- Of the routes behind the enrichment a datapoint matches that of its input. -/
theorem find?_enrichmentRoutes (hd : inputNameOf d = some input.source.text)
    (inputs : List PullInput) :
    (inputs.flatMap (enrichmentRoute pipelines)).find? (fun entry => m.engine entry.statement d) =
      if input ∈ inputs ∧ input.pipelines pipelines ≠ [] then
        some (enrichmentRoutingConnectorTableEntry (input.pipelines pipelines)
          (kymaInputNameEquals input.source))
      else none := by
  have hroute : ∀ i : PullInput, m.engine ("route() where " ++ kymaInputNameEquals i.source) d =
      decide (i = input) := by
    intro i
    have hmem : Condition.inputNameEquals i.source ∈ routingConditions :=
      List.mem_cons_of_mem _ (List.mem_map.mpr ⟨i, by simp, rfl⟩)
    have htext : input.source.text = i.source.text ↔ i = input := by
      cases i <;> cases input <;> decide
    rw [inputNameOf] at hd
    rw [show m.engine ("route() where " ++ kymaInputNameEquals i.source) d =
      (Condition.inputNameEquals i.source).holds d from hunderstands.routes _ hmem d]
    unfold Condition.holds
    simp [hd, htext]
  induction inputs with
  | nil => simp
  | cons i inputs ih =>
    rw [List.flatMap_cons, List.find?_append, ih, enrichmentRoute]
    by_cases hempty : i.pipelines pipelines = []
    · by_cases hi : input = i
      · simp [hi, hempty]
      · simp [hi, hempty]
    · unfold enrichmentRoutingConnectorTableEntry
      by_cases hi : input = i
      · subst hi
        simp [hempty, hroute]
      · simp [hi, Ne.symm hi, hempty, hroute]

theorem exists_deliveries_enrichment (hd : inputNameOf d = some input.source.text) :
    ∃ d', deliveries m s.config (enrichmentServicePipelineID, d) =
      (input.outputs pipelines).map (·, d') := by
  have htext : input.source.text ≠ "" := by cases input <;> decide
  obtain ⟨d', hprocessed, hd'⟩ := exists_enriched hadded hnames m hunderstands htext hd
  refine ⟨d', ?_⟩
  have hfind : (pullInputs.flatMap (enrichmentRoute pipelines)).find?
      (fun entry => m.engine entry.statement d') = _ :=
    find?_enrichmentRoutes m hunderstands hd' pullInputs
  simp only [deliveries, lookup_enrichment hadded hnames, hprocessed, enrichmentPlan_exporters,
    List.flatMap_cons, List.flatMap_nil, List.append_nil, connectorTargets,
    enrichmentRouter_registered hadded, enrichmentRouter_eq, hfind, mem_pullInputs, true_and]
  by_cases hempty : input.pipelines pipelines = []
  · simp [hempty, PullInput.outputs, formatOutputPipelineIDs]
  · rw [if_pos hempty]
    exact congrArg (List.map (·, d'))
      (List.filter_eq_self.mpr (listens_outputs hadded hnames input).2)

omit hunderstands in
theorem deliveries_unused (hunused : input.isUsed pipelines = false) :
    deliveries m s.config (input.servicePipelineID, d) = [] := by
  cases hlookup : s.config.pipelines.lookup input.servicePipelineID with
  | none => simp [deliveries, hlookup]
  | some sp =>
    obtain ⟨plan, hplan, hid, rfl⟩ := (lookup_pipeline_iff hadded hnames).mp hlookup
    have hshared : input.servicePipelineID ∈ sharedIDs :=
      List.mem_append_left _ (List.mem_map_of_mem (by simp))
    rcases mem_servicePlans_iff.mp hplan with ⟨input', hused, rfl⟩ | rfl | ⟨mp, _, rfl⟩
    · rw [inputPlan_id] at hid
      have hsame : input' = input := by cases input' <;> cases input <;> revert hid <;> decide
      rw [hsame, hunused] at hused
      cases hused
    · have hne : enrichmentServicePipelineID ≠ input.servicePipelineID := by
        cases input <;> decide
      exact absurd hid hne
    · exact absurd hid (output_ne_shared mp hshared)

variable {mp : MetricPipeline}

omit hadded hunderstands in
/-- Among the outputs with an input that of a pipeline occurs once if the pipeline has the input. -/
theorem count_outputs (hmp : mp ∈ pipelines) (input : PullInput) (d : Datapoint) :
    ((input.outputs pipelines).map (·, d)).countP (isAt (formatOutputMetricServicePipelineID mp)) =
      if input.isEnabled mp.input then 1 else 0 := by
  have hnodup : (input.outputs pipelines).Nodup :=
    formatOutput_nodup (hnames.sublist (List.filter_sublist.map _))
  have hmem : formatOutputMetricServicePipelineID mp ∈ input.outputs pipelines ↔
      input.isEnabled mp.input := by
    constructor
    · intro h
      obtain ⟨mp', hmp', hid⟩ := List.mem_map.mp h
      obtain ⟨hmp', henabled⟩ := List.mem_filter.mp hmp'
      have hname : mp'.name = mp.name := (String.append_right_inj _).mp hid
      rwa [List.inj_on_of_nodup_map hnames hmp' hmp hname] at henabled
    · exact fun henabled => List.mem_map_of_mem (List.mem_filter.mpr ⟨hmp, henabled⟩)
  rw [List.countP_map]
  by_cases henabled : input.isEnabled mp.input
  · rw [if_pos henabled, ← List.count_eq_one_of_mem hnodup (hmem.mpr henabled)]
    rfl
  · rw [if_neg henabled, ← List.count_eq_zero.mpr fun h => henabled (hmem.mp h)]
    rfl

/-- A datapoint of an input arrives once at the outputs with the input and at no other output,
either through the enrichment or past it. -/
theorem arrivals_of_added (hmp : mp ∈ pipelines) (hops : Nat) :
    Delivery.arrivals (deliveries m s.config) (isAt (formatOutputMetricServicePipelineID mp))
      (hops + 2) (input.servicePipelineID, d) =
        if input.isEnabled mp.input ∧ (processed m s.config input.servicePipelineID d).isSome then 1
        else 0 := by
  have hlast : ∀ d, ∀ node ∈ (input.outputs pipelines).map (·, d),
      deliveries m s.config node = [] := by
    intro d
    rw [List.forall_mem_map]
    intro id hid
    obtain ⟨mp', hmp', rfl⟩ := List.mem_map.mp hid
    exact deliveries_output hadded hnames m (List.mem_map_of_mem (List.mem_filter.mp hmp').1) d
  have hshared : ∀ id ∈ sharedIDs, ∀ d,
      isAt (formatOutputMetricServicePipelineID mp) (id, d) = false :=
    fun id hid d => decide_eq_false (output_ne_shared mp hid).symm
  rw [Delivery.arrivals_succ_of_not
    (hshared _ (List.mem_append_left _ (List.mem_map_of_mem (mem_pullInputs input))) d)]
  cases hused : input.isUsed pipelines with
  | false =>
    rw [deliveries_unused hadded hnames m hused]
    have hdisabled : ¬ input.isEnabled mp.input := fun henabled => by
      simp [PullInput.isUsed] at hused
      simp [hused mp hmp] at henabled
    simp [hdisabled]
  | true =>
    cases hd' : processed m s.config input.servicePipelineID d with
    | none => simp [deliveries, hd']
    | some d' =>
      rw [deliveries_input hadded hnames m hunderstands hused hd']
      simp only [Option.isSome_some, and_true]
      split
      · rw [Delivery.sum_arrivals_of_last (hlast d'), count_outputs hnames hmp]
      · obtain ⟨d'', hd''⟩ := exists_deliveries_enrichment hadded hnames m hunderstands
          (inputNameOf_processed hadded hnames m hunderstands hused hd')
        rw [List.map_singleton, List.map_singleton, List.sum_singleton,
          Delivery.arrivals_succ_of_not (hshared _ (List.mem_append_right _ (.head _)) d'), hd'',
          Delivery.sum_arrivals_of_last (hlast d''), count_outputs hnames hmp]

end Built

/-- The service pipelines and connectors of a built configuration have no cycle. A datapoint that an
input lets pass arrives exactly once at the output of every pipeline that has the input enabled and
never at another output; it is handed on to outputs or to the enrichment, not to both. -/
theorem datapoint_reaches_outputs_once (lib : ExporterLib) (opts : BuildOptions)
    (pipelines : List MetricPipeline) (answer : ApiTable) (s : BuildState)
    (hbuild : evalE answer (build lib opts pipelines) = .ok s)
    (hnames : (pipelines.map (·.name)).Nodup) (m : Machine) (hunderstands : Understands m opts) :
    Acyclic s.config ∧
    ∀ (input : PullInput) (d : Datapoint), ∀ mp ∈ pipelines,
      (∀ hops, 2 ≤ hops →
        Delivery.arrivals (deliveries m s.config) (isAt (formatOutputMetricServicePipelineID mp))
          hops (input.servicePipelineID, d) =
            if input.isEnabled mp.input ∧ (processed m s.config input.servicePipelineID d).isSome
            then 1 else 0) ∧
      ¬ (formatOutputMetricServicePipelineID mp ∈
            (deliveries m s.config (input.servicePipelineID, d)).map Prod.fst ∧
          enrichmentServicePipelineID ∈
            (deliveries m s.config (input.servicePipelineID, d)).map Prod.fst) := by
  have hadded := (build_returns lib opts pipelines).eval hbuild
  have hsorted := nodup_sortPipelinesByName hnames
  refine ⟨acyclic_of_added hadded hsorted, fun input d mp hmp => ⟨fun hops hhops => ?_, ?_⟩⟩
  · obtain ⟨n, rfl⟩ := Nat.exists_eq_add_of_le' hhops
    exact arrivals_of_added hadded hsorted m hunderstands (mem_sortPipelinesByName.mpr hmp) n
  · rintro ⟨houtput, henrichment⟩
    cases hused : input.isUsed (sortPipelinesByName pipelines) with
    | false =>
      rw [deliveries_unused hadded hsorted m hused] at houtput
      cases houtput
    | true =>
      cases hd' : processed m s.config input.servicePipelineID d with
      | none => simp [deliveries, hd'] at houtput
      | some d' =>
        have hplaces := deliveries_input hadded hsorted m hunderstands hused hd'
        rw [hplaces, List.map_map] at houtput henrichment
        have hne := fun mp => output_ne_shared mp (List.mem_append_right _ (.head _))
        split at houtput
        · rw [if_pos ‹_›] at henrichment
          obtain ⟨_, hid, rfl⟩ := List.mem_map.mp henrichment
          obtain ⟨mp', _, hid⟩ := List.mem_map.mp hid
          exact hne mp' hid
        · exact hne mp (List.mem_singleton.mp houtput)

def nameTexts : List (String × String) :=
  pullInputs.map fun input =>
    (setResourceAttribute kymaInputNameAttribute input.source.text, input.source.text)

/-- A collector that knows the routes and the names of the inputs and leaves everything else as it
is. -/
def plainMachine : Machine where
  engine := Engine.knowing (fun c => "route() where " ++ c.text) routingConditions
  statement := fun text d =>
    match nameTexts.lookup text with
    | some name => { d with resourceAttribute := fun key =>
        if key = kymaInputNameAttribute then some name else d.resourceAttribute key }
    | none => d
  own := fun _ d => some d

theorem plainMachine_understands (opts : BuildOptions) : Understands plainMachine opts where
  routes := fun c hc d => Engine.knowing_eq_holds (by decide) hc d
  sets := by
    intro input d
    have hlookup : nameTexts.lookup (setResourceAttribute kymaInputNameAttribute
        input.source.text) = some input.source.text := by cases input <;> decide +kernel
    simp [plainMachine, hlookup, inputNameOf]
  statements := by
    intro text htext d
    have hlookup : ∀ text ∈ enrichmentStatements, nameTexts.lookup text = none := by decide +kernel
    simp [plainMachine, hlookup text htext]
  own := fun c _ d name _ hd => ⟨d, rfl, hd⟩

def podDatapoint : Datapoint where
  metricName := "k8s.pod.cpu.usage"
  resourceAttribute := fun _ => none

/-- A pod metric arrives, through the enrichment, once at the pipeline with the runtime input and
not at the other. -/
theorem pod_metric_reaches_nodes_once :
    ∃ s, evalE Gateway.noObjects
        (build Gateway.sampleExporterLib {} [nodesPipeline, appsPipeline]) = .ok s ∧
      Acyclic s.config ∧
      Delivery.arrivals (deliveries plainMachine s.config) (isAt "metrics/output-nodes") 2
        ("metrics/input-runtime", podDatapoint) = 1 ∧
      Delivery.arrivals (deliveries plainMachine s.config) (isAt "metrics/output-apps") 2
        ("metrics/input-runtime", podDatapoint) = 0 := by
  obtain ⟨s, hbuild⟩ := exists_evalE_eq Gateway.noObjects
    (x := build Gateway.sampleExporterLib {} [nodesPipeline, appsPipeline]) rfl
  obtain ⟨hacyclic, hdelivered⟩ := datapoint_reaches_outputs_once _ _ _ _ s hbuild (by decide)
    plainMachine (plainMachine_understands {})
  have hpod := hdelivered .runtime podDatapoint
  have hpasses : (processed plainMachine s.config "metrics/input-runtime" podDatapoint).isSome := by
    have hshared := processed_shared ((build_returns _ _ _).eval hbuild) (by decide) plainMachine
      (mem_servicePlans_iff.mpr (.inl ⟨.runtime, by decide, rfl⟩))
      (by simp [pullInputs]) podDatapoint
    exact (congrArg Option.isSome hshared).trans (by decide +kernel)
  refine ⟨s, hbuild, hacyclic, ?_, ?_⟩
  · exact ((hpod nodesPipeline (by simp)).1 2 (Nat.le_refl 2)).trans (if_pos ⟨rfl, hpasses⟩)
  · exact ((hpod appsPipeline (by simp)).1 2 (Nat.le_refl 2)).trans
      (if_neg fun h => absurd h.1 (by decide))

end TelemetryManager.MetricAgent
