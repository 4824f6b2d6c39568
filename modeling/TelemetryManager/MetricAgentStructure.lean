import TelemetryManager.GatewayStructure
import TelemetryManager.MetricAgentRouting

/-! When the metric agent defines what its service uses and nothing else. -/
namespace TelemetryManager.MetricAgent

open Collector Interaction OtlpExporter

section Plans

variable (lib : ExporterLib) (opts : BuildOptions) (pipelines : List MetricPipeline)
  {input : PullInput} (hused : input.isUsed pipelines)

include hused

/-- A router is at the end of one service pipeline and at the start of another. -/
theorem servicePlans_connected {id : String} (hid : isConnector id) :
    (∃ plan ∈ servicePlans lib opts pipelines, id ∈ plan.servicePipeline.receivers) ↔
      ∃ plan ∈ servicePlans lib opts pipelines, id ∈ plan.servicePipeline.exporters := by
  constructor <;> rintro ⟨plan, hplan, hmem⟩ <;>
    rcases mem_servicePlans_iff.mp hplan with ⟨input', hused', rfl⟩ | rfl | ⟨mp, hmp, rfl⟩
  · have hnone : ∀ id ∈ receiverIDs, isConnector id = false := by decide
    rw [hnone id (mem_receiverIDs_of_inputPlan hmem)] at hid
    cases hid
  · obtain ⟨input', hused', rfl⟩ := mem_enrichmentPlan_receivers_iff.mp hmem
    exact ⟨_, inputPlan_mem hused', by simp [inputPlan_exporters]⟩
  · rcases mem_outputPlan_receivers_iff.mp hmem with ⟨-, rfl⟩ | ⟨input', henabled, rfl⟩
    · exact ⟨_, enrichmentPlan_mem, by simp [enrichmentPlan_exporters]⟩
    · exact ⟨_, inputPlan_mem (List.any_eq_true.mpr ⟨mp, hmp, henabled⟩),
        by simp [inputPlan_exporters]⟩
  · rw [inputPlan_exporters, List.mem_singleton] at hmem
    exact ⟨_, enrichmentPlan_mem, mem_enrichmentPlan_receivers_iff.mpr ⟨input', hused', hmem⟩⟩
  · rw [enrichmentPlan_exporters, List.mem_singleton] at hmem
    obtain ⟨mp, hmp, -⟩ := List.any_eq_true.mp hused
    exact ⟨_, outputPlan_mem hmp, mem_outputPlan_receivers_iff.mpr (.inl ⟨⟨input, hused⟩, hmem⟩)⟩
  · rw [outputPlan_exporters, List.mem_singleton] at hmem
    rw [hmem, Gateway.isConnector_otlpExporter] at hid
    cases hid

theorem servicePlans_coherent : CoherentPlans (servicePlans lib opts pipelines) := by
  refine ⟨fun plan hplan => List.forall_iff_forall_mem.mp ?_,
    fun id => servicePlans_connected lib opts pipelines hused, fun plan hplan => ?_⟩ <;>
    rcases mem_servicePlans_iff.mp hplan with ⟨input', -, rfl⟩ | rfl | ⟨mp, -, rfl⟩
  · cases input' <;> and_intros <;> trivial
  · and_intros <;> trivial
  · simp only [outputPlan, addReceiverForEnrichmentRouter, addCumulativeToDeltaProcessor]
    rcases mp.temporality with _ | (_ | _) <;> and_intros <;>
      first | trivial | decide | exact Gateway.isConnector_otlpExporter _ _
  · rw [inputPlan_exporters, ServicePlan.servicePipeline_receivers]
    refine ⟨?_, List.cons_ne_nil _ _⟩
    cases input' <;> exact List.cons_ne_nil _ _
  · rw [enrichmentPlan_exporters]
    exact ⟨List.ne_nil_of_mem (mem_enrichmentPlan_receivers_iff.mpr ⟨input, hused, rfl⟩),
      List.cons_ne_nil _ _⟩
  · rw [outputPlan_exporters]
    exact ⟨List.ne_nil_of_mem (mem_outputPlan_receivers_iff.mpr
      (.inl ⟨⟨input, hused⟩, rfl⟩)), List.cons_ne_nil _ _⟩

end Plans

/-- The metric agent defines what its service uses and nothing else exactly if some pipeline has one
of the inputs enabled. -/
theorem agent_config_coherent_iff (lib : ExporterLib) (opts : BuildOptions)
    (pipelines : List MetricPipeline) (answer : ApiTable) (s : BuildState)
    (hbuild : evalE answer (build lib opts pipelines) = .ok s)
    (hnames : (pipelines.map (·.name)).Nodup) :
    Coherent s.config ↔ ∃ mp ∈ pipelines, ∃ input : PullInput, input.isEnabled mp.input := by
  have hadded := (build_returns lib opts pipelines).eval hbuild
  have hnames := nodup_sortPipelinesByName hnames
  simp only [← @mem_sortPipelinesByName pipelines]
  constructor
  · intro h
    have hreceivers := (h.pipelines _ _ (lookup_enrichment hadded hnames)).1
    obtain ⟨id, hid⟩ := List.exists_mem_of_ne_nil _ hreceivers
    obtain ⟨input, hused, -⟩ := mem_enrichmentPlan_receivers_iff.mp hid
    obtain ⟨mp, hmp, henabled⟩ := List.any_eq_true.mp hused
    exact ⟨mp, hmp, input, henabled⟩
  · rintro ⟨mp, hmp, input, henabled⟩
    have hused : input.isUsed (sortPipelinesByName pipelines) :=
      List.any_eq_true.mpr ⟨mp, hmp, henabled⟩
    exact .of_added hadded (servicePlans_ids_nodup lib opts _ hnames)
      (servicePlans_coherent lib opts _ hused)

theorem nodes_and_apps_coherent :
    ∃ s, evalE Gateway.noObjects
        (build Gateway.sampleExporterLib {} [nodesPipeline, appsPipeline]) = .ok s ∧
      Coherent s.config := by
  obtain ⟨s, hbuild⟩ := exists_evalE_eq Gateway.noObjects
    (x := build Gateway.sampleExporterLib {} [nodesPipeline, appsPipeline]) rfl
  exact ⟨s, hbuild, (agent_config_coherent_iff _ _ _ _ s hbuild (by decide)).mpr
    ⟨nodesPipeline, List.mem_cons_self, .runtime, rfl⟩⟩

end TelemetryManager.MetricAgent
