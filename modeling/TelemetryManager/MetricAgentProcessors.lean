import TelemetryManager.Library.PrefixCode
import TelemetryManager.MetricAgentRouting
import TelemetryManager.ObjectNames

/-! Processors of the metric agent that different service pipelines register under one ID.
IDs are static, or they put the name of a pipeline behind a fixed text, or, for the namespace
filters, in front of one. No two IDs of one of these kinds are equal by accident, but a name can
look like the fixed text of the other kind. -/
namespace TelemetryManager.MetricAgent

open Collector Interaction MetricPipelineUtils OtlpExporter Ottl PrefixCode
open Gateway (addUserDefinedFilterProcessor addUserDefinedTransformProcessor namespacesConditions
  shouldFilterByNamespace)

def entries (components : List Component) : List (String × ProcessorConfig) :=
  components.filterMap Component.processorEntry

section Components

variable (opts : BuildOptions) (pipelines : List MetricPipeline)

/-- Components with a static ID, which have one configuration in a build. -/
def staticComponents : List Component :=
  [addMemoryLimiterProcessor,
   addFilterDropNonPVCVolumesMetricsProcessor (inputSources pipelines).runtimeResources,
   addFilterDropVirtualNetworkInterfacesProcessor,
   addDropServiceNameProcessor,
   addInsertSkipEnrichmentAttributeProcessor,
   addSetInstrumentationScopeToRuntimeProcessor opts,
   addSetInstrumentationScopeToPrometheusProcessor opts,
   addSetInstrumentationScopeToIstioProcessor opts,
   addSetKymaInputNameProcessor .runtime,
   addSetKymaInputNameProcessor .prometheus,
   addSetKymaInputNameProcessor .istio,
   addIstioNoiseFilterProcessor,
   addDropUnknownServiceNameProcessor opts,
   addK8sAttributesProcessor opts,
   addRestoreOtelServiceAttrsProcessor opts,
   addServiceEnrichmentProcessor opts,
   .processor componentIDDropPrometheusDiagnosticMetricsProcessor
    (some (dropDiagnosticMetricsFilterProcessor .prometheus)),
   .processor componentIDDropIstioDiagnosticMetricsProcessor
    (some (dropDiagnosticMetricsFilterProcessor .istio)),
   .processor componentIDDropEnvoyMetricsIfDisabledProcessor
    (some (metricFilterProcessor
      [⟨[joinWithAnd [isMatch "metric.name" "^envoy_.*", kymaInputNameEquals .istio]]⟩])),
   addInsertClusterAttributesProcessor opts,
   addDropSkipEnrichmentAttributeProcessor,
   addDropKymaAttributesProcessor,
   .processor componentIDCumulativeToDeltaProcessor
    (some (.cumulativeToDelta (maxStalenessMultiplier * opts.collectionIntervals.max) "auto")),
   addBatchProcessor]

def userTransform (mp : MetricPipeline) : Component :=
  addUserDefinedTransformProcessor (metricPipelineRef mp) metricTransformProcessor mp.transforms

def userFilter (mp : MetricPipeline) : Component :=
  addUserDefinedFilterProcessor (metricPipelineRef mp) metricFilterProcessor mp.filters

/-- Components with the name of the pipeline at the end of their ID. -/
def namedComponents (mp : MetricPipeline) : List Component :=
  runtimeFilters (allRuntimeAdditionalMetrics pipelines) mp ++ [userTransform mp, userFilter mp]

def namespaceFilters (mp : MetricPipeline) : List Component :=
  [addRuntimeNamespaceFilterProcessor mp, addPrometheusNamespaceFilterProcessor mp,
   addIstioNamespaceFilterProcessor mp]

inductive Origin (e : String × ProcessorConfig) : Prop where
  | static (h : e ∈ entries (staticComponents opts pipelines))
  | named (mp : MetricPipeline) (hmp : mp ∈ pipelines)
      (h : e ∈ entries (namedComponents pipelines mp))
  | namespaceFilter (mp : MetricPipeline) (hmp : mp ∈ pipelines)
      (h : e ∈ entries (namespaceFilters mp))

variable {opts pipelines} {e : String × ProcessorConfig} {c : Component}

theorem mem_entries_of {components : List Component} (hc : c ∈ components)
    (h : c.processorEntry = some e) : e ∈ entries components :=
  List.mem_filterMap.mpr ⟨c, hc, h⟩

theorem shared_component {plan : ServicePlan}
    (hplan : plan ∈ pullInputs.map (PullInput.plan opts pipelines) ++
      [enrichmentPlan opts pipelines]) (hc : c ∈ plan.components) :
    c.processorEntry = none ∨ c ∈ staticComponents opts pipelines := by
  simp only [pullInputs, PullInput.plan, List.map_cons, List.map_nil, List.mem_append,
    List.mem_cons, List.not_mem_nil, or_false] at hplan
  suffices hall : ∀ d ∈ plan.components,
      d.processorEntry = none ∨ d ∈ staticComponents opts pipelines from hall c hc
  rcases hplan with (rfl | rfl | rfl) | rfl <;> refine List.forall_iff_forall_mem.mp ?_ <;>
    and_intros <;>
    first
    | exact .inl rfl
    | exact .inr (by simp [staticComponents])

theorem conditional_component {id : String} {b : Prop} [Decidable b] {config : ProcessorConfig}
    (hstatic : .processor id (some config) ∈ staticComponents opts pipelines) :
    (Component.processor id (if b then none else some config)).processorEntry = none ∨
      .processor id (if b then none else some config) ∈ staticComponents opts pipelines := by
  split
  · exact .inl rfl
  · exact .inr hstatic

theorem output_component (lib : ExporterLib) {mp : MetricPipeline}
    (hc : c ∈ (outputPlan lib opts pipelines mp).components) :
    (c.processorEntry = none ∨ c ∈ staticComponents opts pipelines) ∨
      c ∈ namedComponents pipelines mp ∨ c ∈ namespaceFilters mp := by
  simp only [outputPlan, List.append_assoc, List.mem_append, List.mem_cons, List.not_mem_nil,
    or_false] at hc
  rcases hc with (rfl | rfl | rfl | rfl) | hruntime | rfl | rfl | rfl | rfl | rfl | rfl | rfl |
    rfl | rfl | rfl | rfl | rfl | rfl | rfl
  -- the receivers
  · exact .inl (.inl rfl)
  · exact .inl (.inl rfl)
  · exact .inl (.inl rfl)
  · exact .inl (.inl rfl)
  · exact .inr (.inl (List.mem_append_left _ hruntime))
  · exact .inl (conditional_component (by simp [staticComponents]))
  · exact .inl (conditional_component (by simp [staticComponents]))
  · exact .inl (conditional_component (by simp [staticComponents]))
  · exact .inr (.inr (by simp [namespaceFilters]))
  · exact .inr (.inr (by simp [namespaceFilters]))
  · exact .inr (.inr (by simp [namespaceFilters]))
  · exact .inl (.inr (by simp [staticComponents]))
  · exact .inl (.inr (by simp [staticComponents]))
  · exact .inl (.inr (by simp [staticComponents]))
  · exact .inr (.inl (by simp [namedComponents, userTransform]))
  · exact .inr (.inl (by simp [namedComponents, userFilter]))
  · unfold addCumulativeToDeltaProcessor
    split
    · exact .inl (.inr (by simp [staticComponents]))
    · exact .inl (.inl rfl)
    · exact .inl (.inl rfl)
  · exact .inl (.inr (by simp [staticComponents]))
  · exact .inl (.inl rfl)

theorem origin_of_plan (lib : ExporterLib) {plan : ServicePlan}
    (hplan : plan ∈ servicePlans lib opts pipelines) (he : e ∈ plan.processors) :
    Origin opts pipelines e := by
  obtain ⟨c, hc, h⟩ := List.mem_filterMap.mp he
  have hcases : (c.processorEntry = none ∨ c ∈ staticComponents opts pipelines) ∨
      ∃ mp ∈ pipelines, c ∈ namedComponents pipelines mp ∨ c ∈ namespaceFilters mp := by
    rcases mem_servicePlans_iff.mp hplan with ⟨input, _, rfl⟩ | rfl | ⟨mp, hmp, rfl⟩
    · exact .inl (shared_component
        (List.mem_append_left _ (List.mem_map_of_mem (mem_pullInputs input))) hc)
    · exact .inl (shared_component (List.mem_append_right _ (by simp)) hc)
    · exact (output_component lib hc).imp id fun hown => ⟨mp, hmp, hown⟩
  rcases hcases with (hnone | hstatic) | ⟨mp, hmp, hnamed | hnamespace⟩
  · rw [hnone] at h
    cases h
  · exact .static (mem_entries_of hstatic h)
  · exact .named mp hmp (mem_entries_of hnamed h)
  · exact .namespaceFilter mp hmp (mem_entries_of hnamespace h)

end Components

def staticIDs : List String :=
  [componentIDMemoryLimiterProcessor,
   componentIDFilterDropNonPVCVolumesMetricsProcessor,
   componentIDFilterDropVirtualNetworkInterfacesProcessor,
   componentIDDropServiceNameProcessor,
   componentIDInsertSkipEnrichmentAttributeProcessor,
   componentIDSetInstrumentationScopeRuntimeProcessor,
   componentIDSetInstrumentationScopePrometheusProcessor,
   componentIDSetInstrumentationScopeIstioProcessor,
   componentIDSetKymaInputNameRuntimeProcessor,
   componentIDSetKymaInputNamePrometheusProcessor,
   componentIDSetKymaInputNameIstioProcessor,
   componentIDIstioNoiseFilterProcessor,
   componentIDDropUnknownServiceNameProcessor,
   componentIDK8sAttributesProcessor,
   componentIDRestoreOtelServiceAttrsProcessor,
   componentIDServiceEnrichmentProcessor,
   componentIDDropPrometheusDiagnosticMetricsProcessor,
   componentIDDropIstioDiagnosticMetricsProcessor,
   componentIDDropEnvoyMetricsIfDisabledProcessor,
   componentIDInsertClusterAttributesProcessor,
   componentIDDropSkipEnrichmentAttributeProcessor,
   componentIDDropKymaAttributesProcessor,
   componentIDCumulativeToDeltaProcessor,
   componentIDBatchProcessor]

def leadingParts : List String :=
  [componentIDDropRuntimePodMetricsProcessor ++ "-",
   componentIDDropRuntimeContainerMetricsProcessor ++ "-",
   componentIDDropRuntimeNodeMetricsProcessor ++ "-",
   componentIDDropRuntimeVolumeMetricsProcessor ++ "-",
   componentIDDropRuntimeDeploymentMetricsProcessor ++ "-",
   componentIDDropRuntimeDaemonSetMetricsProcessor ++ "-",
   componentIDDropRuntimeStatefulSetMetricsProcessor ++ "-",
   componentIDDropRuntimeJobMetricsProcessor ++ "-",
   componentIDDropRuntimeAdditionalMetricsProcessor ++ "-",
   "transform/" ++ (⟨"", .metric⟩ : PipelineRef).typePrefix ++ "-user-defined-",
   "filter/" ++ (⟨"", .metric⟩ : PipelineRef).typePrefix ++ "-user-defined-"]

def trailingParts : List String :=
  pullInputs.map fun input => "-filter-by-namespace-" ++ input.source.text ++ "-input"

theorem staticIDs_nodup : staticIDs.Nodup := by decide +kernel

theorem leadingParts_nodup : leadingParts.Nodup := by decide +kernel

theorem trailingParts_nodup : trailingParts.Nodup := by decide +kernel

theorem leadingParts_prefixFree : PrefixFree (leadingParts.map bytes) := by decide +kernel

theorem trailingParts_suffixFree : SuffixFree (trailingParts.map bytes) := by decide +kernel

theorem leadingParts_not_static :
    ∀ part ∈ leadingParts, ∀ id ∈ staticIDs, ¬ bytes part <+: bytes id := by decide +kernel

theorem trailingParts_not_static :
    ∀ part ∈ trailingParts, ∀ id ∈ staticIDs, ¬ bytes part <:+ bytes id := by decide +kernel

section Ids

variable (opts : BuildOptions) (pipelines : List MetricPipeline) (mp : MetricPipeline)

theorem staticComponents_ids : (staticComponents opts pipelines).map (·.processorID) = staticIDs :=
  rfl

theorem namedComponents_ids : (namedComponents pipelines mp).map (·.processorID) =
    leadingParts.map (· ++ mp.name) := rfl

theorem namespaceFilters_ids : (namespaceFilters mp).map (·.processorID) =
    trailingParts.map ("filter/" ++ mp.name ++ ·) := by
  simp only [trailingParts, List.map_map, Function.comp_def, ← String.append_assoc]
  rfl

end Ids

section Texts

def runtimeBeginnings : List String :=
  [kymaInputNameEquals .runtime ++ " and " ++ "IsMatch(",
   kymaInputNameEquals .runtime ++ " and " ++ ("(" ++ "metric.name == \"")]

def namespaceBeginnings : List String :=
  pullInputs.flatMap fun input =>
    [kymaInputNameEquals input.source ++ " and " ++ ("(" ++ "resource.attributes[\""),
     kymaInputNameEquals input.source ++ " and " ++ "resource.attributes[\""]

theorem beginnings_apart : ∀ a ∈ runtimeBeginnings, ∀ b ∈ namespaceBeginnings,
    ¬ bytes a <+: bytes b ∧ ¬ bytes b <+: bytes a := by decide +kernel

theorem begins_joinWithAnd {b part : String} (h : Begins b part) (first : String)
    (parts : List String) :
    Begins (first ++ " and " ++ b) (joinWithAnd (first :: part :: parts)) := by
  rw [joinWithAnd, String.intercalate_cons_cons]
  refine Begins.prepend ?_ (first ++ " and ")
  cases parts with
  | nil => simpa using h
  | cons part' parts =>
    rw [String.intercalate_cons_cons, String.append_assoc]
    exact h.append _

theorem begins_joinWithOr {b part : String} (h : Begins b part) (parts : List String) :
    Begins ("(" ++ b) (joinWithOr (part :: parts)) := by
  refine Begins.append (Begins.prepend ?_ "(") ")"
  cases parts with
  | nil => simpa using h
  | cons part' parts =>
    rw [String.intercalate_cons_cons, String.append_assoc]
    exact h.append _

theorem begins_isMatch (key pattern : String) : Begins "IsMatch(" (isMatch key pattern) :=
  (((begins_append _ key).append _).append _).append _

theorem begins_resourceAttribute (key : String) :
    Begins "resource.attributes[\"" (resourceAttribute key) := (begins_append _ key).append _

theorem begins_namespaceEquals (ns : String) :
    Begins "resource.attributes[\"" (namespaceEquals ns) :=
  (((begins_resourceAttribute _).append _).append _).append _

variable {mp : MetricPipeline} {e : String × ProcessorConfig}

theorem resourceFilter_begins {id : String} {enabled : MetricPipelineInput → Bool}
    {pattern : MetricPattern}
    (h : (addDropRuntimeResourceMetricsProcessor id enabled pattern mp).processorEntry = some e) :
    ∃ b ∈ runtimeBeginnings, ∃ t, Begins b t ∧ e.2 = metricFilterProcessor [⟨[t]⟩] := by
  unfold addDropRuntimeResourceMetricsProcessor at h
  split at h
  · cases h
  · cases h
    exact ⟨_, .head _, _, begins_joinWithAnd (begins_isMatch _ _) _ _, rfl⟩

variable {allAdditionalMetrics : List String}

theorem additionalFilter_begins
    (h : (addDropAdditionalRuntimeMetricsProcessor allAdditionalMetrics mp).processorEntry =
      some e) :
    ∃ b ∈ runtimeBeginnings, ∃ t, Begins b t ∧ e.2 = metricFilterProcessor [⟨[t]⟩] := by
  unfold addDropAdditionalRuntimeMetricsProcessor at h
  split at h
  · cases h
  · dsimp only at h
    split at h
    · cases h
    · cases hdrop : additionalMetricsToDrop allAdditionalMetrics
          (runtimeAdditionalMetrics mp.input) mp.input with
      | nil => contradiction
      | cons m metrics =>
        rw [hdrop] at h
        cases h
        refine ⟨_, .tail _ (.head _), _, begins_joinWithAnd (begins_joinWithOr ?_ _) _ _, rfl⟩
        exact (begins_append _ m).append _

theorem runtimeFilter_begins (h : e ∈ entries (runtimeFilters allAdditionalMetrics mp)) :
    ∃ b ∈ runtimeBeginnings, ∃ t, Begins b t ∧ e.2 = metricFilterProcessor [⟨[t]⟩] := by
  obtain ⟨c, hc, h⟩ := List.mem_filterMap.mp h
  simp only [runtimeFilters, List.mem_cons, List.not_mem_nil, or_false] at hc
  rcases hc with rfl | rfl | rfl | rfl | rfl | rfl | rfl | rfl | rfl
  iterate 8 exact resourceFilter_begins h
  exact additionalFilter_begins h

/-- A namespace filter excludes namespaces, or everything outside of the included ones, or both. -/
theorem filterByNamespaceProcessor_begins {selector : NamespaceSelector} (input : PullInput)
    (hselects : shouldFilterByNamespace (some selector)) :
    ∃ b ∈ namespaceBeginnings, ∃ t ts, Begins b t ∧
      filterByNamespaceProcessor selector (kymaInputNameEquals input.source) =
        metricFilterProcessor [⟨t :: ts⟩] := by
  have hmem : ∀ b ∈ [kymaInputNameEquals input.source ++ " and " ++
    ("(" ++ "resource.attributes[\""),
      kymaInputNameEquals input.source ++ " and " ++ "resource.attributes[\""],
      b ∈ namespaceBeginnings :=
    fun b hb => List.mem_flatMap.mpr ⟨input, mem_pullInputs input, hb⟩
  unfold filterByNamespaceProcessor
  cases hexclude : selector.exclude with
  | cons ns namespaces =>
    refine ⟨_, hmem _ (.head _), _, _, ?_, by rw [if_pos (by simp)]; rfl⟩
    exact begins_joinWithAnd (begins_joinWithOr (begins_namespaceEquals ns) _) _ _
  | nil =>
    have hinclude : selector.include ≠ [] := by
      simpa [shouldFilterByNamespace, hexclude] using hselects
    refine ⟨_, hmem _ (.tail _ (.head _)), _, _, ?_, by rw [if_neg (by simp), if_pos hinclude]; rfl⟩
    exact begins_joinWithAnd ((begins_resourceAttribute _).append _) _ _

theorem namespaceFilter_begins (h : e ∈ entries (namespaceFilters mp)) :
    ∃ b ∈ namespaceBeginnings, ∃ t ts, Begins b t ∧ e.2 = metricFilterProcessor [⟨t :: ts⟩] := by
  obtain ⟨c, hc, h⟩ := List.mem_filterMap.mp h
  have hinput : ∃ (input : PullInput) (enabled : Bool) (namespaces : Option NamespaceSelector),
      c = addNamespaceFilterProcessor input.source enabled namespaces mp := by
    simp only [namespaceFilters, List.mem_cons, List.not_mem_nil, or_false] at hc
    rcases hc with rfl | rfl | rfl
    · exact ⟨.runtime, _, _, rfl⟩
    · exact ⟨.prometheus, _, _, rfl⟩
    · exact ⟨.istio, _, _, rfl⟩
  obtain ⟨input, enabled, namespaces, rfl⟩ := hinput
  unfold addNamespaceFilterProcessor at h
  split at h
  case isTrue hfilters =>
    cases namespaces with
    | none => cases h
    | some selector =>
      cases h
      exact filterByNamespaceProcessor_begins input (Bool.and_eq_true_iff.mp hfilters).2
  case isFalse => cases h

theorem runtimeFilter_ne_namespaceFilter {q : MetricPipeline}
    {e' : String × ProcessorConfig} (h : e ∈ entries (runtimeFilters allAdditionalMetrics mp))
    (h' : e' ∈ entries (namespaceFilters q)) : e.2 ≠ e'.2 := by
  obtain ⟨a, ha, t, hbegins, hconfig⟩ := runtimeFilter_begins h
  obtain ⟨b, hb, t', ts, hbegins', hconfig'⟩ := namespaceFilter_begins h'
  rw [hconfig, hconfig']
  intro heq
  have hne := hbegins.ne hbegins' (beginnings_apart a ha b hb).1 (beginnings_apart a ha b hb).2
  simp [metricFilterProcessor, hne] at heq

end Texts

structure SeparateFilters (pipelines : List MetricPipeline) : Prop where
  runtime : ∀ p ∈ pipelines, ∀ q ∈ pipelines,
    ∀ id ∈ (entries (runtimeFilters (allRuntimeAdditionalMetrics pipelines) p)).map Prod.fst,
    ∀ n ∈ entries (namespaceFilters q), id ≠ n.1
  user : ∀ p ∈ pipelines, ∀ q ∈ pipelines, ∀ f, (userFilter p).processorEntry = some f →
    ∀ n ∈ entries (namespaceFilters q), f.1 = n.1 → f.2 = n.2

section Agreement

variable {opts : BuildOptions} {pipelines : List MetricPipeline} {p q : MetricPipeline}
  {e e' : String × ProcessorConfig} {components : List Component}

theorem id_mem_of_mem_entries (h : e ∈ entries components) :
    e.1 ∈ components.map (·.processorID) := by
  obtain ⟨c, hc, h⟩ := List.mem_filterMap.mp h
  rw [Component.processorEntry_fst h]
  exact List.mem_map_of_mem hc

theorem entries_injective (hnodup : (components.map (·.processorID)).Nodup)
    (h : e ∈ entries components) (h' : e' ∈ entries components) (hkey : e.1 = e'.1) : e = e' := by
  obtain ⟨c, hc, h⟩ := List.mem_filterMap.mp h
  obtain ⟨c', hc', h'⟩ := List.mem_filterMap.mp h'
  rw [Component.processorEntry_fst h, Component.processorEntry_fst h'] at hkey
  rw [List.inj_on_of_nodup_map hnodup hc hc' hkey, h'] at h
  exact (Option.some.inj h).symm

theorem named_id (h : e ∈ entries (namedComponents pipelines p)) :
    ∃ part ∈ leadingParts, part ++ p.name = e.1 :=
  List.mem_map.mp (namedComponents_ids pipelines p ▸ id_mem_of_mem_entries h)

theorem namespaceFilter_id (h : e ∈ entries (namespaceFilters p)) :
    ∃ part ∈ trailingParts, "filter/" ++ p.name ++ part = e.1 :=
  List.mem_map.mp (namespaceFilters_ids p ▸ id_mem_of_mem_entries h)

theorem static_ne_named (h : e ∈ entries (staticComponents opts pipelines))
    (h' : e' ∈ entries (namedComponents pipelines p)) : e.1 ≠ e'.1 := by
  obtain ⟨part, hpart, hid⟩ := named_id h'
  intro hkey
  refine leadingParts_not_static part hpart e.1 (id_mem_of_mem_entries h) ?_
  rw [hkey, ← hid, bytes_append]
  exact List.prefix_append _ _

theorem static_ne_namespaceFilter (h : e ∈ entries (staticComponents opts pipelines))
    (h' : e' ∈ entries (namespaceFilters p)) : e.1 ≠ e'.1 := by
  obtain ⟨part, hpart, hid⟩ := namespaceFilter_id h'
  intro hkey
  refine trailingParts_not_static part hpart e.1 (id_mem_of_mem_entries h) ?_
  rw [hkey, ← hid, bytes_append]
  exact List.suffix_append _ _

theorem named_injective (hnames : (pipelines.map (·.name)).Nodup) (hp : p ∈ pipelines)
    (hq : q ∈ pipelines) (h : e ∈ entries (namedComponents pipelines p))
    (h' : e' ∈ entries (namedComponents pipelines q)) (hkey : e.1 = e'.1) : e = e' := by
  obtain ⟨part, hpart, hid⟩ := named_id h
  obtain ⟨part', hpart', hid'⟩ := named_id h'
  obtain ⟨_, hname⟩ :=
    leadingParts_prefixFree.text_inj hpart hpart' (hid.trans (hkey.trans hid'.symm))
  obtain rfl := List.inj_on_of_nodup_map hnames hp hq hname
  refine entries_injective ?_ h h' hkey
  rw [namedComponents_ids]
  exact leadingParts_nodup.map fun _ _ => (String.append_left_inj _).mp

theorem namespaceFilter_injective (hnames : (pipelines.map (·.name)).Nodup) (hp : p ∈ pipelines)
    (hq : q ∈ pipelines) (h : e ∈ entries (namespaceFilters p))
    (h' : e' ∈ entries (namespaceFilters q)) (hkey : e.1 = e'.1) : e = e' := by
  obtain ⟨part, hpart, hid⟩ := namespaceFilter_id h
  obtain ⟨part', hpart', hid'⟩ := namespaceFilter_id h'
  obtain ⟨hname, _⟩ := trailingParts_suffixFree.text_inj hpart hpart'
    (hid.trans (hkey.trans hid'.symm))
  obtain rfl := List.inj_on_of_nodup_map hnames hp hq ((String.append_right_inj _).mp hname)
  refine entries_injective ?_ h h' hkey
  rw [namespaceFilters_ids]
  exact trailingParts_nodup.map fun _ _ => (String.append_right_inj _).mp

theorem userTransform_ne_namespaceFilter (h : (userTransform p).processorEntry = some e)
    (h' : e' ∈ entries (namespaceFilters q)) : e.1 ≠ e'.1 := by
  obtain ⟨part, _, hid⟩ := namespaceFilter_id h'
  have hid' : e.1 = "transform/" ++ (⟨"", .metric⟩ : PipelineRef).typePrefix ++ "-user-defined-" ++
      p.name := Component.processorEntry_fst h
  rw [hid', ← hid]
  exact Begins.ne (((begins_append _ _).append _).append _) ((begins_append _ _).append _)
    (by decide +kernel) (by decide +kernel)

theorem named_agree_namespaceFilter (hsep : SeparateFilters pipelines) (hp : p ∈ pipelines)
    (hq : q ∈ pipelines) (h : e ∈ entries (namedComponents pipelines p))
    (h' : e' ∈ entries (namespaceFilters q)) (hkey : e.1 = e'.1) : e.2 = e'.2 := by
  obtain ⟨c, hc, hentry⟩ := List.mem_filterMap.mp h
  simp only [namedComponents, List.mem_append, List.mem_cons, List.not_mem_nil, or_false] at hc
  rcases hc with hruntime | rfl | rfl
  · exact absurd hkey (hsep.runtime p hp q hq _
      (List.mem_map_of_mem (mem_entries_of hruntime hentry)) e' h')
  · exact absurd hkey (userTransform_ne_namespaceFilter hentry h')
  · exact hsep.user p hp q hq e hentry e' h' hkey

theorem Origin.agree_static (h : e ∈ entries (staticComponents opts pipelines))
    (he' : Origin opts pipelines e') (hkey : e.1 = e'.1) : e.2 = e'.2 := by
  cases he' with
  | static h' =>
    rw [entries_injective (staticComponents_ids opts pipelines ▸ staticIDs_nodup) h h' hkey]
  | named q hq h' => exact absurd hkey (static_ne_named h h')
  | namespaceFilter q hq h' => exact absurd hkey (static_ne_namespaceFilter h h')

theorem Origin.agree (hnames : (pipelines.map (·.name)).Nodup) (hsep : SeparateFilters pipelines)
    (he : Origin opts pipelines e) (he' : Origin opts pipelines e') (hkey : e.1 = e'.1) :
    e.2 = e'.2 := by
  cases he with
  | static h => exact he'.agree_static h hkey
  | named p hp h =>
    cases he' with
    | static h' => exact absurd hkey.symm (static_ne_named h' h)
    | named q hq h' => rw [named_injective hnames hp hq h h' hkey]
    | namespaceFilter q hq h' => exact named_agree_namespaceFilter hsep hp hq h h' hkey
  | namespaceFilter p hp h =>
    cases he' with
    | static h' => exact absurd hkey.symm (static_ne_namespaceFilter h' h)
    | named q hq h' => exact (named_agree_namespaceFilter hsep hq hp h' h hkey.symm).symm
    | namespaceFilter q hq h' => rw [namespaceFilter_injective hnames hp hq h h' hkey]

theorem mem_outputPlan_processors (lib : ExporterLib)
    (h : e ∈ entries (runtimeFilters (allRuntimeAdditionalMetrics pipelines) p) ∨
      (userFilter p).processorEntry = some e ∨ e ∈ entries (namespaceFilters p)) :
    e ∈ (outputPlan lib opts pipelines p).processors := by
  have hmem : ∃ c ∈ (outputPlan lib opts pipelines p).components, c.processorEntry = some e := by
    rcases h with h | h | h
    · obtain ⟨c, hc, h⟩ := List.mem_filterMap.mp h
      exact ⟨c, List.mem_append_left _ (List.mem_append_right _ hc), h⟩
    · exact ⟨_, List.mem_append_right _ (by simp [userFilter]), h⟩
    · obtain ⟨c, hc, h⟩ := List.mem_filterMap.mp h
      refine ⟨c, List.mem_append_right _ ?_, h⟩
      simp only [namespaceFilters, List.mem_cons, List.not_mem_nil, or_false] at hc
      rcases hc with rfl | rfl | rfl <;> simp
  obtain ⟨c, hc, hentry⟩ := hmem
  exact mem_entries_of hc hentry

theorem mem_registrations_of_output (lib : ExporterLib) (hp : p ∈ pipelines)
    (h : e ∈ (outputPlan lib opts pipelines p).processors) :
    e ∈ (servicePlans lib opts pipelines).flatMap ServicePlan.processors :=
  List.mem_flatMap.mpr ⟨_, List.mem_append_right _ (List.mem_map_of_mem hp), h⟩

theorem registrations_agree_iff (lib : ExporterLib) (hnames : (pipelines.map (·.name)).Nodup) :
    (∀ e ∈ (servicePlans lib opts pipelines).flatMap ServicePlan.processors,
      ∀ e' ∈ (servicePlans lib opts pipelines).flatMap ServicePlan.processors,
        e.1 = e'.1 → e.2 = e'.2) ↔ SeparateFilters pipelines := by
  constructor
  · intro hagree
    constructor
    · rintro p hp q hq _ hid n hn rfl
      obtain ⟨f, hf, hkey⟩ := List.mem_map.mp hid
      refine runtimeFilter_ne_namespaceFilter hf hn (hagree f ?_ n ?_ hkey)
      · exact mem_registrations_of_output lib hp (mem_outputPlan_processors lib (.inl hf))
      · exact mem_registrations_of_output lib hq (mem_outputPlan_processors lib (.inr (.inr hn)))
    · intro p hp q hq f hf n hn hkey
      refine hagree f ?_ n ?_ hkey
      · exact mem_registrations_of_output lib hp (mem_outputPlan_processors lib (.inr (.inl hf)))
      · exact mem_registrations_of_output lib hq (mem_outputPlan_processors lib (.inr (.inr hn)))
  · intro hsep e he e' he' hkey
    obtain ⟨plan, hplan, hmem⟩ := List.mem_flatMap.mp he
    obtain ⟨plan', hplan', hmem'⟩ := List.mem_flatMap.mp he'
    exact (origin_of_plan lib hplan hmem).agree hnames hsep (origin_of_plan lib hplan' hmem') hkey

end Agreement

section Order

variable {pipelines : List MetricPipeline} {mp : MetricPipeline}

/-- Whether a pipeline has a filter of additional metrics does not depend on their order. -/
theorem additionalFilter_id_congr {metrics metrics' : List String}
    (h : ∀ m, m ∈ metrics ↔ m ∈ metrics') :
    (addDropAdditionalRuntimeMetricsProcessor metrics mp).processorEntry.map Prod.fst =
      (addDropAdditionalRuntimeMetricsProcessor metrics' mp).processorEntry.map Prod.fst := by
  have hempty : metrics.isEmpty = metrics'.isEmpty := by
    rw [Bool.eq_iff_iff]
    simp [List.isEmpty_iff, List.eq_nil_iff_forall_not_mem, h]
  have hdrop : ∀ own input, additionalMetricsToDrop metrics own input = [] ↔
      additionalMetricsToDrop metrics' own input = [] := by
    intro own input
    simp [additionalMetricsToDrop, h]
  unfold addDropAdditionalRuntimeMetricsProcessor
  rw [hempty]
  by_cases hskip : (!isRuntimeInputEnabled mp.input || metrics'.isEmpty)
  · simp [hskip]
  · simp only [hskip, Bool.false_eq_true, if_false, hdrop]
    split <;> simp only [Component.processorEntry, Option.map_none, Option.map_some]

theorem mem_allRuntimeAdditionalMetrics_sort {m : String} :
    m ∈ allRuntimeAdditionalMetrics (sortPipelinesByName pipelines) ↔
      m ∈ allRuntimeAdditionalMetrics pipelines := by
  have hrequested : RequestedInAddition (sortPipelinesByName pipelines) m ↔
      RequestedInAddition pipelines m := by
    simp [RequestedInAddition, sortPipelinesByName]
  simp [allRuntimeAdditionalMetrics, mem_k8sClusterAdditional_iff, mem_kubeletStatsAdditional_iff,
    hrequested]

theorem runtimeFilters_ids_sort :
    (entries (runtimeFilters (allRuntimeAdditionalMetrics (sortPipelinesByName pipelines)) mp)).map
        Prod.fst =
      (entries (runtimeFilters (allRuntimeAdditionalMetrics pipelines) mp)).map Prod.fst := by
  have hadditional := @additionalFilter_id_congr mp _ _
    fun m => @mem_allRuntimeAdditionalMetrics_sort pipelines m
  have hsplit : ∀ metrics, (entries (runtimeFilters metrics mp)).map Prod.fst =
      (entries ((runtimeFilters [] mp).take 8)).map Prod.fst ++
        ((addDropAdditionalRuntimeMetricsProcessor metrics mp).processorEntry.map
          Prod.fst).toList := by
    intro metrics
    have hlast : runtimeFilters metrics mp = (runtimeFilters [] mp).take 8 ++
        [addDropAdditionalRuntimeMetricsProcessor metrics mp] := by simp [runtimeFilters]
    rw [hlast, entries, List.filterMap_append, List.map_append]
    cases h : (addDropAdditionalRuntimeMetricsProcessor metrics mp).processorEntry <;>
      simp [entries, h]
  rw [hsplit, hsplit, hadditional]

theorem separateFilters_sort :
    SeparateFilters (sortPipelinesByName pipelines) ↔ SeparateFilters pipelines := by
  constructor
  · rintro ⟨hruntime, huser⟩
    simp only [mem_sortPipelinesByName, runtimeFilters_ids_sort] at hruntime huser
    exact ⟨hruntime, huser⟩
  · rintro ⟨hruntime, huser⟩
    constructor
    · simpa only [mem_sortPipelinesByName, runtimeFilters_ids_sort] using hruntime
    · simpa only [mem_sortPipelinesByName] using huser

end Order

/-- Every service pipeline of a built configuration runs with the processor configurations that its
own builder functions returned, exactly if no namespace filter shares its ID with another filter. -/
theorem agent_processors_faithful_iff (lib : ExporterLib) (opts : BuildOptions)
    (pipelines : List MetricPipeline) (answer : ApiTable) (s : BuildState)
    (hnames : (pipelines.map (·.name)).Nodup)
    (hbuild : evalE answer (build lib opts pipelines) = .ok s) :
    (∀ id sp, s.config.pipelines.lookup id = some sp →
      ∃ plan ∈ servicePlans lib opts (sortPipelinesByName pipelines), plan.id = id ∧
        sp.processors = plan.processors.map Prod.fst ∧
        ∀ e ∈ plan.processors, s.config.processors.lookup e.1 = some e.2) ↔
      SeparateFilters pipelines := by
  have hadded := (build_returns lib opts pipelines).eval hbuild
  have hsorted := nodup_sortPipelinesByName hnames
  rw [← separateFilters_sort, ← registrations_agree_iff lib hsorted]
  exact hadded.processors_faithful_iff (servicePlans_ids_nodup lib opts _ hsorted)
    (fun _ => rfl) rfl

def includeOrders : NamespaceSelector where
  «include» := ["orders"]

def appMetricsPipeline : MetricPipeline where
  name := "drop-runtime-pod-metrics-orders"
  input := { prometheus := some { enabled := some true, namespaces := some includeOrders } }
  output := Gateway.sampleOutput
  temporality := some .preserve

def podlessPipeline : MetricPipeline where
  name := "orders-filter-by-namespace-prometheus-input"
  input :=
    { runtime := some
        { enabled := some true
          resources := some { pod := some { enabled := some false } } } }
  output := Gateway.sampleOutput
  temporality := some .preserve

def sharedFilterID : String :=
  "filter/drop-runtime-pod-metrics-orders-filter-by-namespace-prometheus-input"

def podFilter : ProcessorConfig :=
  metricFilterProcessor
    [⟨[joinWithAnd [kymaInputNameEquals .runtime, isMatch "metric.name" podMetricPattern.text]]⟩]

def ordersFilter : ProcessorConfig :=
  filterByNamespaceProcessor includeOrders (kymaInputNameEquals .prometheus)

/-- The pipeline without pod metrics runs with the namespace filter of the other one, so that it
receives the pod metrics. -/
theorem pod_filter_replaced :
    (isDNS1123Subdomain appMetricsPipeline.name ∧
      isDNS1123Subdomain podlessPipeline.name ∧
      appMetricsPipeline.name ≠ podlessPipeline.name) ∧
    ∃ s sp, evalE Gateway.noObjects (build Gateway.sampleExporterLib {}
        [podlessPipeline, appMetricsPipeline]) = .ok s ∧
      s.config.pipelines.lookup (formatOutputMetricServicePipelineID podlessPipeline) = some sp ∧
      sharedFilterID ∈ sp.processors ∧
      (addDropRuntimePodMetricsProcessor podlessPipeline).processorEntry =
        some (sharedFilterID, podFilter) ∧
      s.config.processors.lookup sharedFilterID = some ordersFilter ∧
      podFilter ≠ ordersFilter := by
  refine ⟨by decide +kernel, ?_⟩
  obtain ⟨s, hbuild⟩ := exists_evalE_eq Gateway.noObjects
    (x := build Gateway.sampleExporterLib {} [podlessPipeline, appMetricsPipeline]) rfl
  have hadded := (build_returns _ _ _).eval hbuild
  have hpod : (sharedFilterID, podFilter) ∈ entries (runtimeFilters [] podlessPipeline) :=
    mem_entries_of (.head _) rfl
  have horders : (sharedFilterID, ordersFilter) ∈ entries (namespaceFilters appMetricsPipeline) :=
    mem_entries_of (.tail _ (.head _)) rfl
  refine ⟨s, (outputPlan Gateway.sampleExporterLib {} [appMetricsPipeline, podlessPipeline]
    podlessPipeline).servicePipeline, hbuild, ?_, ?_, rfl, ?_, ?_⟩
  · rw [hadded.pipelines]
    rfl
  · decide +kernel
  · rw [hadded.processors, Registry.lookup_registerAll]
    rfl
  · exact runtimeFilter_ne_namespaceFilter hpod horders

def ordersPipeline : MetricPipeline where
  name := "orders"
  input := { prometheus := some { enabled := some true, namespaces := some includeOrders } }
  output := Gateway.sampleOutput
  temporality := some .preserve

def quietNodesPipeline : MetricPipeline where
  name := "nodes"
  input := podlessPipeline.input
  output := Gateway.sampleOutput
  temporality := some .preserve

theorem ordersPipelines_separate : SeparateFilters [quietNodesPipeline, ordersPipeline] where
  runtime := by decide +kernel
  user := by
    intro p hp q _ f hf
    simp only [List.mem_cons, List.not_mem_nil, or_false] at hp
    rcases hp with rfl | rfl <;> cases hf

/-- Two pipelines with a runtime and a namespace filter keep their own filters. -/
theorem orders_filters_kept :
    ∃ s, evalE Gateway.noObjects
        (build Gateway.sampleExporterLib {} [quietNodesPipeline, ordersPipeline]) = .ok s ∧
      ∀ id sp, s.config.pipelines.lookup id = some sp →
        ∃ plan ∈ servicePlans Gateway.sampleExporterLib {}
          (sortPipelinesByName [quietNodesPipeline, ordersPipeline]), plan.id = id ∧
          sp.processors = plan.processors.map Prod.fst ∧
          ∀ e ∈ plan.processors, s.config.processors.lookup e.1 = some e.2 := by
  obtain ⟨s, hbuild⟩ := exists_evalE_eq Gateway.noObjects
    (x := build Gateway.sampleExporterLib {} [quietNodesPipeline, ordersPipeline]) rfl
  exact ⟨s, hbuild, (agent_processors_faithful_iff _ _ _ _ s (by decide) hbuild).mpr
    ordersPipelines_separate⟩

end TelemetryManager.MetricAgent
