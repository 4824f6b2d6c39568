import TelemetryManager.GatewayConfig
import TelemetryManager.Library.PrefixCode

/-! Processors of the gateway that different service pipelines register under one ID.
The builders fill one registry in which the first configuration of an ID wins. A service pipeline
runs with the configurations of its own builder exactly if no two builders disagree on an ID. -/
namespace TelemetryManager.Gateway

open Collector Interaction OtlpExporter PrefixCode

/-! ## The processors by the form of their ID -/

inductive Family where
  | static
  | transform
  | filter

def userTransform : OTLPPipeline → Option (String × ProcessorConfig)
  | .trace tp => (addTraceUserDefinedTransformProcessor tp).processorEntry
  | .log lp => (addLogUserDefinedTransformProcessor lp).processorEntry
  | .metric mp => (addMetricUserDefinedTransformProcessor mp).processorEntry

def userFilter : OTLPPipeline → Option (String × ProcessorConfig)
  | .trace tp => (addTraceUserDefinedFilterProcessor tp).processorEntry
  | .log lp => (addLogUserDefinedFilterProcessor lp).processorEntry
  | .metric mp => (addMetricUserDefinedFilterProcessor mp).processorEntry

def namespaceFilter : OTLPPipeline → Option (String × ProcessorConfig)
  | .trace _ => none
  | .log lp => (addNamespaceFilterProcessor lp).processorEntry
  | .metric mp => (addMetricOTLPNamespaceFilterProcessor mp).processorEntry

def BuildOptions.pipelines (opts : BuildOptions) : List OTLPPipeline :=
  opts.tracePipelines.map .trace ++ opts.logPipelines.map .log ++ opts.metricPipelines.map .metric

section Forms

variable (opts : BuildOptions)

/-- Components with a static ID and the same configuration in all service pipelines. -/
def sharedComponents : List Component :=
  [addMemoryLimiterProcessor, addDropIstioServiceEnrichmentProcessor opts,
    addDropUnknownServiceNameProcessor opts, addK8sAttributesProcessor opts,
    addRestoreOtelServiceAttrsProcessor opts, addIstioNoiseFilterProcessor,
    addInsertClusterAttributesProcessor opts, addServiceEnrichmentProcessor opts,
    addDropKymaAttributesProcessor, addSetObsTimeIfZeroProcessor,
    addLogIstioAccessLogsEnrichmentProcessor opts,
    addMetricSetKymaInputNameProcessor componentIDSetKymaInputNameOTLPProcessor .otlp,
    addMetricSetKymaInputNameProcessor componentIDSetKymaInputNameKymaProcessor .kyma,
    addMetricSetInstrumentationScopeToKymaProcessor opts,
    .processor componentIDCumulativeToDeltaProcessor (some (.cumulativeToDelta 0 "auto"))]

/-- Processors with a static ID whose configuration depends on the signal. -/
def signalProcessors : SignalType → List (String × ProcessorConfig)
  | .trace => [(componentIDBatchProcessor, .batch 512 "10s" 512)]
  | .log =>
    [(componentIDBatchProcessor, .batch 512 "10s" 512),
     (componentIDDropIfInputSourceOTLPProcessor, dropIfInputSourceOTLPProcessor)]
  | .metric =>
    [(componentIDBatchProcessor, .batch 1024 "10s" 1024),
     (componentIDDropIfInputSourceOTLPProcessor,
      metricFilterProcessor [⟨[Ottl.kymaInputNameEquals .otlp]⟩])]

inductive Form (e : String × ProcessorConfig) : Family → Prop where
  | shared (c : Component) (hc : c ∈ sharedComponents opts) (h : c.processorEntry = some e) :
      Form e .static
  | signal (p : OTLPPipeline) (hp : p ∈ opts.pipelines)
      (h : e ∈ signalProcessors (pipelineRef p).signalType) : Form e .static
  | userTransform (p : OTLPPipeline) (hp : p ∈ opts.pipelines)
      (h : userTransform p = some e) : Form e .transform
  | userFilter (p : OTLPPipeline) (hp : p ∈ opts.pipelines) (h : userFilter p = some e) :
      Form e .filter
  | namespaceFilter (p : OTLPPipeline) (hp : p ∈ opts.pipelines)
      (h : namespaceFilter p = some e) : Form e .filter

variable {opts} {e : String × ProcessorConfig} (lib : ExporterLib) {queueSize : Nat}

@[simp] theorem trace_mem_pipelines {tp : TracePipeline} :
    OTLPPipeline.trace tp ∈ opts.pipelines ↔ tp ∈ opts.tracePipelines := by
  simp [BuildOptions.pipelines]

@[simp] theorem log_mem_pipelines {lp : LogPipeline} :
    OTLPPipeline.log lp ∈ opts.pipelines ↔ lp ∈ opts.logPipelines := by
  simp [BuildOptions.pipelines]

@[simp] theorem metric_mem_pipelines {mp : MetricPipeline} :
    OTLPPipeline.metric mp ∈ opts.pipelines ↔ mp ∈ opts.metricPipelines := by
  simp [BuildOptions.pipelines]

theorem tracePlan_form {tp : TracePipeline} (htp : .trace tp ∈ opts.pipelines)
    (he : e ∈ (tracePlan lib opts queueSize tp).processors) : ∃ f, Form opts e f := by
  obtain ⟨c, hc, hentry⟩ := List.mem_filterMap.mp he
  have hsplit : c ∈ sharedComponents opts ∨ c = addOTLPReceiver ∨
      c = addTraceUserDefinedTransformProcessor tp ∨ c = addTraceUserDefinedFilterProcessor tp ∨
      c = addTraceBatchProcessor ∨ c = addTraceOTLPExporter lib queueSize tp := by
    simp only [tracePlan, sharedComponents, List.mem_cons, List.not_mem_nil, or_false] at hc ⊢
    grind only
  rcases hsplit with hshared | rfl | rfl | rfl | rfl | rfl
  · exact ⟨_, .shared c hshared hentry⟩
  · cases hentry
  · exact ⟨_, .userTransform (.trace tp) htp hentry⟩
  · exact ⟨_, .userFilter (.trace tp) htp hentry⟩
  · cases hentry
    exact ⟨_, .signal (.trace tp) htp (.head _)⟩
  · cases hentry

theorem logPlan_form {lp : LogPipeline} (hlp : .log lp ∈ opts.pipelines)
    (he : e ∈ (logPlan lib opts queueSize lp).processors) : ∃ f, Form opts e f := by
  obtain ⟨c, hc, hentry⟩ := List.mem_filterMap.mp he
  have hsplit : c ∈ sharedComponents opts ∨ c = addOTLPReceiver ∨
      c = addDropIfInputSourceOTLPProcessor lp ∨ c = addNamespaceFilterProcessor lp ∨
      c = addLogUserDefinedTransformProcessor lp ∨ c = addLogUserDefinedFilterProcessor lp ∨
      c = addLogBatchProcessor ∨ c = addLogOTLPExporter lib queueSize lp := by
    simp only [logPlan, sharedComponents, List.mem_cons, List.not_mem_nil, or_false] at hc ⊢
    grind only
  rcases hsplit with hshared | rfl | rfl | rfl | rfl | rfl | rfl | rfl
  · exact ⟨_, .shared c hshared hentry⟩
  · cases hentry
  · unfold addDropIfInputSourceOTLPProcessor at hentry
    split at hentry
    · cases hentry
    · cases hentry
      exact ⟨_, .signal (.log lp) hlp (.tail _ (.head _))⟩
  · exact ⟨_, .namespaceFilter (.log lp) hlp hentry⟩
  · exact ⟨_, .userTransform (.log lp) hlp hentry⟩
  · exact ⟨_, .userFilter (.log lp) hlp hentry⟩
  · cases hentry
    exact ⟨_, .signal (.log lp) hlp (.head _)⟩
  · unfold addLogOTLPExporter at hentry
    split at hentry <;> cases hentry

theorem metricOutputPlan_form {mp : MetricPipeline} (hmp : .metric mp ∈ opts.pipelines)
    (he : e ∈ (metricOutputPlan lib queueSize mp).processors) : ∃ f, Form opts e f := by
  obtain ⟨c, hc, hentry⟩ := List.mem_filterMap.mp he
  simp only [metricOutputPlan, List.mem_cons, List.not_mem_nil, or_false] at hc
  rcases hc with rfl | rfl | rfl | rfl | rfl | rfl | rfl | rfl | rfl
  · cases hentry
  · unfold addMetricDropOTLPIfInputDisabledProcessor at hentry
    split at hentry
    · cases hentry
    · cases hentry
      exact ⟨_, .signal (.metric mp) hmp (.tail _ (.head _))⟩
  · exact ⟨_, .namespaceFilter (.metric mp) hmp hentry⟩
  · exact ⟨_, .shared _ (by simp [sharedComponents]) hentry⟩
  · exact ⟨_, .userTransform (.metric mp) hmp hentry⟩
  · exact ⟨_, .userFilter (.metric mp) hmp hentry⟩
  · unfold addMetricCumulativeToDeltaProcessor at hentry
    split at hentry
    · exact ⟨_, .shared _ (by simp [sharedComponents]) hentry⟩
    · cases hentry
    · cases hentry
  · cases hentry
    exact ⟨_, .signal (.metric mp) hmp (.head _)⟩
  · cases hentry

theorem metricStagePlan_form {plan : ServicePlan}
    (hplan : plan ∈ [metricInputOTLPPlan, metricInputKymaStatsPlan, metricEnrichmentPlan opts])
    (he : e ∈ plan.processors) : ∃ f, Form opts e f := by
  obtain ⟨c, hc, hentry⟩ := List.mem_filterMap.mp he
  have hsplit : c ∈ sharedComponents opts ∨
      c ∈ [addOTLPReceiver, addMetricKymaStatsReceiver, addMetricExporterForInputForwarder,
        addMetricReceiverForInputForwarder, addMetricExporterForEnrichmentForwarder] := by
    simp only [List.mem_cons, List.not_mem_nil, or_false] at hplan
    rcases hplan with rfl | rfl | rfl <;>
      simp only [metricInputOTLPPlan, metricInputKymaStatsPlan, metricEnrichmentPlan,
        sharedComponents, List.mem_cons, List.not_mem_nil, or_false] at hc ⊢ <;>
      grind only
  rcases hsplit with hshared | hother
  · exact ⟨_, .shared c hshared hentry⟩
  · simp only [List.mem_cons, List.not_mem_nil, or_false] at hother
    rcases hother with rfl | rfl | rfl | rfl | rfl <;> cases hentry

theorem servicePlans_form {plan : ServicePlan} (hplan : plan ∈ servicePlans lib opts)
    (he : e ∈ plan.processors) : ∃ f, Form opts e f := by
  simp only [servicePlans, List.mem_append] at hplan
  rcases hplan with (hplan | hplan) | hplan
  · obtain ⟨tp, htp, rfl⟩ := List.mem_map.mp hplan
    exact tracePlan_form lib (trace_mem_pipelines.mpr htp) he
  · obtain ⟨lp, hlp, rfl⟩ := List.mem_map.mp hplan
    exact logPlan_form lib (log_mem_pipelines.mpr hlp) he
  · unfold metricPlans at hplan
    split at hplan
    · cases hplan
    · rcases List.mem_append.mp hplan with hstage | houtput
      · exact metricStagePlan_form hstage he
      · obtain ⟨mp, hmp, rfl⟩ := List.mem_map.mp houtput
        exact metricOutputPlan_form lib (metric_mem_pipelines.mpr hmp) he

end Forms

/-! ## Which IDs can be equal -/

theorem take_toList_append (p s : String) {n : Nat} (h : n ≤ p.toList.length) :
    (p ++ s).toList.take n = p.toList.take n := by
  rw [String.toList_append, List.take_append_of_le_length h]

def sharedIDs : List String := (sharedComponents {}).map (·.processorID)

theorem sharedComponents_ids (opts : BuildOptions) :
    (sharedComponents opts).map (·.processorID) = sharedIDs := by
  simp only [sharedIDs, sharedComponents, List.map_cons, addInsertClusterAttributesProcessor,
    addMetricSetInstrumentationScopeToKymaProcessor, Component.processorID]
  rfl

def staticIDs : List String :=
  componentIDBatchProcessor :: componentIDDropIfInputSourceOTLPProcessor :: sharedIDs

theorem staticIDs_nodup : staticIDs.Nodup := by decide

def family (id : String) : Family :=
  if id ∈ staticIDs then .static
  else if id.toList.take 1 = ['t'] then .transform
  else .filter

theorem family_static {id : String} (h : id ∈ staticIDs) : family id = .static := if_pos h

theorem family_filter {id : String} (h : id ∉ staticIDs) (hhead : id.toList.take 1 = ['f']) :
    family id = .filter := by
  rw [family, if_neg h, hhead]
  rfl

theorem notMem_staticIDs_of_prefix {part : String}
    (h : ∀ id ∈ staticIDs, ¬ bytes part <+: bytes id) (rest : String) :
    part ++ rest ∉ staticIDs := by
  intro hmem
  apply h _ hmem
  rw [bytes_append]
  exact List.prefix_append _ _

theorem notMem_staticIDs_of_suffix {part : String}
    (h : ∀ id ∈ staticIDs, ¬ bytes part <:+ bytes id) (front : String) :
    front ++ part ∉ staticIDs := by
  intro hmem
  apply h _ hmem
  rw [bytes_append]
  exact List.suffix_append _ _

/-- What stands in front of the name of the pipeline. -/
def userDefinedPart (kind : String) (signal : SignalType) : String :=
  kind ++ (⟨"", signal⟩ : PipelineRef).typePrefix ++ "-user-defined-"

def userDefinedParts (kind : String) : List String :=
  [.trace, .metric, .log].map (userDefinedPart kind)

theorem mem_userDefinedParts (kind : String) (signal : SignalType) :
    userDefinedPart kind signal ∈ userDefinedParts kind := by
  apply List.mem_map_of_mem
  cases signal <;> simp

theorem userDefined_injective {kind : String}
    (hfree : PrefixFree ((userDefinedParts kind).map bytes)) {r r' : PipelineRef}
    (h : userDefinedPart kind r.signalType ++ r.name =
      userDefinedPart kind r'.signalType ++ r'.name) : r = r' := by
  obtain ⟨name, signal⟩ := r
  obtain ⟨name', signal'⟩ := r'
  obtain ⟨hpart, rfl⟩ :=
    hfree.text_inj (mem_userDefinedParts _ _) (mem_userDefinedParts _ _) h
  have htext : signal.text = signal'.text := (String.append_left_inj _).mp
    ((String.append_right_inj _).mp ((String.append_left_inj _).mp hpart))
  have hsignal : signal = signal' := by
    revert htext
    cases signal <;> cases signal' <;> decide
  rw [hsignal]

theorem userDefinedTransform_injective {r r' : PipelineRef}
    (h : componentIDUserDefinedTransformProcessor r = componentIDUserDefinedTransformProcessor r') :
    r = r' :=
  @userDefined_injective "transform/" (by decide +kernel) r r' h

theorem userDefinedFilter_injective {r r' : PipelineRef}
    (h : componentIDUserDefinedFilterProcessor r = componentIDUserDefinedFilterProcessor r') :
    r = r' :=
  @userDefined_injective "filter/" (by decide +kernel) r r' h

theorem userDefinedParts_not_static : ∀ kind ∈ ["transform/", "filter/"],
    ∀ part ∈ userDefinedParts kind, ∀ id ∈ staticIDs, ¬ bytes part <+: bytes id := by
  decide +kernel

theorem family_userTransform (r : PipelineRef) :
    family (componentIDUserDefinedTransformProcessor r) = .transform := by
  have hstatic : componentIDUserDefinedTransformProcessor r ∉ staticIDs :=
    notMem_staticIDs_of_prefix (userDefinedParts_not_static _ (.head _) _
      (mem_userDefinedParts _ r.signalType)) r.name
  have hhead : (componentIDUserDefinedTransformProcessor r).toList.take 1 = ['t'] := by
    simp only [componentIDUserDefinedTransformProcessor, String.append_assoc]
    exact take_toList_append "transform/" _ (by decide)
  rw [family, if_neg hstatic, if_pos hhead]

theorem family_userFilter (r : PipelineRef) :
    family (componentIDUserDefinedFilterProcessor r) = .filter := by
  refine family_filter ?_ ?_
  · exact notMem_staticIDs_of_prefix (userDefinedParts_not_static _ (.tail _ (.head _)) _
      (mem_userDefinedParts _ r.signalType)) r.name
  · simp only [componentIDUserDefinedFilterProcessor, String.append_assoc]
    exact take_toList_append "filter/" _ (by decide)

/-- What stands behind the name of the pipeline. -/
def namespacePart : SignalType → String
  | .metric => "-filter-by-namespace-" ++ InputSourceType.otlp.text ++ "-input"
  | _ => "-filter-by-namespace"

def namespaceParts : List String := [.metric, .log].map namespacePart

theorem namespacePart_mem (signal : SignalType) : namespacePart signal ∈ namespaceParts := by
  cases signal with
  | metric => exact .head _
  | trace | log => exact .tail _ (.head _)

theorem namespacePart_injective {signal signal' : SignalType} (h : signal ≠ .trace)
    (h' : signal' ≠ .trace) (hpart : namespacePart signal = namespacePart signal') :
    signal = signal' := by
  revert h h' hpart
  cases signal <;> cases signal' <;> decide

theorem namespaceParts_suffixFree : SuffixFree (namespaceParts.map bytes) := by decide +kernel

theorem namespaceParts_not_static :
    ∀ part ∈ namespaceParts, ∀ id ∈ staticIDs, ¬ bytes part <:+ bytes id := by decide +kernel

theorem family_namespaceFilter (name : String) (signal : SignalType) :
    family ("filter/" ++ name ++ namespacePart signal) = .filter := by
  refine family_filter ?_ ?_
  · exact notMem_staticIDs_of_suffix (namespaceParts_not_static _ (namespacePart_mem signal)) _
  · rw [String.append_assoc]
    exact take_toList_append "filter/" _ (by decide)

structure DistinctNames (opts : BuildOptions) : Prop where
  traces : (opts.tracePipelines.map (·.name)).Nodup
  logs : (opts.logPipelines.map (·.name)).Nodup
  metrics : (opts.metricPipelines.map (·.name)).Nodup

structure SeparateProcessors (opts : BuildOptions) : Prop where
  signals : opts.metricPipelines = [] ∨ (opts.tracePipelines = [] ∧ opts.logPipelines = [])
  filters : ∀ p ∈ opts.pipelines, ∀ q ∈ opts.pipelines, ∀ f n,
    userFilter p = some f → namespaceFilter q = some n → f.1 = n.1 → f.2 = n.2

section Agreement

variable {opts : BuildOptions} {e e' : String × ProcessorConfig} {p q : OTLPPipeline}

theorem DistinctNames.ref_injective (h : DistinctNames opts) (hp : p ∈ opts.pipelines)
    (hq : q ∈ opts.pipelines) (href : pipelineRef p = pipelineRef q) : p = q := by
  cases p <;> cases q <;>
    simp only [pipelineRef, OTLPPipeline.objectMeta, OTLPPipeline.signal,
      PipelineRef.mk.injEq, reduceCtorEq, and_true, and_false] at href <;>
    simp only [trace_mem_pipelines, log_mem_pipelines, metric_mem_pipelines] at hp hq
  · rw [List.inj_on_of_nodup_map h.traces hp hq href]
  · rw [List.inj_on_of_nodup_map h.logs hp hq href]
  · rw [List.inj_on_of_nodup_map h.metrics hp hq href]

theorem userTransform_fst (h : userTransform p = some e) :
    e.1 = componentIDUserDefinedTransformProcessor (pipelineRef p) := by
  cases p <;> exact Component.processorEntry_fst h

theorem userFilter_fst (h : userFilter p = some e) :
    e.1 = componentIDUserDefinedFilterProcessor (pipelineRef p) := by
  cases p <;> exact Component.processorEntry_fst h

theorem namespaceFilter_fst (h : namespaceFilter p = some e) :
    (pipelineRef p).signalType ≠ .trace ∧
      e.1 = "filter/" ++ (pipelineRef p).name ++ namespacePart (pipelineRef p).signalType := by
  cases p with
  | trace tp => cases h
  | log lp =>
    refine ⟨nofun, ?_⟩
    rw [Component.processorEntry_fst h]
    rfl
  | metric mp =>
    have hid : e.1 = componentIDNamespacePerInputFilterProcessor mp.name .otlp :=
      Component.processorEntry_fst h
    refine ⟨nofun, ?_⟩
    change e.1 = "filter/" ++ mp.name ++ ("-filter-by-namespace-" ++ InputSourceType.otlp.text ++ _)
    rw [hid, componentIDNamespacePerInputFilterProcessor]
    simp only [String.append_assoc]

theorem family_of_userTransform (h : userTransform p = some e) : family e.1 = .transform := by
  rw [userTransform_fst h, family_userTransform]

theorem family_of_userFilter (h : userFilter p = some e) : family e.1 = .filter := by
  rw [userFilter_fst h, family_userFilter]

theorem family_of_namespaceFilter (h : namespaceFilter p = some e) : family e.1 = .filter := by
  rw [(namespaceFilter_fst h).2, family_namespaceFilter]

theorem namespaceFilter_injective (hp : namespaceFilter p = some e)
    (hq : namespaceFilter q = some e') (hkey : e.1 = e'.1) : pipelineRef p = pipelineRef q := by
  obtain ⟨hs, he⟩ := namespaceFilter_fst hp
  obtain ⟨hs', he'⟩ := namespaceFilter_fst hq
  obtain ⟨hname, hpart⟩ := namespaceParts_suffixFree.text_inj (namespacePart_mem _)
    (namespacePart_mem _) (he.symm.trans (hkey.trans he'))
  exact congrArg₂ PipelineRef.mk ((String.append_right_inj _).mp hname)
    (namespacePart_injective hs hs' hpart)

theorem sharedComponents_mem_staticIDs {c : Component} (hc : c ∈ sharedComponents opts)
    (h : c.processorEntry = some e) : e.1 ∈ sharedIDs := by
  rw [Component.processorEntry_fst h, ← sharedComponents_ids opts]
  exact List.mem_map_of_mem hc

theorem signalProcessors_id {signal : SignalType} (h : e ∈ signalProcessors signal) :
    e.1 = componentIDBatchProcessor ∨ e.1 = componentIDDropIfInputSourceOTLPProcessor := by
  cases signal <;> simp [signalProcessors] at h <;> rcases h with rfl | rfl <;> simp

/-- Static processors agree unless a metric pipeline meets a pipeline of another signal. -/
theorem signalProcessors_agree {signal signal' : SignalType}
    (hmetric : signal = .metric ↔ signal' = .metric) (h : e ∈ signalProcessors signal)
    (h' : e' ∈ signalProcessors signal') (hkey : e.1 = e'.1) : e.2 = e'.2 := by
  have hids : componentIDBatchProcessor ≠ componentIDDropIfInputSourceOTLPProcessor := by decide
  cases signal <;> cases signal' <;>
    simp only [reduceCtorEq, iff_true, iff_false, not_true_eq_false] at hmetric <;>
    simp only [signalProcessors, List.mem_cons, List.not_mem_nil, or_false] at h h' <;>
    rcases h with rfl | rfl <;> rcases h' with rfl | rfl <;>
    first | rfl | exact absurd hkey hids | exact absurd hkey.symm hids

theorem Form.family_eq {f : Family} (h : Form opts e f) : family e.1 = f := by
  cases h with
  | shared c hc h => exact family_static (by simp [staticIDs, sharedComponents_mem_staticIDs hc h])
  | signal p hp h =>
    exact family_static (by rcases signalProcessors_id h with h | h <;> simp [staticIDs, h])
  | userTransform p hp h => exact family_of_userTransform h
  | userFilter p hp h => exact family_of_userFilter h
  | namespaceFilter p hp h => exact family_of_namespaceFilter h

/-- A pipeline of another signal than metrics excludes metric pipelines. -/
theorem SeparateProcessors.metric_iff (hsep : SeparateProcessors opts) (hp : p ∈ opts.pipelines)
    (hq : q ∈ opts.pipelines) : (pipelineRef p).signalType = .metric ↔
      (pipelineRef q).signalType = .metric := by
  cases p <;> cases q <;>
    simp only [pipelineRef, OTLPPipeline.objectMeta, OTLPPipeline.signal,
      reduceCtorEq] <;>
    simp only [trace_mem_pipelines, log_mem_pipelines, metric_mem_pipelines] at hp hq <;>
    rcases hsep.signals with h | ⟨h, h'⟩ <;> simp_all

theorem shared_ne_signal {c : Component} {signal : SignalType} (hc : c ∈ sharedComponents opts)
    (h : c.processorEntry = some e) (h' : e' ∈ signalProcessors signal) : e.1 ≠ e'.1 := by
  intro hkey
  have hmem := sharedComponents_mem_staticIDs hc h
  have hnodup := staticIDs_nodup
  simp only [staticIDs, List.nodup_cons, List.mem_cons, not_or] at hnodup
  rcases signalProcessors_id h' with hid | hid
  · exact hnodup.1.2 (hid ▸ hkey ▸ hmem)
  · exact hnodup.2.1 (hid ▸ hkey ▸ hmem)

theorem Form.agree (hnames : DistinctNames opts) (hsep : SeparateProcessors opts) {f f' : Family}
    (he : Form opts e f) (he' : Form opts e' f') (hkey : e.1 = e'.1) : e.2 = e'.2 := by
  obtain rfl : f = f' := by rw [← he.family_eq, ← he'.family_eq, hkey]
  -- two processors of one pipeline and one kind are the same
  have hsame : ∀ {g : OTLPPipeline → Option (String × ProcessorConfig)} {p q}, p ∈ opts.pipelines →
      q ∈ opts.pipelines → pipelineRef p = pipelineRef q → g p = some e → g q = some e' →
        e.2 = e'.2 := by
    intro g p q hp hq href h h'
    rw [hnames.ref_injective hp hq href, h'] at h
    cases h
    rfl
  cases he with
  | shared c hc h =>
    cases he' with
    | shared c' hc' h' =>
      have hnodup : ((sharedComponents opts).map (·.processorID)).Nodup := by
        rw [sharedComponents_ids]
        exact (staticIDs_nodup.of_cons).of_cons
      rw [Component.processorEntry_fst h, Component.processorEntry_fst h'] at hkey
      rw [List.inj_on_of_nodup_map hnodup hc hc' hkey, h'] at h
      cases h
      rfl
    | signal q hq h' => exact absurd hkey (shared_ne_signal hc h h')
  | signal p hp h =>
    cases he' with
    | shared c hc h' => exact absurd hkey.symm (shared_ne_signal hc h' h)
    | signal q hq h' => exact signalProcessors_agree (hsep.metric_iff hp hq) h h' hkey
  | userTransform p hp h =>
    cases he' with
    | userTransform q hq h' =>
      rw [userTransform_fst h, userTransform_fst h'] at hkey
      exact hsame hp hq (userDefinedTransform_injective hkey) h h'
  | userFilter p hp h =>
    cases he' with
    | userFilter q hq h' =>
      rw [userFilter_fst h, userFilter_fst h'] at hkey
      exact hsame hp hq (userDefinedFilter_injective hkey) h h'
    | namespaceFilter q hq h' => exact hsep.filters p hp q hq e e' h h' hkey
  | namespaceFilter p hp h =>
    cases he' with
    | userFilter q hq h' => exact (hsep.filters q hq p hp e' e h' h hkey.symm).symm
    | namespaceFilter q hq h' => exact hsame hp hq (namespaceFilter_injective h h' hkey) h h'

theorem pipeline_processors (lib : ExporterLib) (hp : p ∈ opts.pipelines) :
    ∃ plan ∈ servicePlans lib opts,
      (∀ e ∈ signalProcessors (pipelineRef p).signalType, e.1 = componentIDBatchProcessor →
        e ∈ plan.processors) ∧
      (∀ e, userFilter p = some e → e ∈ plan.processors) ∧
      (∀ e, namespaceFilter p = some e → e ∈ plan.processors) := by
  have hmem : ∀ {plan : ServicePlan} {c : Component} {e}, c ∈ plan.components →
      c.processorEntry = some e → e ∈ plan.processors :=
    fun hc h => List.mem_filterMap.mpr ⟨_, hc, h⟩
  have hids : componentIDDropIfInputSourceOTLPProcessor ≠ componentIDBatchProcessor := by decide
  cases p with
  | trace tp =>
    rw [trace_mem_pipelines] at hp
    have hplan : tracePlan lib opts _ tp ∈ tracePlans lib opts := List.mem_map_of_mem hp
    refine ⟨_, List.mem_append_left _ (List.mem_append_left _ hplan), ?_, ?_, ?_⟩
    · intro e he _
      obtain rfl := List.mem_singleton.mp he
      exact hmem (c := addTraceBatchProcessor) (by simp [tracePlan]) rfl
    · exact fun e => hmem (by simp [tracePlan])
    · exact fun e he => by cases he
  | log lp =>
    rw [log_mem_pipelines] at hp
    have hplan : logPlan lib opts _ lp ∈ logPlans lib opts := List.mem_map_of_mem hp
    refine ⟨_, List.mem_append_left _ (List.mem_append_right _ hplan), ?_, ?_, ?_⟩
    · intro e he hid
      rcases List.mem_cons.mp he with rfl | he
      · exact hmem (c := addLogBatchProcessor) (by simp [logPlan]) rfl
      · rw [List.mem_singleton.mp he] at hid
        exact absurd hid hids
    · exact fun e => hmem (by simp [logPlan])
    · exact fun e => hmem (by simp [logPlan])
  | metric mp =>
    rw [metric_mem_pipelines] at hp
    have hplan : metricOutputPlan lib (batchingMaxQueueSize / opts.metricPipelines.length) mp ∈
        metricPlans lib opts := by
      rw [metricPlans, if_neg (List.ne_nil_of_mem hp)]
      exact List.mem_append_right _ (List.mem_map_of_mem hp)
    refine ⟨_, List.mem_append_right _ hplan, ?_, ?_, ?_⟩
    · intro e he hid
      rcases List.mem_cons.mp he with rfl | he
      · exact hmem (c := addMetricBatchProcessor) (by simp [metricOutputPlan]) rfl
      · rw [List.mem_singleton.mp he] at hid
        exact absurd hid hids
    · exact fun e => hmem (by simp [metricOutputPlan])
    · exact fun e => hmem (by simp [metricOutputPlan])

def registrations (lib : ExporterLib) (opts : BuildOptions) : List (String × ProcessorConfig) :=
  (servicePlans lib opts).flatMap ServicePlan.processors

theorem batch_clash (hp : p ∈ opts.pipelines) (hq : q ∈ opts.pipelines)
    (hpm : (pipelineRef p).signalType = .metric) (hqm : (pipelineRef q).signalType ≠ .metric)
      (lib : ExporterLib) :
    ¬ ∀ e ∈ registrations lib opts, ∀ e' ∈ registrations lib opts, e.1 = e'.1 → e.2 = e'.2 := by
  intro hagree
  obtain ⟨plan, hplan, hbatch, _, _⟩ := pipeline_processors lib hp
  obtain ⟨plan', hplan', hbatch', _, _⟩ := pipeline_processors lib hq
  have hmetric := hbatch (componentIDBatchProcessor, .batch 1024 "10s" 1024)
    (by simp [hpm, signalProcessors]) rfl
  have hother := hbatch' (componentIDBatchProcessor, .batch 512 "10s" 512)
    (by cases h : (pipelineRef q).signalType <;> simp_all [signalProcessors]) rfl
  have hsizes := hagree _ (List.mem_flatMap.mpr ⟨plan, hplan, hmetric⟩) _
    (List.mem_flatMap.mpr ⟨plan', hplan', hother⟩) rfl
  simp at hsizes

theorem registrations_agree_iff (lib : ExporterLib) (hnames : DistinctNames opts) :
    (∀ e ∈ registrations lib opts, ∀ e' ∈ registrations lib opts, e.1 = e'.1 → e.2 = e'.2) ↔
      SeparateProcessors opts := by
  constructor
  · intro hagree
    constructor
    · by_cases hmetrics : opts.metricPipelines = []
      · exact .inl hmetrics
      · obtain ⟨mp, hmp⟩ := List.exists_mem_of_ne_nil _ hmetrics
        refine .inr ⟨?_, ?_⟩
        · by_contra htraces
          obtain ⟨tp, htp⟩ := List.exists_mem_of_ne_nil _ htraces
          exact batch_clash (metric_mem_pipelines.mpr hmp) (trace_mem_pipelines.mpr htp) rfl
            nofun lib hagree
        · by_contra hlogs
          obtain ⟨lp, hlp⟩ := List.exists_mem_of_ne_nil _ hlogs
          exact batch_clash (metric_mem_pipelines.mpr hmp) (log_mem_pipelines.mpr hlp) rfl
            nofun lib hagree
    · intro p hp q hq f n hf hn hkey
      obtain ⟨plan, hplan, _, hfilter, _⟩ := pipeline_processors lib hp
      obtain ⟨plan', hplan', _, _, hnamespace⟩ := pipeline_processors lib hq
      exact hagree f (List.mem_flatMap.mpr ⟨plan, hplan, hfilter f hf⟩) n
        (List.mem_flatMap.mpr ⟨plan', hplan', hnamespace n hn⟩) hkey
  · intro hsep e he e' he' hkey
    obtain ⟨plan, hplan, hmem⟩ := List.mem_flatMap.mp he
    obtain ⟨plan', hplan', hmem'⟩ := List.mem_flatMap.mp he'
    obtain ⟨f, hform⟩ := servicePlans_form lib hplan hmem
    obtain ⟨f', hform'⟩ := servicePlans_form lib hplan' hmem'
    exact hform.agree hnames hsep hform' hkey

end Agreement

/-! ## The service pipelines of a build have different IDs -/

theorem nodup_map_id {α : Type} {l : List α} {name : α → String} (hl : (l.map name).Nodup)
    (pre post : String) : (l.map fun a => pre ++ name a ++ post).Nodup := by
  have hcomp : (l.map fun a => pre ++ name a ++ post) =
      (l.map name).map fun s => pre ++ s ++ post := by simp
  rw [hcomp]
  refine hl.map fun s s' h => ?_
  exact (String.append_right_inj _).mp ((String.append_left_inj _).mp h)

theorem disjoint_of_begins {l l' : List String} {a b : String} (h : ∀ id ∈ l, Begins a id)
    (h' : ∀ id ∈ l', Begins b id) (hab : ¬ bytes a <+: bytes b) (hba : ¬ bytes b <+: bytes a) :
    l.Disjoint l' :=
  fun id hid hid' => (h id hid).ne (h' id hid') hab hba rfl

def metricStageIDs : List String :=
  ["metrics/input-otlp", "metrics/input-kyma-stats", "metrics/enrichment"]

theorem metricStage_ids (opts : BuildOptions) :
    [metricInputOTLPPlan, metricInputKymaStatsPlan, metricEnrichmentPlan opts].map (·.id) =
      metricStageIDs := rfl

theorem metricStageIDs_begin : ∀ id ∈ metricStageIDs, Begins "metrics/" id :=
  List.forall_iff_forall_mem.mp
    ⟨⟨"input-otlp", rfl⟩, ⟨"input-kyma-stats", rfl⟩, ⟨"enrichment", rfl⟩⟩

variable {opts : BuildOptions}

theorem metricPlans_ids_nodup (lib : ExporterLib)
    (hnames : DistinctNames opts) : ((metricPlans lib opts).map (·.id)).Nodup := by
  unfold metricPlans
  split
  · exact List.nodup_nil
  · rw [List.map_append, List.map_map, metricStage_ids]
    refine List.Nodup.append (by decide) (nodup_map_id hnames.metrics "metrics/" "-output") ?_
    intro id hstage houtput
    obtain ⟨mp, _, rfl⟩ := List.mem_map.mp houtput
    have hend : ∀ id ∈ metricStageIDs, ¬ bytes "-output" <:+ bytes id := by decide +kernel
    apply hend _ hstage
    change _ <:+ bytes ("metrics/" ++ mp.name ++ "-output")
    rw [bytes_append]
    exact List.suffix_append _ _

theorem servicePlans_ids_nodup (lib : ExporterLib)
    (hnames : DistinctNames opts) : ((servicePlans lib opts).map (·.id)).Nodup := by
  have htraces : ∀ id ∈ (tracePlans lib opts).map (·.id), Begins "traces/" id := by
    simp only [tracePlans, List.forall_mem_map]
    exact fun tp _ => begins_append _ tp.name
  have hlogs : ∀ id ∈ (logPlans lib opts).map (·.id), Begins "logs/" id := by
    simp only [logPlans, List.forall_mem_map]
    exact fun lp _ => begins_append _ lp.name
  have hmetrics : ∀ id ∈ (metricPlans lib opts).map (·.id), Begins "metrics/" id := by
    intro id hid
    unfold metricPlans at hid
    split at hid
    · cases hid
    · rw [List.map_append, List.mem_append, List.map_map, metricStage_ids] at hid
      rcases hid with hstage | houtput
      · exact metricStageIDs_begin id hstage
      · obtain ⟨mp, _, rfl⟩ := List.mem_map.mp houtput
        exact (begins_append _ mp.name).append "-output"
  have htracesNodup : ((tracePlans lib opts).map (·.id)).Nodup := by
    simpa [tracePlans, tracePlan, formatTraceServicePipelineID, Function.comp_def]
      using nodup_map_id hnames.traces "traces/" ""
  have hlogsNodup : ((logPlans lib opts).map (·.id)).Nodup := by
    simpa [logPlans, logPlan, formatLogServicePipelineID, Function.comp_def]
      using nodup_map_id hnames.logs "logs/" ""
  rw [servicePlans, List.map_append, List.map_append]
  refine (htracesNodup.append hlogsNodup (disjoint_of_begins htraces hlogs (by decide +kernel)
    (by decide +kernel))).append
    (metricPlans_ids_nodup lib hnames) ?_
  rw [List.disjoint_append_left]
  exact ⟨disjoint_of_begins htraces hmetrics (by decide +kernel) (by decide +kernel),
    disjoint_of_begins hlogs hmetrics (by decide +kernel) (by decide +kernel)⟩

theorem distinctNames_sort (h : DistinctNames opts) :
    DistinctNames (sortPipelinesByName opts) where
  traces := ((List.perm_insertionSort _ _).map _).nodup_iff.mpr h.traces
  logs := ((List.perm_insertionSort _ _).map _).nodup_iff.mpr h.logs
  metrics := ((List.perm_insertionSort _ _).map _).nodup_iff.mpr h.metrics

theorem mem_pipelines_sort {p : OTLPPipeline} :
    p ∈ (sortPipelinesByName opts).pipelines ↔ p ∈ opts.pipelines := by
  cases p <;> simp [sortPipelinesByName, (List.perm_insertionSort _ _).mem_iff]

theorem separateProcessors_sort :
    SeparateProcessors (sortPipelinesByName opts) ↔ SeparateProcessors opts := by
  have hnil : ∀ {α : Type} (r : α → α → Prop) [DecidableRel r] (l : List α),
      l.insertionSort r = [] ↔ l = [] :=
    fun r _ l => by
      rw [← List.length_eq_zero_iff, List.length_insertionSort, List.length_eq_zero_iff]
  constructor <;> rintro ⟨hsignals, hfilters⟩ <;>
    exact ⟨by simpa [sortPipelinesByName, hnil] using hsignals,
      by simpa only [mem_pipelines_sort] using hfilters⟩

/-- Every service pipeline of a built configuration runs with the processor configurations that
its own builder returned, exactly if the processors of the pipelines are separate. -/
theorem processors_faithful_iff_separate (lib : ExporterLib) (answer : ApiTable)
    (opts : BuildOptions) (s : BuildState) (hnames : DistinctNames opts)
    (hbuild : evalE answer (build lib opts) = .ok s) :
    (∀ id sp, s.config.pipelines.lookup id = some sp →
      ∃ plan ∈ servicePlans lib (sortPipelinesByName opts), plan.id = id ∧
        sp.processors = plan.processors.map Prod.fst ∧
        ∀ e ∈ plan.processors, s.config.processors.lookup e.1 = some e.2) ↔
      SeparateProcessors opts := by
  have hadded := (build_returns lib opts).eval hbuild
  have hids := servicePlans_ids_nodup lib (distinctNames_sort hnames)
  rw [← separateProcessors_sort, ← registrations_agree_iff lib (distinctNames_sort hnames)]
  exact hadded.processors_faithful_iff hids (fun _ => rfl) rfl

def disabledInput : OTLPInput where
  enabled := some false

def sampleLogPipeline : LogPipeline where
  name := "audit"
  input := { otlp := some disabledInput }
  output := { otlp := some sampleOutput }

def sampleMetricPipeline : MetricPipeline where
  name := "backend"
  input := { otlp := some disabledInput }
  output := sampleOutput
  temporality := some .preserve

def disabledInputOptions : BuildOptions where
  logPipelines := [sampleLogPipeline]
  metricPipelines := [sampleMetricPipeline]

/-- The metric pipeline runs with the filter of the log pipeline, which has no condition for
metrics, so that OTLP metrics reach a backend that switched them off. -/
theorem disabled_otlp_metrics_pass_log_filter :
    DistinctNames disabledInputOptions ∧
    ∃ s sp, evalE noObjects (build sampleExporterLib disabledInputOptions) = .ok s ∧
      s.config.pipelines.lookup "metrics/backend-output" = some sp ∧
      componentIDDropIfInputSourceOTLPProcessor ∈ sp.processors ∧
      (addMetricDropOTLPIfInputDisabledProcessor sampleMetricPipeline).processorEntry =
        some (componentIDDropIfInputSourceOTLPProcessor,
          metricFilterProcessor [⟨[Ottl.kymaInputNameEquals .otlp]⟩]) ∧
      s.config.processors.lookup componentIDDropIfInputSourceOTLPProcessor =
        some dropIfInputSourceOTLPProcessor ∧
      dropIfInputSourceOTLPProcessor ≠
        metricFilterProcessor [⟨[Ottl.kymaInputNameEquals .otlp]⟩] := by
  obtain ⟨s, hbuild⟩ := exists_evalE_eq noObjects
    (x := build sampleExporterLib disabledInputOptions) rfl
  have hadded := (build_returns sampleExporterLib disabledInputOptions).eval hbuild
  refine ⟨⟨by decide, by decide, by decide⟩, s,
    (metricOutputPlan sampleExporterLib 256 sampleMetricPipeline).servicePipeline, hbuild, ?_, ?_,
    rfl, ?_, by decide⟩
  · rw [hadded.pipelines]
    rfl
  · decide
  · rw [hadded.processors, Registry.lookup_registerAll]
    rfl

def sampleTracePipeline : TracePipeline where
  name := "backend"
  output := sampleOutput
  filters := some [⟨["true"]⟩]

def traceAndLogOptions : BuildOptions where
  tracePipelines := [sampleTracePipeline]
  logPipelines := [sampleLogPipeline]

theorem traceAndLogOptions_unfiltered :
    ∀ q ∈ traceAndLogOptions.pipelines, namespaceFilter q = none :=
  List.forall_iff_forall_mem.mp ⟨rfl, rfl⟩

theorem traceAndLogOptions_separate : SeparateProcessors traceAndLogOptions where
  signals := .inl rfl
  filters := by
    intro p _ q hq f n _ hn _
    cases (traceAndLogOptions_unfiltered q hq).symm.trans hn

/-- A trace and a log pipeline share a configuration without disturbing each other. -/
theorem trace_and_log_processors_faithful :
    ∃ s, evalE noObjects (build sampleExporterLib traceAndLogOptions) = .ok s ∧
      ∀ id sp, s.config.pipelines.lookup id = some sp →
        ∃ plan ∈ servicePlans sampleExporterLib (sortPipelinesByName traceAndLogOptions),
          plan.id = id ∧ sp.processors = plan.processors.map Prod.fst ∧
          ∀ e ∈ plan.processors, s.config.processors.lookup e.1 = some e.2 := by
  obtain ⟨s, hbuild⟩ := exists_evalE_eq noObjects
    (x := build sampleExporterLib traceAndLogOptions) rfl
  refine ⟨s, hbuild, ?_⟩
  exact (processors_faithful_iff_separate sampleExporterLib noObjects traceAndLogOptions s
    ⟨by decide, by decide, by decide⟩ hbuild).mpr traceAndLogOptions_separate

end TelemetryManager.Gateway
