import TelemetryManager.ExporterValues
import TelemetryManager.GatewayStructure
import TelemetryManager.Reconcilable

/-! Gateway builds with pipelines that admission and validation have accepted. -/
namespace TelemetryManager.Gateway

open Collector Interaction OtlpExporter Reconcilable SharedTypes SecretRef

/-- The rules for a value. `hasValue` says that the submitted object has the key `value`, with any
text: the rules ask for the key, and an empty text is a text. -/
structure ValueRules (value : ValueType) (hasValue : Bool) : Prop where
  present : value.value ≠ "" → hasValue
  exclusive : ¬ (hasValue ∧ value.valueFrom.isSome)
  secretKeyRef : ∀ source, value.valueFrom = some source → ∃ ref, source.secretKeyRef = some ref ∧
    missingAttributes ref = []

def OptionalValue (value : ValueType) : Prop := ∃ hasValue, ValueRules value hasValue

/-- The key `value` or the key `valueFrom` is required besides. -/
def RequiredValue (value : ValueType) : Prop :=
  ∃ hasValue, ValueRules value hasValue ∧ (hasValue ∨ value.valueFrom.isSome)

/-- The rules for an OTLP output. That the text of a token URL is a URL is not among them. -/
structure OutputRules (output : OTLPOutput) : Prop where
  path : output.path ≠ "" → output.protocol = .http
  grpcOAuth2 : ∀ auth tls, output.authentication = some auth → auth.oauth2.isSome →
    output.protocol = .grpc → output.tls = some tls → tls.insecure = false
  endpoint : RequiredValue output.endpoint
  authentication : ∀ auth, output.authentication = some auth →
    ¬ (auth.basic.isSome ∧ auth.oauth2.isSome)
  basic : ∀ auth basic, output.authentication = some auth → auth.basic = some basic →
    RequiredValue basic.user ∧ RequiredValue basic.password
  oauth2 : ∀ auth oauth2, output.authentication = some auth → auth.oauth2 = some oauth2 →
    RequiredValue oauth2.tokenURL ∧ RequiredValue oauth2.clientID ∧
      RequiredValue oauth2.clientSecret
  headers : ∀ header ∈ output.headers, header.name ≠ "" ∧ RequiredValue header.toValueType
  tls : ∀ tls, output.tls = some tls → tls.cert.isSome = tls.key.isSome ∧
    ∀ value ∈ tls.ca.toList ++ tls.cert.toList ++ tls.key.toList, OptionalValue value

/-- The rules for a pipeline with an OTLP output. Admission fills the temporality of a metric
pipeline in. -/
def PipelineRules : OTLPPipeline → Prop
  | .trace tp => OutputRules tp.output
  | .log lp => ∃ output, lp.output.otlp = some output ∧ OutputRules output
  | .metric mp => OutputRules mp.output ∧ mp.temporality.isSome

structure Validated (v : Validator) (answer : ApiTable) (p : OTLPPipeline) : Prop where
  secretRefs : evalE answer (validate (secretRefs p)) = .ok ()
  endpoint : evalE answer (validateOTLPEndpoint v (otlpOutput p)) = .ok ()
  tls : evalE answer (validateTLS v ((otlpOutput p).bind (·.tls))) = .ok ()

def ExporterBuilds (lib : ExporterLib) (answer : ApiTable) (p : OTLPPipeline) : Prop :=
  ∃ output, otlpOutput p = some output ∧
    (∀ sendingQueue, Succeeds answer
      (otlpExporterWithEnvVars lib (pipelineRef p) output sendingQueue)) ∧
    ∀ oauth2, output.oauth2 = some oauth2 →
      Succeeds answer (oauth2ExtensionWithEnvVars (pipelineRef p) oauth2)

structure BuildableOutput (lib : ExporterLib) (output : OTLPOutput) : Prop where
  path : output.path ≠ "" → ∃ u, lib.parse output.path = .ok u
  headers : ∀ header ∈ output.headers, header.value ≠ "" ∨ header.valueFrom.isSome

def Buildable (lib : ExporterLib) (p : OTLPPipeline) : Prop :=
  ∀ output, otlpOutput p = some output → BuildableOutput lib output

section Accepted

variable {lib : ExporterLib} {v : Validator} {answer : ApiTable}
  {p : OTLPPipeline} {output : OTLPOutput} {value : ValueType}

theorem secretRefs_eq (houtput : otlpOutput p = some output) :
    secretRefs p = getSecretRefsInOTLPOutput output := by
  cases p with
  | trace tp | metric mp =>
    cases houtput
    rfl
  | log lp =>
    have hlog : lp.output.otlp = some output := houtput
    simp [secretRefs, getSecretRefsLogPipeline, hlog]

theorem PipelineRules.exists_output (hrules : PipelineRules p) :
    ∃ output, otlpOutput p = some output ∧ OutputRules output := by
  cases p with
  | trace tp => exact ⟨_, rfl, hrules⟩
  | metric mp => exact ⟨_, rfl, hrules.1⟩
  | log lp => exact hrules

theorem outputRules_of (hrules : PipelineRules p) (houtput : otlpOutput p = some output) :
    OutputRules output := by
  obtain ⟨_, hsome, hrules⟩ := hrules.exists_output
  cases hsome.symm.trans houtput
  exact hrules

theorem succeeds_resolveValue_of_text (h : value.value ≠ "") :
    Succeeds answer (resolveValue value) := by
  simp [resolveValue, h]

theorem succeeds_resolveValue_of_ref {ref : SecretKeyRef} (href : secretRefOf value = some ref)
    (h : Succeeds answer (getValue ref)) : Succeeds answer (resolveValue value) := by
  rcases resolveValue_cases value with ⟨-, hnone, -⟩ | ⟨-, ref', href', heq⟩ | ⟨-, hnone, -⟩
  · rw [href] at hnone
    cases hnone
  · rw [href] at href'
    cases href'
    rwa [heq]
  · rw [href] at hnone
    cases hnone

theorem succeeds_resolveOptional {optional : Option ValueType}
    (h : Succeeds answer (TlsCert.resolveOptional optional)) :
    ∀ value, optional = some value → Succeeds answer (resolveValue value) := by
  rintro value rfl
  obtain ⟨text, htext⟩ := h
  exact ⟨text, resolveOr_ok_iff.mp htext⟩

section Output

variable (h : Validated v answer p) (houtput : otlpOutput p = some output)

include h houtput

theorem Validated.succeeds_getValue (hvalue : value ∈ listedValues output) {ref : SecretKeyRef}
    (href : secretRefOf value = some ref) : Succeeds answer (getValue ref) := by
  have hrefs := h.secretRefs
  rw [secretRefs_eq houtput, getSecretRefsInOTLPOutput_eq] at hrefs
  have hcheck := evalE_forM_ok.mp hrefs ref
    (List.mem_filterMap.mpr ⟨value, hvalue, href⟩)
  have hread : Succeeds answer (getValue ref >>= fun _ => pure ()) := ⟨_, hcheck⟩
  obtain ⟨text, htext, -⟩ := succeeds_bind_iff.mp hread
  exact ⟨text, htext⟩

theorem Validated.succeeds_resolveValue (hvalue : value ∈ listedValues output)
    (hvalid : isValid (some value)) : Succeeds answer (resolveValue value) := by
  rcases isValid_iff.mp hvalid with htext | ⟨ref, href, -⟩
  · exact succeeds_resolveValue_of_text htext
  · exact succeeds_resolveValue_of_ref href (h.succeeds_getValue houtput hvalue href)

theorem Validated.endpoint_parses :
    ∃ text, evalE answer (resolveValue output.endpoint) = .ok text ∧
      ∃ u, v.url.parse text = .ok u := by
  have hendpoint := h.endpoint
  rw [houtput] at hendpoint
  obtain ⟨text, htext, hchecks⟩ := succeeds_bind_iff.mp ⟨_, hendpoint⟩
  refine ⟨text, resolveOr_ok_iff.mp htext, ?_⟩
  cases hparse : v.url.parse text with
  | ok u => exact ⟨u, rfl⟩
  | error err =>
    have herror : Endpoint.validateValue v.url (otlpEndpointParams output) text =
        .error (.endpointInvalid (.new err)) := by
      simp [Endpoint.validateValue, Endpoint.parseEndpoint, hparse, bind, Except.bind]
    rw [herror] at hchecks
    exact absurd hchecks (not_succeeds_throw _)

theorem Validated.tls_resolves {tls : OutputTLS} (htls : output.tls = some tls) :
    ∀ value ∈ tls.ca.toList ++ tls.cert.toList ++ tls.key.toList,
      Succeeds answer (resolveValue value) := by
  have hcheck := h.tls
  rw [houtput, Option.bind_some, htls, validateTLS] at hcheck
  by_cases hrequired : tlsValidationRequired tls
  · rw [if_pos hrequired, TlsCert.validate] at hcheck
    split at hcheck
    · cases hcheck
    · obtain ⟨values, hvalues, -⟩ := succeeds_bind_iff.mp ⟨_, hcheck⟩
      obtain ⟨cert, hcert, hrest⟩ := succeeds_bind_iff.mp ⟨_, hvalues⟩
      obtain ⟨key, hkey, hrest⟩ := succeeds_bind_iff.mp hrest
      obtain ⟨ca, hca, -⟩ := succeeds_bind_iff.mp hrest
      intro value hvalue
      simp only [List.mem_append, Option.mem_toList] at hvalue
      rcases hvalue with (hvalue | hvalue) | hvalue
      · exact succeeds_resolveOptional ⟨_, hca⟩ value hvalue
      · exact succeeds_resolveOptional ⟨_, hcert⟩ value hvalue
      · exact succeeds_resolveOptional ⟨_, hkey⟩ value hvalue
  · simp [tlsValidationRequired] at hrequired
    simp [hrequired]

end Output

/-- A header with a text or a source has a text or a reference without missing attributes. -/
theorem RequiredValue.isValid_iff (h : RequiredValue value) :
    isValid (some value) ↔ value.value ≠ "" ∨ value.valueFrom.isSome := by
  obtain ⟨hasValue, hrules, -⟩ := h
  rw [SharedTypes.isValid_iff]
  refine or_congr_right' fun htext => ?_
  rw [not_not] at htext
  constructor
  · rintro ⟨ref, href, -⟩
    cases hsource : value.valueFrom with
    | none => simp [secretRefOf, hsource] at href
    | some source => rfl
  · intro hsome
    obtain ⟨source, hsource⟩ := Option.isSome_iff_exists.mp hsome
    obtain ⟨ref, href, hfields⟩ := hrules.secretKeyRef source hsource
    exact ⟨ref, by simp [secretRefOf, htext, hsource, href], hfields⟩

/-- The exporter and the extension of an accepted pipeline fail only for its path or a header. -/
theorem exporterBuilds_iff (hparse : ∀ text, v.url.parse text = (lib.parse text).map Prod.fst)
    (hrules : PipelineRules p) (hvalid : Validated v answer p) :
    ExporterBuilds lib answer p ↔ Buildable lib p := by
  obtain ⟨output, houtput, hrules⟩ := hrules.exists_output
  obtain ⟨text, htext, u, hu⟩ := hvalid.endpoint_parses houtput
  have hendpoint : ∃ u, lib.parse text = .ok u := by
    rw [hparse] at hu
    cases hlib : lib.parse text with
    | error err => simp [hlib, Except.map] at hu
    | ok u => exact ⟨u, rfl⟩
  have hheader : ∀ header ∈ output.headers, (Succeeds answer (resolveValue header.toValueType) ↔
      header.value ≠ "" ∨ header.valueFrom.isSome) := by
    intro header hheader
    rw [← (hrules.headers header hheader).2.isValid_iff]
    refine ⟨fun ⟨text, hresolve⟩ => ?_, fun h => hvalid.succeeds_resolveValue houtput ?_ h⟩
    · obtain ⟨log, hexec, -⟩ := execE_evalE answer (resolveValue header.toValueType)
      rw [hresolve] at hexec
      exact ((Resolving.resolveValue _).covers log text hexec _ (List.mem_singleton_self _)).1
    · simp only [listedValues, List.mem_append, List.mem_map]
      exact .inl (.inr ⟨header, hheader, rfl⟩)
  have hexporter : ∀ sendingQueue, Succeeds answer
      (otlpExporterWithEnvVars lib (pipelineRef p) output sendingQueue) ↔
        BuildableOutput lib output := by
    intro sendingQueue
    rw [succeeds_otlpExporterWithEnvVars_iff]
    simp only [connectionValues, headerValues, List.forall_mem_append, List.forall_mem_singleton,
      List.forall_mem_map, htext, Except.ok.injEq, forall_eq']
    constructor
    · rintro ⟨⟨⟨-, hheaders⟩, -⟩, hpath⟩
      exact ⟨fun hne => (hpath hne).2, fun header hmem => (hheader header hmem).mp
        (hheaders header hmem)⟩
    · rintro ⟨hpath, hheaders⟩
      refine ⟨⟨⟨⟨fun value hvalue => ?_, text, htext⟩, fun header hmem => (hheader header hmem).mpr
        (hheaders header hmem)⟩, fun value hvalue => ?_⟩, fun hne => ⟨hendpoint, hpath hne⟩⟩
      · obtain ⟨hlisted, hv⟩ := mem_listed_of_mem_basicAuthValues hvalue
        exact hvalid.succeeds_resolveValue houtput hlisted hv
      · obtain ⟨-, tls, htls, hmem⟩ := mem_tls_of_mem_tlsValues hvalue
        exact hvalid.tls_resolves houtput htls value hmem
  have hextension : ∀ oauth2, output.oauth2 = some oauth2 →
      Succeeds answer (oauth2ExtensionWithEnvVars (pipelineRef p) oauth2) := by
    intro oauth2 hoauth2
    rw [(oauth2ExtensionWithEnvVars_resolving (pipelineRef p) oauth2).succeeds_iff]
    intro value hvalue
    obtain ⟨hlisted, hv⟩ := mem_listed_of_mem_oauth2Values hoauth2 hvalue
    exact hvalid.succeeds_resolveValue houtput hlisted hv
  simp only [ExporterBuilds, Buildable, houtput, Option.some.injEq, exists_eq_left', forall_eq',
    hexporter]
  exact ⟨fun h => h.1 (newSendingQueue 0), fun h => ⟨fun _ => h, hextension⟩⟩

end Accepted

section Shared

variable (lib : ExporterLib) (answer : ApiTable)

theorem succeeds_addPipelines_iff {α : Type} {add : α → BuildState → Client BuildState}
    {P : α → Prop} (pipelines : List α)
    (h : ∀ a ∈ pipelines, ∀ s, Succeeds answer (add a s) ↔ P a) (s : BuildState) :
    Succeeds answer (addPipelines add pipelines s) ↔ ∀ a ∈ pipelines, P a := by
  induction pipelines generalizing s with
  | nil => simp [addPipelines]
  | cons a pipelines ih =>
    rw [List.forall_mem_cons] at h
    rw [addPipelines, succeeds_bind_of (ih h.2), h.1, List.forall_mem_cons]

theorem succeeds_addPipeline_iff (errText : String) (r : PipelineRef)
    (auth : Option AuthenticationOptions) (plan : ServicePlan) (s : BuildState) :
    Succeeds answer (addPipeline errText r auth plan s) ↔
      (∀ oauth2, auth.bind (·.oauth2) = some oauth2 →
        Succeeds answer (oauth2ExtensionWithEnvVars r oauth2)) ∧
      ∀ c ∈ plan.components, c.Builds answer := by
  have hplan : ∀ s, Succeeds answer (mapErr (wrapf errText) (addServicePipeline plan s)) ↔
      ∀ c ∈ plan.components, c.Builds answer := by
    intro s
    rw [succeeds_mapErr_iff, succeeds_addServicePipeline_iff]
  rw [addPipeline, succeeds_bind_of hplan]
  refine and_congr_left' ?_
  unfold addOAuth2Extension
  cases auth.bind (·.oauth2) with
  | none => simp
  | some oauth2 =>
    refine (succeeds_bind_of (P := True) fun _ => by simp).trans ?_
    simp

variable {output : OTLPOutput} {p : OTLPPipeline}

theorem pipelinePlan_getLast? (opts : BuildOptions) (houtput : otlpOutput p = some output) :
    ∃ queueSize, (pipelinePlan lib opts p).components.getLast? =
      some (addOTLPExporter lib (pipelineRef p) output queueSize) := by
  cases p with
  | trace tp | metric mp =>
    cases houtput
    exact ⟨_, rfl⟩
  | log lp =>
    have hlog : lp.output.otlp = some output := houtput
    refine ⟨batchingMaxQueueSize / opts.logPipelines.length, ?_⟩
    simp only [pipelinePlan, logPlan, addLogOTLPExporter, hlog]
    rfl

/-- The components in front of the exporter never fail, so the plan fails with its exporter. -/
theorem pipelinePlan_builds_iff (opts : BuildOptions)
    (hrules : PipelineRules p) (houtput : otlpOutput p = some output) :
    (∀ c ∈ (pipelinePlan lib opts p).components, c.Builds answer) ↔
      ∀ sendingQueue, Succeeds answer
        (otlpExporterWithEnvVars lib (pipelineRef p) output sendingQueue) := by
  constructor
  · intro h sendingQueue
    obtain ⟨queueSize, hlast⟩ := pipelinePlan_getLast? lib opts houtput
    have hexporter : Succeeds answer (otlpExporterWithEnvVars lib (pipelineRef p) output
      (newSendingQueue queueSize)) := h _ (List.mem_of_getLast? hlast)
    rw [succeeds_otlpExporterWithEnvVars_iff] at hexporter ⊢
    exact hexporter
  · intro h
    refine List.forall_iff_forall_mem.mp ?_
    cases p with
    | trace tp =>
      cases houtput
      and_intros <;> first | trivial | exact h _
    | log lp =>
      have hlog : lp.output.otlp = some output := houtput
      simp only [pipelinePlan, logPlan, addLogOTLPExporter, hlog]
      and_intros <;> first | trivial | exact h _
    | metric mp =>
      cases houtput
      obtain ⟨temporality, htemporality⟩ := Option.isSome_iff_exists.mp hrules.2
      simp only [pipelinePlan, metricOutputPlan, addMetricCumulativeToDeltaProcessor, htemporality]
      cases temporality <;> and_intros <;> first | trivial | exact h _

/-- A round of the loop over the pipelines succeeds exactly if the exporter and the extension of
the pipeline are built. -/
theorem round_builds_iff (opts : BuildOptions)
    (hrules : PipelineRules p) (houtput : otlpOutput p = some output) (errText : String)
    (s : BuildState) :
    Succeeds answer (addPipeline errText (pipelineRef p) output.authentication
      (pipelinePlan lib opts p) s) ↔ ExporterBuilds lib answer p := by
  rw [succeeds_addPipeline_iff, pipelinePlan_builds_iff lib answer opts hrules houtput, and_comm]
  simp [ExporterBuilds, houtput]

theorem metricStage_builds {opts : BuildOptions} {plan : ServicePlan}
    (hplan : plan ∈ metricInputPlans ∨ plan = metricEnrichmentPlan opts) :
    ∀ c ∈ plan.components, c.Builds answer := by
  refine List.forall_iff_forall_mem.mp ?_
  rcases hplan with hinput | rfl
  · rcases mem_metricInputPlans.mp hinput with rfl | rfl <;> and_intros <;> trivial
  · and_intros <;> trivial

theorem succeeds_buildMetricPipelines_iff (opts : BuildOptions)
    (hrules : ∀ mp ∈ opts.metricPipelines, PipelineRules (.metric mp)) (s : BuildState) :
    Succeeds answer (buildMetricPipelines lib opts s) ↔
      ∀ mp ∈ opts.metricPipelines, ExporterBuilds lib answer (.metric mp) := by
  unfold buildMetricPipelines
  by_cases hempty : opts.metricPipelines = []
  · simp [hempty]
  · rw [if_neg hempty]
    -- a stage in front of the loop always succeeds
    have hstage : ∀ {errText plan f} {P : Prop},
        plan ∈ metricInputPlans ∨ plan = metricEnrichmentPlan opts →
        (∀ s, Succeeds answer (f s) ↔ P) → ∀ s, Succeeds answer
          (mapErr (wrapf errText) (addServicePipeline plan s) >>= f : Client BuildState) ↔ P := by
      intro errText plan f P hplan hf s
      rw [succeeds_bind_of hf, succeeds_mapErr_iff, succeeds_addServicePipeline_iff]
      exact and_iff_right (metricStage_builds answer hplan)
    have hloop := succeeds_addPipelines_iff answer opts.metricPipelines
      fun mp hmp s => round_builds_iff lib answer opts (hrules mp hmp) rfl
        "failed to add metric output service pipeline: " s
    exact hstage (.inl (by simp [metricInputPlans])) (hstage (.inl (by simp [metricInputPlans]))
      (hstage (.inr rfl) hloop)) _

theorem succeeds_build_iff (opts : BuildOptions) (hrules : ∀ p ∈ opts.pipelines, PipelineRules p) :
    Succeeds answer (build lib opts) ↔ ∀ p ∈ opts.pipelines, ExporterBuilds lib answer p := by
  suffices hsorted : ∀ opts : BuildOptions, (∀ p ∈ opts.pipelines, PipelineRules p) →
      (Succeeds answer (do
        let s ← buildTracePipelines lib opts ⟨newConfig, ∅⟩
        let s ← buildLogPipelines lib opts s
        buildMetricPipelines lib opts s) ↔ ∀ p ∈ opts.pipelines, ExporterBuilds lib answer p) by
    refine (hsorted (sortPipelinesByName opts) fun p hp =>
      hrules p (mem_pipelines_sort.mp hp)).trans
      ?_
    simp only [mem_pipelines_sort]
  intro opts hrules
  simp only [BuildOptions.pipelines, List.forall_mem_append, List.forall_mem_map] at hrules ⊢
  obtain ⟨⟨htrace, hlog⟩, hmetric⟩ := hrules
  have htraces := succeeds_addPipelines_iff answer opts.tracePipelines
    fun tp htp s => round_builds_iff lib answer opts (htrace tp htp) rfl
      "failed to add trace service pipeline: " s
  have hlogs : ∀ s, Succeeds answer (buildLogPipelines lib opts s) ↔
      ∀ lp ∈ opts.logPipelines, ExporterBuilds lib answer (.log lp) := by
    refine succeeds_addPipelines_iff answer opts.logPipelines fun lp hlp s => ?_
    obtain ⟨output, houtput, -⟩ := hlog lp hlp
    rw [houtput]
    exact round_builds_iff lib answer opts (hlog lp hlp) houtput _ s
  have hmetrics := succeeds_buildMetricPipelines_iff lib answer opts hmetric
  have hlater := fun s =>
    (succeeds_bind_of hmetrics (x := buildLogPipelines lib opts s)).trans
    (and_congr_left' (hlogs s))
  exact ((succeeds_bind_of hlater).trans (and_congr_left' (htraces _))).trans and_assoc.symm

end Shared

/-- If the rules and the validators accept all pipelines, then the exporter and the OAuth2 extension
of each one, and with them the shared build, can fail only for a path that is not a URL or a header
with an empty text. -/
theorem accepted_pipelines_build_iff (lib : ExporterLib) (v : Validator)
    (answer : ApiTable) (opts : BuildOptions)
    (hparse : ∀ text, v.url.parse text = (lib.parse text).map Prod.fst)
    (hrules : ∀ p ∈ opts.pipelines, PipelineRules p)
    (hvalid : ∀ p ∈ opts.pipelines, Validated v answer p) :
    ((∀ p ∈ opts.pipelines, ExporterBuilds lib answer p) ∧ Succeeds answer (build lib opts)) ↔
      ∀ p ∈ opts.pipelines, Buildable lib p := by
  have heach : ∀ p ∈ opts.pipelines, (ExporterBuilds lib answer p ↔ Buildable lib p) :=
    fun p hp => exporterBuilds_iff hparse (hrules p hp) (hvalid p hp)
  rw [succeeds_build_iff lib answer opts hrules, and_self]
  exact forall₂_congr heach

/-- Every percent sign stands in front of two hexadecimal digits. -/
def validEscapes : List Char → Bool
  | '%' :: a :: b :: rest =>
    (a.isDigit || a.toLower ∈ "abcdef".toList) && (b.isDigit || b.toLower ∈ "abcdef".toList) &&
      validEscapes rest
  | '%' :: _ => false
  | _ :: rest => validEscapes rest
  | [] => true

/-- A URL is an `https` URL with a host or a path. -/
def parseURL (text : String) : Except String (Endpoint.URL × String) :=
  if !validEscapes text.toList then .error "invalid URL escape"
  else if Text.hasPrefix text "https://" then
    let rest := text.toList.drop 8
    .ok ({ scheme := "https"
           host := String.ofList (rest.takeWhile (· ≠ '/'))
           path := String.ofList (rest.dropWhile (· ≠ '/')) }, "")
  else .ok ({ path := text }, "")

def urlExporterLib : ExporterLib := { sampleExporterLib with parse := parseURL }

def urlValidator : Validator :=
  let v := sampleValidator ⟨"kyma-system", "telemetry-tracepipeline"⟩ 0
  { v with url := { v.url with parse := fun text => (parseURL text).map Prod.fst } }

def httpOutput : OTLPOutput where
  protocol := .http
  endpoint := { value := sampleURL }
  path := "/v1/traces"

def sharedOptions (output : OTLPOutput) : BuildOptions where
  tracePipelines := [{ name := "healthy", output := httpOutput },
    { name := "other", output := output }]

/-- The header has the key `value`, with an empty text. -/
def emptyHeaderOutput : OTLPOutput := { httpOutput with headers := [{ name := "X-Token" }] }

def malformedPathOutput : OTLPOutput := { httpOutput with path := "/v1/%zz" }

theorem inlineValue_required (text : String) : RequiredValue { value := text } :=
  ⟨true, ⟨fun _ => rfl, by simp, nofun⟩, .inl rfl⟩

theorem httpOutput_rules : OutputRules httpOutput where
  path := fun _ => rfl
  grpcOAuth2 := by simp [httpOutput]
  endpoint := inlineValue_required sampleURL
  authentication := by simp [httpOutput]
  basic := by simp [httpOutput]
  oauth2 := by simp [httpOutput]
  headers := by simp [httpOutput]
  tls := by simp [httpOutput]

theorem sharedOptions_accepted (output : OTLPOutput) (hrules : OutputRules output)
    (hvalid : Validated urlValidator noObjects (.trace { name := "other", output := output })) :
    (∀ p ∈ (sharedOptions output).pipelines, PipelineRules p) ∧
      ∀ p ∈ (sharedOptions output).pipelines, Validated urlValidator noObjects p := by
  simp only [sharedOptions, BuildOptions.pipelines, List.map_cons, List.map_nil, List.append_nil,
    List.forall_mem_cons, List.not_mem_nil, false_implies, implies_true, and_true]
  exact ⟨⟨httpOutput_rules, hrules⟩, ⟨rfl, rfl, rfl⟩, hvalid⟩

/-- A header with an empty text makes the shared build panic, and a path that is not a URL makes it
fail. Both pipelines are accepted. -/
theorem accepted_pipeline_breaks_shared_build :
    ((∀ p ∈ (sharedOptions emptyHeaderOutput).pipelines, PipelineRules p) ∧
      (∀ p ∈ (sharedOptions emptyHeaderOutput).pipelines, Validated urlValidator noObjects p) ∧
      evalE noObjects (build urlExporterLib (sharedOptions emptyHeaderOutput)) =
        .error (.panic "invalid memory address or nil pointer dereference")) ∧
    (∀ p ∈ (sharedOptions malformedPathOutput).pipelines, PipelineRules p) ∧
      (∀ p ∈ (sharedOptions malformedPathOutput).pipelines, Validated urlValidator noObjects p) ∧
      ∃ err, evalE noObjects (build urlExporterLib (sharedOptions malformedPathOutput)) =
        .error err := by
  have hheader := sharedOptions_accepted emptyHeaderOutput
    { httpOutput_rules with
      headers := fun header hheader => by
        cases List.mem_singleton.mp hheader
        exact ⟨by decide, inlineValue_required ""⟩ } ⟨rfl, rfl, rfl⟩
  have hpath := sharedOptions_accepted malformedPathOutput
    { httpOutput_rules with path := fun _ => rfl } ⟨rfl, rfl, rfl⟩
  exact ⟨⟨hheader.1, hheader.2, rfl⟩, hpath.1, hpath.2, _, rfl⟩

/-- Two pipelines with paths. -/
theorem healthy_pipelines_build :
    (∀ p ∈ (sharedOptions httpOutput).pipelines, ExporterBuilds urlExporterLib noObjects p) ∧
      Succeeds noObjects (build urlExporterLib (sharedOptions httpOutput)) := by
  have haccepted := sharedOptions_accepted _ httpOutput_rules ⟨rfl, rfl, rfl⟩
  refine (accepted_pipelines_build_iff urlExporterLib urlValidator noObjects
    (sharedOptions httpOutput) (fun _ => rfl) haccepted.1 haccepted.2).mpr ?_
  intro p hp output houtput
  have heq : output = httpOutput := by
    simp only [sharedOptions, BuildOptions.pipelines, List.map_cons, List.map_nil, List.append_nil,
      List.mem_cons, List.not_mem_nil, or_false] at hp
    rcases hp with rfl | rfl <;> cases houtput <;> rfl
  subst heq
  refine ⟨fun _ => ⟨_, rfl⟩, fun header hheader => ?_⟩
  cases hheader

end TelemetryManager.Gateway
