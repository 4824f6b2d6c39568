import TelemetryManager.ExporterFields
import TelemetryManager.GatewayStructure
import TelemetryManager.ObjectNames

/-! The environment of the gateway: which variable the secret values of each pipeline are in.
All pipelines share one set of variables, where the last write of a variable wins. -/
namespace TelemetryManager.Gateway

open Assignment Collector Interaction OtlpExporter

structure Position where
  pipeline : OTLPPipeline
  field : Field

open Position

def Position.key (x : Position) : String := x.field.key (pipelineRef x.pipeline)

section Values

variable (lib : ExporterLib) (answer : ApiTable)

def Position.Value (x : Position) (v : String) : Prop :=
  ∃ output program, otlpOutput x.pipeline = some output ∧
    x.field.program lib output = some program ∧ evalE answer program = .ok v

/-- The variables of the positions hold values of the positions. -/
abbrev Written : List Position → EnvVars → Prop := Filled key (Value lib answer)

def positions (p : OTLPPipeline) (output : OTLPOutput) (fields : List Field) : List Position :=
  (fields.filter fun f => (f.program lib output).isSome).map (Position.mk p)

theorem mem_positions_iff {p : OTLPPipeline} {output : OTLPOutput} {fields : List Field}
    {x : Position} : x ∈ positions lib p output fields ↔
      x.pipeline = p ∧ x.field ∈ fields ∧ (x.field.program lib output).isSome := by
  obtain ⟨pipeline, field⟩ := x
  simp only [positions, List.mem_map, List.mem_filter, Position.mk.injEq]
  constructor
  · rintro ⟨f, ⟨hf, hsome⟩, rfl, rfl⟩
    exact ⟨rfl, hf, hsome⟩
  · rintro ⟨rfl, hf, hsome⟩
    exact ⟨field, ⟨hf, hsome⟩, rfl, rfl⟩

variable {lib answer}

theorem assignAll_filled {p : OTLPPipeline} {output : OTLPOutput}
    (houtput : otlpOutput p = some output) {fields : List Field} {filled : List Position}
    {env env' : EnvVars} (h : Written lib answer filled env)
    (heval : evalE answer (assignAll lib (pipelineRef p) output fields env) = .ok env') :
    Written lib answer (filled ++ positions lib p output fields) env' := by
  induction fields generalizing filled env with
  | nil =>
    cases heval
    simpa [positions] using h
  | cons f fields ih =>
    obtain ⟨next, hassign, hrest⟩ := evalE_bind_ok_iff.mp heval
    unfold Field.assign at hassign
    cases hprogram : f.program lib output with
    | none =>
      rw [hprogram] at hassign
      cases hassign
      simpa [positions, hprogram] using ih h hrest
    | some program =>
      rw [hprogram] at hassign
      obtain ⟨v, hvalue, hnext⟩ := evalE_bind_ok_iff.mp hassign
      cases hnext
      have hinsert := h.insert (x := ⟨p, f⟩) ⟨output, program, houtput, hprogram, hvalue⟩
      simpa [positions, hprogram] using ih hinsert hrest

end Values

section Build

variable {lib : ExporterLib} {answer : ApiTable} {filled : List Position}

def outputFields (output : OTLPOutput) : List Field := extensionFields ++ exporterFields output

def pipelinePositions (lib : ExporterLib) (p : OTLPPipeline) : List Position :=
  match otlpOutput p with
  | some output => positions lib p output (outputFields output)
  | none => []

variable {output : OTLPOutput} {p : OTLPPipeline} {opts : BuildOptions}

theorem exporter_of_mem_pipelinePlan (houtput : otlpOutput p = some output) {id : String}
    {config : Client (OTLPExporterConfig × EnvVars)}
    (h : .exporter id config ∈ (pipelinePlan lib opts p).components) :
    ∃ sendingQueue, config = otlpExporterWithEnvVars lib (pipelineRef p) output sendingQueue := by
  suffices hall : ∀ c ∈ (pipelinePlan lib opts p).components, ∀ id config, c = .exporter id config →
      ∃ sendingQueue, config = otlpExporterWithEnvVars lib (pipelineRef p) output sendingQueue from
    hall _ h id config rfl
  refine List.forall_iff_forall_mem.mp ?_
  cases p with
  | trace tp =>
    cases houtput
    and_intros <;> rintro id config ⟨⟩
    exact ⟨_, rfl⟩
  | log lp =>
    have hlog : lp.output.otlp = some output := houtput
    simp only [pipelinePlan, logPlan, addLogOTLPExporter, hlog]
    and_intros <;> rintro id config ⟨⟩
    exact ⟨_, rfl⟩
  | metric mp =>
    cases houtput
    simp only [pipelinePlan, metricOutputPlan, addMetricCumulativeToDeltaProcessor]
    rcases mp.temporality with _ | (_ | _) <;> and_intros <;> rintro id config ⟨⟩ <;>
      exact ⟨_, rfl⟩

theorem pipelinePlan_writes {X : Type} (opts : BuildOptions)
    (houtput : otlpOutput p = some output) (l : List X) :
    (pipelinePlan lib opts p).components.flatMap (·.writes l) = l := by
  cases p with
  | trace tp => exact List.append_nil l
  | log lp =>
    have hlog : lp.output.otlp = some output := houtput
    simp only [pipelinePlan, logPlan, addLogOTLPExporter, hlog]
    exact List.append_nil l
  | metric mp =>
    have hdelta : (addMetricCumulativeToDeltaProcessor mp).writes l = [] := by
      unfold addMetricCumulativeToDeltaProcessor
      split <;> rfl
    change (addMetricCumulativeToDeltaProcessor mp).writes l ++ (l ++ []) = l
    rw [hdelta, List.nil_append, List.append_nil]

theorem exporterWithEnvVars_ok {r : PipelineRef} {sendingQueue : SendingQueue}
    {exporter : OTLPExporterConfig} {envVars : EnvVars}
    (h : evalE answer (otlpExporterWithEnvVars lib r output sendingQueue) =
      .ok (exporter, envVars)) :
    evalE answer (assignAll lib r output (exporterFields output) ∅) = .ok envVars := by
  obtain ⟨vars, hvars, hresult⟩ := evalE_bind_ok_iff.mp h
  cases hresult
  rw [← makeOTLPExporterEnvVars_eq_assignAll]
  exact evalE_mapErr_ok_iff.mp hvars

theorem extensionWithEnvVars_ok (lib : ExporterLib) {r : PipelineRef}
    {oauth2 : OAuth2Options} (hoauth2 : output.oauth2 = some oauth2)
    {extension : ExtensionConfig} {envVars : EnvVars}
    (h : evalE answer (oauth2ExtensionWithEnvVars r oauth2) = .ok (extension, envVars)) :
    evalE answer (assignAll lib r output extensionFields ∅) = .ok envVars := by
  obtain ⟨vars, hvars, hresult⟩ := evalE_bind_ok_iff.mp h
  cases hresult
  rw [← makeOAuth2ExtensionEnvVars_eq_assignAll lib r output hoauth2]
  exact evalE_mapErr_ok_iff.mp hvars

variable {s s' : BuildState}

theorem addOAuth2Extension_filled (houtput : otlpOutput p = some output)
    (h : Written lib answer filled s.envVars)
    (heval : evalE answer (addOAuth2Extension (pipelineRef p) output.authentication s) = .ok s') :
    Written lib answer (filled ++ positions lib p output extensionFields) s'.envVars := by
  unfold addOAuth2Extension at heval
  cases hoauth2 : output.authentication.bind (·.oauth2) with
  | none =>
    rw [hoauth2] at heval
    cases heval
    have hnone : positions lib p output extensionFields = [] := by
      simp [positions, extensionFields, Field.program, Field.oauth2Program, hoauth2]
    rwa [hnone, List.append_nil]
  | some oauth2 =>
    rw [hoauth2] at heval
    obtain ⟨⟨extension, envVars⟩, hvars, hs'⟩ := evalE_bind_ok_iff.mp heval
    cases hs'
    have hassign := extensionWithEnvVars_ok lib hoauth2 (evalE_mapErr_ok_iff.mp hvars)
    exact h.copy (assignAll_filled houtput (Filled.empty _ _) hassign)

theorem addPipeline_filled (houtput : otlpOutput p = some output) {errText : String}
    (h : Written lib answer filled s.envVars)
    (heval : evalE answer (addPipeline errText (pipelineRef p) output.authentication
      (pipelinePlan lib opts p) s) = .ok s') :
    Written lib answer (filled ++ pipelinePositions lib p) s'.envVars := by
  obtain ⟨t, hextension, hplan⟩ := evalE_bind_ok_iff.mp heval
  have ht := addOAuth2Extension_filled houtput h hextension
  have hexporter : ∀ id config, .exporter id config ∈ (pipelinePlan lib opts p).components →
      ∀ exporter envVars, evalE answer config = .ok (exporter, envVars) →
        Written lib answer (positions lib p output (exporterFields output)) envVars := by
    intro id config hmem exporter envVars hconfig
    obtain ⟨sendingQueue, rfl⟩ := exporter_of_mem_pipelinePlan houtput hmem
    exact assignAll_filled houtput (Filled.empty _ _) (exporterWithEnvVars_ok hconfig)
  have hs' := addServicePipeline_filled hexporter ht (evalE_mapErr_ok_iff.mp hplan)
  rw [pipelinePlan_writes opts houtput, List.append_assoc] at hs'
  simpa [pipelinePositions, houtput, positions, outputFields] using hs'

theorem metricStage_filled (opts : BuildOptions) {plan : ServicePlan}
    (hplan : plan ∈ metricInputPlans ∨ plan = metricEnrichmentPlan opts) {errText : String}
    (h : Written lib answer filled s.envVars)
    (heval : evalE answer (mapErr (wrapf errText) (addServicePipeline plan s)) = .ok s') :
    Written lib answer filled s'.envVars := by
  have hexporter : ∀ c ∈ plan.components, ∀ id config, c ≠ .exporter id config := by
    refine List.forall_iff_forall_mem.mp ?_
    rcases hplan with hinput | rfl
    · rcases mem_metricInputPlans.mp hinput with rfl | rfl <;> and_intros <;> exact nofun
    · and_intros <;> exact nofun
  have hs' : Written lib answer (filled ++ plan.components.flatMap (·.writes [])) s'.envVars :=
    addServicePipeline_filled (fun id config hmem => absurd rfl (hexporter _ hmem id config)) h
      (evalE_mapErr_ok_iff.mp heval)
  have hnone : plan.components.flatMap (·.writes ([] : List Position)) = [] := by
    refine List.flatMap_eq_nil_iff.mpr fun c _ => ?_
    cases c <;> rfl
  rwa [hnone, List.append_nil] at hs'

theorem addPipelines_filled {α : Type} {add : α → BuildState → Client BuildState}
    {toPipeline : α → OTLPPipeline} {pipelines : List α}
    (hadd : ∀ a ∈ pipelines, ∀ filled s s', Written lib answer filled s.envVars →
      evalE answer (add a s) = .ok s' →
      Written lib answer (filled ++ pipelinePositions lib (toPipeline a)) s'.envVars)
    (h : Written lib answer filled s.envVars)
    (heval : evalE answer (addPipelines add pipelines s) = .ok s') :
    Written lib answer
      (filled ++ (pipelines.map toPipeline).flatMap (pipelinePositions lib)) s'.envVars := by
  induction pipelines generalizing filled s with
  | nil =>
    cases heval
    simpa using h
  | cons a pipelines ih =>
    obtain ⟨t, hfirst, hrest⟩ := evalE_bind_ok_iff.mp heval
    have ht := hadd a (.head _) filled s t h hfirst
    have hs' := ih (fun b hb => hadd b (.tail _ hb)) ht hrest
    simpa [List.append_assoc] using hs'

theorem build_filled {s : BuildState} (heval : evalE answer (build lib opts) = .ok s) :
    Written lib answer
      ((sortPipelinesByName opts).pipelines.flatMap (pipelinePositions lib)) s.envVars := by
  generalize hsorted : sortPipelinesByName opts = sorted
  unfold build at heval
  rw [hsorted] at heval
  obtain ⟨t, htraces, hrest⟩ := evalE_bind_ok_iff.mp heval
  obtain ⟨u, hlogs, hmetrics⟩ := evalE_bind_ok_iff.mp hrest
  have ht := addPipelines_filled (fun tp _ _ _ _ h heval =>
    addPipeline_filled (p := .trace tp) rfl h heval) (Filled.empty _ _) htraces
  have hu := addPipelines_filled (fun lp _ filled s s' h heval => by
    cases houtput : lp.output.otlp with
    | none =>
      rw [houtput] at heval
      cases heval
    | some output =>
      rw [houtput] at heval
      exact addPipeline_filled (p := .log lp) houtput h heval) ht hlogs
  suffices hmetric : Written lib answer
      ((sorted.tracePipelines.map .trace).flatMap (pipelinePositions lib) ++
        (sorted.logPipelines.map .log).flatMap (pipelinePositions lib) ++
        (sorted.metricPipelines.map .metric).flatMap (pipelinePositions lib)) s.envVars by
    simpa [BuildOptions.pipelines, List.flatMap_append] using hmetric
  rw [buildMetricPipelines] at hmetrics
  by_cases hempty : sorted.metricPipelines = []
  · rw [if_pos hempty] at hmetrics
    cases hmetrics
    simpa [hempty] using hu
  · rw [if_neg hempty] at hmetrics
    obtain ⟨s₁, hotlp, hmetrics⟩ := evalE_bind_ok_iff.mp hmetrics
    obtain ⟨s₂, hkyma, hmetrics⟩ := evalE_bind_ok_iff.mp hmetrics
    obtain ⟨s₃, henrichment, hmetrics⟩ := evalE_bind_ok_iff.mp hmetrics
    have h₁ := metricStage_filled sorted (.inl (.head _)) (by exact hu) hotlp
    have h₂ := metricStage_filled sorted (.inl (.tail _ (.head _))) h₁ hkyma
    have h₃ := metricStage_filled sorted (.inr rfl) h₂ henrichment
    exact addPipelines_filled (fun mp _ _ _ _ h heval =>
      addPipeline_filled (p := .metric mp) rfl h heval) h₃ hmetrics

end Build

def headersOf (p : OTLPPipeline) : List Header :=
  match otlpOutput p with
  | some output => output.headers
  | none => []

def pipelineFields (p : OTLPPipeline) : List Field :=
  extensionFields ++
    ([.basicAuthHeader, .endpoint] ++ (headersOf p).map .header ++ [.tlsCa, .tlsCert, .tlsKey])

/-- Every field of every pipeline has a variable of its own. After a build it holds the value of
the field, which depends on nothing but the answers to the requests that the field itself makes. -/
structure EnvIsolated (lib : ExporterLib) (opts : BuildOptions) : Prop where
  keys : ∀ p ∈ opts.pipelines, ∀ q ∈ opts.pipelines, ∀ f ∈ pipelineFields p,
    ∀ g ∈ pipelineFields q, f.key (pipelineRef p) = g.key (pipelineRef q) → p = q ∧ f = g
  values : ∀ answer s, evalE answer (build lib opts) = .ok s → ∀ p ∈ opts.pipelines,
    ∀ output, otlpOutput p = some output → ∀ f ∈ pipelineFields p, ∀ program,
      f.program lib output = some program →
        ∃ v, evalE answer program = .ok v ∧ s.envVars.lookup (f.key (pipelineRef p)) = some v
  unaffected : ∀ answer answer' s s', evalE answer (build lib opts) = .ok s →
    evalE answer' (build lib opts) = .ok s' → ∀ p ∈ opts.pipelines, ∀ output,
      otlpOutput p = some output → ∀ f ∈ pipelineFields p, ∀ program,
        f.program lib output = some program → ∀ Q, Asks Q program →
          (∀ request, Q request → answer request = answer' request) →
            s.envVars.lookup (f.key (pipelineRef p)) = s'.envVars.lookup (f.key (pipelineRef p))

structure SeparateVariables (opts : BuildOptions) : Prop where
  names : ∀ p ∈ opts.pipelines, ∀ q ∈ opts.pipelines, p.signal = q.signal →
    EnvEquivalent p.objectMeta.name q.objectMeta.name → p = q
  headers : ∀ p ∈ opts.pipelines, ∀ q ∈ opts.pipelines, p.signal = q.signal →
    ∀ h ∈ headersOf p, ∀ h' ∈ headersOf q,
      EnvEquivalent (p.objectMeta.name ++ "-" ++ h.name) (q.objectMeta.name ++ "-" ++ h'.name) →
        p = q ∧ h = h'

section Isolation

variable {lib : ExporterLib} {opts : BuildOptions}

theorem mem_pipelinePositions_iff {p : OTLPPipeline} {output : OTLPOutput}
    (houtput : otlpOutput p = some output) {x : Position} :
    x ∈ pipelinePositions lib p ↔
      x.pipeline = p ∧ x.field ∈ pipelineFields p ∧ (x.field.program lib output).isSome := by
  have hfields : outputFields output = pipelineFields p := by
    simp [outputFields, pipelineFields, exporterFields, headersOf, houtput]
  simp only [pipelinePositions, houtput]
  rw [mem_positions_iff, hfields]

theorem keys_isolated_iff :
    (∀ p ∈ opts.pipelines, ∀ q ∈ opts.pipelines, ∀ f ∈ pipelineFields p,
      ∀ g ∈ pipelineFields q, f.key (pipelineRef p) = g.key (pipelineRef q) → p = q ∧ f = g) ↔
    SeparateVariables opts := by
  constructor
  · intro h
    refine ⟨fun p hp q hq hsignal hname => ?_, fun p hp q hq hsignal header hheader header' hheader'
      hequiv => ?_⟩
    · exact (h p hp q hq .endpoint (by simp [pipelineFields]) .endpoint (by simp [pipelineFields])
        (Field.key_eq_iff.mpr ⟨rfl, hsignal, hname⟩)).1
    · obtain ⟨hpq, hfield⟩ := h p hp q hq (.header header) (by simp [pipelineFields, hheader])
        (.header header') (by simp [pipelineFields, hheader'])
        (Field.key_eq_iff.mpr ⟨rfl, hsignal, hequiv⟩)
      exact ⟨hpq, Field.header.inj hfield⟩
  · intro h p hp q hq f hf g hg hkey
    obtain ⟨hpre, hsignal, hsubject⟩ := Field.key_eq_iff.mp hkey
    rcases Field.same_kind hpre with ⟨rfl, hname⟩ | ⟨header, header', rfl, rfl⟩
    · rw [hname, hname] at hsubject
      exact ⟨h.names p hp q hq hsignal hsubject, rfl⟩
    · have hheader : header ∈ headersOf p := by
        simpa [pipelineFields, extensionFields] using hf
      have hheader' : header' ∈ headersOf q := by
        simpa [pipelineFields, extensionFields] using hg
      obtain ⟨hpq, heq⟩ := h.headers p hp q hq hsignal header hheader header' hheader' hsubject
      exact ⟨hpq, by rw [heq]⟩

theorem lookup_of_separate (h : SeparateVariables opts) {answer : ApiTable}
    {s : BuildState} (hbuild : evalE answer (build lib opts) = .ok s) {p : OTLPPipeline}
    (hp : p ∈ opts.pipelines) {output : OTLPOutput} (houtput : otlpOutput p = some output)
    {f : Field} (hf : f ∈ pipelineFields p) {program : Client String}
    (hprogram : f.program lib output = some program) :
    ∃ v, evalE answer program = .ok v ∧ s.envVars.lookup (f.key (pipelineRef p)) = some v := by
  have hkeys := keys_isolated_iff.mpr h
  have hmem : ∀ x, x ∈ (sortPipelinesByName opts).pipelines.flatMap (pipelinePositions lib) →
      x.pipeline ∈ opts.pipelines ∧ x.field ∈ pipelineFields x.pipeline := by
    intro x hx
    obtain ⟨q, hq, hx⟩ := List.mem_flatMap.mp hx
    cases hout : otlpOutput q with
    | none => simp [pipelinePositions, hout] at hx
    | some out =>
      obtain ⟨rfl, hfield, -⟩ := (mem_pipelinePositions_iff hout).mp hx
      exact ⟨mem_pipelines_sort.mp hq, hfield⟩
  have hx : (⟨p, f⟩ : Position) ∈
      (sortPipelinesByName opts).pipelines.flatMap (pipelinePositions lib) :=
    List.mem_flatMap.mpr ⟨p, mem_pipelines_sort.mpr hp, (mem_pipelinePositions_iff houtput).mpr
      ⟨rfl, hf, by simp [hprogram]⟩⟩
  obtain ⟨v, hlookup, output', program', houtput', hprogram', hvalue⟩ :=
    (build_filled hbuild).lookup hx fun y hy hkey v hv => by
      obtain ⟨hpipeline, hfield⟩ := hkeys _ (hmem y hy).1 p hp _ (hmem y hy).2 f hf hkey
      obtain ⟨q, g⟩ := y
      cases hpipeline
      cases hfield
      exact hv
  rw [houtput] at houtput'
  cases houtput'
  rw [hprogram] at hprogram'
  cases hprogram'
  exact ⟨v, hvalue, hlookup⟩

end Isolation

/-- The variables of the pipelines of a gateway are isolated exactly if names and headers are
separate. -/
theorem env_isolated_iff (lib : ExporterLib) (opts : BuildOptions) :
    EnvIsolated lib opts ↔ SeparateVariables opts := by
  constructor
  · intro h
    exact keys_isolated_iff.mp h.keys
  · intro h
    refine ⟨keys_isolated_iff.mpr h,
      fun answer s hbuild p hp output houtput f hf program hprogram =>
      lookup_of_separate h hbuild hp houtput hf hprogram, ?_⟩
    intro answer answer' s s' hbuild hbuild' p hp output houtput f hf program hprogram Q hasks
      hagree
    obtain ⟨v, hv, hlookup⟩ := lookup_of_separate h hbuild hp houtput hf hprogram
    obtain ⟨v', hv', hlookup'⟩ := lookup_of_separate h hbuild' hp houtput hf hprogram
    rw [hasks.evalE_congr hagree, hv'] at hv
    cases hv
    rw [hlookup, hlookup']

structure Admitted (opts : BuildOptions) : Prop where
  names : ∀ p ∈ opts.pipelines, isDNS1123Subdomain p.objectMeta.name
  distinct : DistinctNames opts
  headers : ∀ p ∈ opts.pipelines,
    (headersOf p).Pairwise fun h h' => Text.equalFold h.name h'.name = false

def tracePipelineTo (name host : String) (headers : List Header) : TracePipeline where
  name := name
  output := { endpoint := { value := host }, headers := headers }

def equivalentNames : BuildOptions where
  tracePipelines :=
    [tracePipelineTo "my.app" "https://a:4317" [], tracePipelineTo "my-app" "https://b:4317" []]

def tokenHeader (name value : String) : Header := { name := name, value := value }

def equivalentHeaders : BuildOptions where
  tracePipelines :=
    [tracePipelineTo "app" "https://a:4317" [tokenHeader "X-Token" "1", tokenHeader "X_Token" "2"]]

/-- Two pipelines with headers whose names continue those of the pipelines to one text. -/
def equivalentSubjects : BuildOptions where
  tracePipelines :=
    [tracePipelineTo "app" "https://a:4317" [tokenHeader "Team-Token" "1"],
      tracePipelineTo "app-team" "https://b:4317" [tokenHeader "Token" "2"]]

theorem exists_built_of_lookup {opts : BuildOptions} {k v : String}
    (h : (evalE noObjects (build sampleExporterLib opts)).toOption.bind (·.envVars.lookup k) =
      some v) :
    ∃ s, evalE noObjects (build sampleExporterLib opts) = .ok s ∧ s.envVars.lookup k = some v := by
  cases hbuild : evalE noObjects (build sampleExporterLib opts) with
  | error err => simp [hbuild, Except.toOption] at h
  | ok s => exact ⟨s, rfl, by simpa [hbuild, Except.toOption] using h⟩

/-- The spans of `my-app` are sent to the endpoint of `my.app`, a header gets the value of another
one, and a pipeline sends the token of another pipeline. -/
theorem equivalent_names_share_variables :
    (Admitted equivalentNames ∧ Admitted equivalentHeaders ∧ Admitted equivalentSubjects) ∧
    (∃ s, evalE noObjects (build sampleExporterLib equivalentNames) = .ok s ∧
      s.envVars.lookup (Field.endpoint.key ⟨"my-app", .trace⟩) = some "https://a:4317") ∧
    (∃ s, evalE noObjects (build sampleExporterLib equivalentHeaders) = .ok s ∧
      s.envVars.lookup ((Field.header (tokenHeader "X-Token" "1")).key ⟨"app", .trace⟩) =
        some "2") ∧
    (∃ s, evalE noObjects (build sampleExporterLib equivalentSubjects) = .ok s ∧
      s.envVars.lookup ((Field.header (tokenHeader "Team-Token" "1")).key ⟨"app", .trace⟩) =
        some "2") := by
  refine ⟨⟨⟨by decide, ⟨by decide, by decide, by decide⟩, by decide⟩,
    ⟨by decide, ⟨by decide, by decide, by decide⟩, by decide⟩,
    ⟨by decide, ⟨by decide, by decide, by decide⟩, by decide⟩⟩, ?_, ?_, ?_⟩
  all_goals exact exists_built_of_lookup (by decide +kernel)

end TelemetryManager.Gateway
