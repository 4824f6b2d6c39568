import Mathlib.Data.List.Induction
import TelemetryManager.Library.Assignment
import TelemetryManager.OtlpExporter

/-! Assembly of service pipelines from components.
All builders write to one shared configuration: receivers, processors and extensions are kept under
the first configuration registered for their ID, exporters under the last one. -/
namespace TelemetryManager.Collector

open Interaction Registry

structure BuildState where
  config : Config
  envVars : EnvVars

/-- A component that a builder function contributes to a service pipeline, with its configuration
(`none` if the function skips the component). Connectors stand at the end of one service pipeline
and at the start of another and have configurations of their own. -/
inductive Component where
  | receiver (id : String) (config : Option ReceiverConfig)
  | receivingConnector (id : String) (config : Option ConnectorConfig)
  | processor (id : String) (config : Option ProcessorConfig)
  | exporter (id : String) (config : Client (OTLPExporterConfig × EnvVars))
  | exportingConnector (id : String) (config : Option ConnectorConfig)
  | nilDereference

open Component

def Config.updatePipeline (config : Config) (pipelineID : String)
    (f : ServicePipeline → ServicePipeline) : Config :=
  { config with
    pipelines :=
      config.pipelines.insert pipelineID (f ((config.pipelines.lookup pipelineID).getD {})) }

def ServicePipeline.addReceiver (id : String) (p : ServicePipeline) : ServicePipeline :=
  { p with receivers := p.receivers ++ [id] }

def ServicePipeline.addProcessor (id : String) (p : ServicePipeline) : ServicePipeline :=
  { p with processors := p.processors ++ [id] }

def ServicePipeline.addExporter (id : String) (p : ServicePipeline) : ServicePipeline :=
  { p with exporters := p.exporters ++ [id] }

def Component.add (pipelineID : String) (s : BuildState) : Component → Client BuildState
  | .receiver _ none | .receivingConnector _ none | .processor _ none
  | .exportingConnector _ none => pure s
  | .receiver id (some c) =>
    let config := { s.config with receivers := insertNew id c s.config.receivers }
    pure { s with config := config.updatePipeline pipelineID (·.addReceiver id) }
  | .receivingConnector id (some c) =>
    let config := { s.config with connectors := insertNew id c s.config.connectors }
    pure { s with config := config.updatePipeline pipelineID (·.addReceiver id) }
  | .processor id (some c) =>
    let config := { s.config with processors := insertNew id c s.config.processors }
    pure { s with config := config.updatePipeline pipelineID (·.addProcessor id) }
  | .exporter id c => do
    let (c, envVars) ← mapErr (wrapf "failed to create exporter config: ") c
    let config := { s.config with exporters := s.config.exporters.insert id c }
    pure
      { config := config.updatePipeline pipelineID (·.addExporter id)
        envVars := Assignment.copy s.envVars envVars }
  | .exportingConnector id (some c) =>
    let config := { s.config with connectors := s.config.connectors.insert id c }
    pure { s with config := config.updatePipeline pipelineID (·.addExporter id) }
  | .nilDereference => throw (.panic "invalid memory address or nil pointer dereference")

structure ServicePlan where
  id : String
  components : List Component

def addComponents (pipelineID : String) : List Component → BuildState → Client BuildState
  | [], s => pure s
  | c :: components, s => do
    let s ← c.add pipelineID s
    addComponents pipelineID components s

def addServicePipeline (plan : ServicePlan) (s : BuildState) : Client BuildState :=
  let config := { s.config with pipelines := s.config.pipelines.insert plan.id {} }
  mapErr (wrapf "failed to add component: ")
    (addComponents plan.id plan.components { s with config := config })

def addExtension (componentID : String) (extensionConfig : ExtensionConfig)
    (extensionEnvVars : EnvVars) (s : BuildState) : BuildState where
  config :=
    { s.config with
      extensions := insertNew componentID extensionConfig s.config.extensions
      serviceExtensions :=
        if componentID ∈ s.config.serviceExtensions then s.config.serviceExtensions
        else s.config.serviceExtensions ++ [componentID] }
  envVars := Assignment.copy s.envVars extensionEnvVars

def Component.processorEntry : Component → Option (String × ProcessorConfig)
  | .processor id (some c) => some (id, c)
  | _ => none

def Component.processorID : Component → String
  | .processor id _ => id
  | _ => ""

theorem Component.processorEntry_fst {c : Component} {e : String × ProcessorConfig}
    (h : c.processorEntry = some e) : e.1 = c.processorID := by
  cases c with
  | processor id config =>
    cases config with
    | none => cases h
    | some c =>
      cases h
      rfl
  | _ => cases h

def ServicePlan.processors (plan : ServicePlan) : List (String × ProcessorConfig) :=
  plan.components.filterMap processorEntry

def Component.receiverEntry : Component → Option (String × ReceiverConfig)
  | .receiver id (some c) => some (id, c)
  | _ => none

def ServicePlan.receivers (plan : ServicePlan) : List (String × ReceiverConfig) :=
  plan.components.filterMap receiverEntry

def Component.exporterEntry : Component → Option String
  | .exporter id _ => some id
  | _ => none

def Component.connect (m : Map String ConnectorConfig) :
    Component → Map String ConnectorConfig
  | .receivingConnector id (some c) => insertNew id c m
  | .exportingConnector id (some c) => m.insert id c
  | _ => m

def Component.reference (p : ServicePipeline) : Component → ServicePipeline
  | .receiver id (some _) | .receivingConnector id (some _) => p.addReceiver id
  | .processor id (some _) => p.addProcessor id
  | .exporter id _ | .exportingConnector id (some _) => p.addExporter id
  | .receiver _ none | .receivingConnector _ none | .processor _ none
  | .exportingConnector _ none | .nilDereference => p

def ServicePlan.servicePipeline (plan : ServicePlan) : ServicePipeline :=
  plan.components.foldl reference {}

structure ComponentsAdded (pipelineID : String) (p : ServicePipeline)
    (components : List Component) (s s' : BuildState) : Prop where
  processors : s'.config.processors =
    registerAll (components.filterMap processorEntry) s.config.processors
  receivers : s'.config.receivers =
    registerAll (components.filterMap receiverEntry) s.config.receivers
  connectors : s'.config.connectors = components.foldl connect s.config.connectors
  exporters : ∀ k, k ∈ s'.config.exporters ↔
    k ∈ s.config.exporters ∨ k ∈ components.filterMap exporterEntry
  extensions : s'.config.extensions = s.config.extensions
  serviceExtensions : s'.config.serviceExtensions = s.config.serviceExtensions
  pipeline : s'.config.pipelines.lookup pipelineID = some (components.foldl reference p)
  others : ∀ k ≠ pipelineID, s'.config.pipelines.lookup k = s.config.pipelines.lookup k
  dereferenced : nilDereference ∉ components

namespace ComponentsAdded

variable {pipelineID : String} {p : ServicePipeline} {c : Component} {s : BuildState}

theorem skip (hp : s.config.pipelines.lookup pipelineID = some p)
    (hentry : c.processorEntry = none) (hreceiver : c.receiverEntry = none)
    (hconnect : ∀ m, c.connect m = m) (hexporter : c.exporterEntry = none)
    (href : c.reference p = p) (hc : .nilDereference ≠ c) :
    ComponentsAdded pipelineID p [c] s s where
  processors := by simp [hentry]
  receivers := by simp [hreceiver]
  connectors := by simp [hconnect]
  exporters := by simp [hexporter]
  extensions := rfl
  serviceExtensions := rfl
  pipeline := by simp [href, hp]
  others := fun _ _ => rfl
  dereferenced := by simpa using hc

theorem update {config : Config} {envVars : EnvVars} {f : ServicePipeline → ServicePipeline}
    (hp : s.config.pipelines.lookup pipelineID = some p)
    (hpipelines : config.pipelines = s.config.pipelines)
    (hprocessors : config.processors =
      registerAll ([c].filterMap processorEntry) s.config.processors)
    (hreceivers : config.receivers =
      registerAll ([c].filterMap receiverEntry) s.config.receivers)
    (hconnectors : config.connectors = c.connect s.config.connectors)
    (hexporters : ∀ k, k ∈ config.exporters ↔ k ∈ s.config.exporters ∨ k ∈ c.exporterEntry)
    (hextensions : config.extensions = s.config.extensions)
    (hserviceExtensions : config.serviceExtensions = s.config.serviceExtensions)
    (href : c.reference p = f p) (hc : .nilDereference ≠ c) :
    ComponentsAdded pipelineID p [c] s ⟨config.updatePipeline pipelineID f, envVars⟩ where
  processors := hprocessors
  receivers := hreceivers
  connectors := hconnectors
  exporters := by simpa [Config.updatePipeline, List.mem_filterMap] using hexporters
  extensions := hextensions
  serviceExtensions := hserviceExtensions
  pipeline := by simp [Config.updatePipeline, hpipelines, hp, href]
  others := fun k hk => by simp [Config.updatePipeline, hpipelines, AList.lookup_insert_ne hk]
  dereferenced := by simpa using hc

end ComponentsAdded

theorem Component.add_returns (pipelineID : String) (p : ServicePipeline) (c : Component)
    (s : BuildState) (hp : s.config.pipelines.lookup pipelineID = some p) :
    Returns (ComponentsAdded pipelineID p [c] s) (c.add pipelineID s) := by
  have hother : ∀ {c : Component}, c.exporterEntry = none → ∀ k,
      k ∈ s.config.exporters ↔ k ∈ s.config.exporters ∨ k ∈ c.exporterEntry := by
    intro c hc k
    simp [hc]
  cases c with
  | receiver id config | receivingConnector id config | processor id config
  | exportingConnector id config =>
    cases config with
    | none => exact .pure (.skip hp rfl rfl (fun _ => rfl) rfl rfl nofun)
    | some c => exact .pure (.update hp rfl rfl rfl rfl (hother rfl) rfl rfl rfl nofun)
  | exporter id config =>
    refine .bind (.true _) fun e _ =>
      .pure (.update hp rfl rfl rfl rfl (fun k => ?_) rfl rfl rfl nofun)
    simp [exporterEntry, or_comm, eq_comm]
  | nilDereference => exact .throw _

theorem addComponents_returns (pipelineID : String) (components : List Component) :
    ∀ (p : ServicePipeline) (s : BuildState), s.config.pipelines.lookup pipelineID = some p →
      Returns (ComponentsAdded pipelineID p components s)
        (addComponents pipelineID components s) := by
  induction components with
  | nil =>
    exact fun p s hp => .pure ⟨rfl, rfl, rfl, by simp, rfl, rfl, hp, fun _ _ => rfl, by simp⟩
  | cons c components ih =>
    intro p s hp
    refine .bind (c.add_returns pipelineID p s hp) fun t ht => ?_
    refine (ih _ t ht.pipeline).mono fun u hu => ?_
    exact
      { processors := by
          rw [hu.processors, ht.processors, ← registerAll_append, ← List.filterMap_append]
          rfl
        receivers := by
          rw [hu.receivers, ht.receivers, ← registerAll_append, ← List.filterMap_append]
          rfl
        connectors := by rw [hu.connectors, ht.connectors]; rfl
        exporters := fun k => by
          rw [hu.exporters, ht.exporters, or_assoc, ← List.mem_append, ← List.filterMap_append]
          rfl
        extensions := hu.extensions.trans ht.extensions
        serviceExtensions := hu.serviceExtensions.trans ht.serviceExtensions
        pipeline := hu.pipeline
        others := fun k hk => (hu.others k hk).trans (ht.others k hk)
        dereferenced := fun h => (List.mem_append.mp (List.singleton_append ▸ h)).elim
          ht.dereferenced hu.dereferenced }

/-- The service pipeline that `plans` leave under `k`, where `old` was before. -/
def installed (plans : List ServicePlan) (k : String) (old : Option ServicePipeline) :
    Option ServicePipeline :=
  plans.foldl (fun old plan => if plan.id = k then some plan.servicePipeline else old) old

def ExtensionsListed (config : Config) : Prop :=
  ∀ id, id ∈ config.extensions ↔ id ∈ config.serviceExtensions

theorem ExtensionsListed.addExtension {s : BuildState} (h : ExtensionsListed s.config)
    (componentID : String) (extensionConfig : ExtensionConfig) (extensionEnvVars : EnvVars) :
    ExtensionsListed
      (Collector.addExtension componentID extensionConfig extensionEnvVars s).config := by
  intro id
  simp only [Collector.addExtension, mem_insertNew, h id]
  split
  · constructor
    · rintro (rfl | hid)
      · assumption
      · exact hid
    · exact .inr
  · simp [or_comm]

structure PlansAdded (plans : List ServicePlan) (s s' : BuildState) : Prop where
  processors : s'.config.processors =
    registerAll (plans.flatMap ServicePlan.processors) s.config.processors
  receivers : s'.config.receivers =
    registerAll (plans.flatMap ServicePlan.receivers) s.config.receivers
  connectors : s'.config.connectors =
    (plans.flatMap ServicePlan.components).foldl connect s.config.connectors
  exporters : ∀ k, k ∈ s'.config.exporters ↔
    k ∈ s.config.exporters ∨
      k ∈ (plans.flatMap ServicePlan.components).filterMap exporterEntry
  extensions : ExtensionsListed s.config → ExtensionsListed s'.config
  pipelines : ∀ k, s'.config.pipelines.lookup k =
    installed plans k (s.config.pipelines.lookup k)
  dereferenced : ∀ plan ∈ plans, nilDereference ∉ plan.components

namespace PlansAdded

variable {plans plans' : List ServicePlan} {s t u : BuildState}

theorem refl (s : BuildState) : PlansAdded [] s s :=
  ⟨rfl, rfl, rfl, by simp, id, fun _ => rfl, by simp⟩

theorem extension (id : String) (config : ExtensionConfig) (envVars : EnvVars) (s : BuildState) :
    PlansAdded [] s (addExtension id config envVars s) :=
  ⟨rfl, rfl, rfl, by simp [addExtension], fun h => h.addExtension _ _ _, fun _ => rfl, by simp⟩

theorem trans (h : PlansAdded plans s t) (h' : PlansAdded plans' t u) :
    PlansAdded (plans ++ plans') s u where
  processors := by
    rw [h'.processors, h.processors, List.flatMap_append, registerAll_append]
  receivers := by
    rw [h'.receivers, h.receivers, List.flatMap_append, registerAll_append]
  connectors := by rw [h'.connectors, h.connectors, List.flatMap_append, List.foldl_append]
  exporters := fun k => by
    rw [h'.exporters, h.exporters, List.flatMap_append, List.filterMap_append, List.mem_append,
      or_assoc]
  extensions := fun hs => h'.extensions (h.extensions hs)
  pipelines := fun k => by rw [h'.pipelines, h.pipelines, installed, installed, installed,
    List.foldl_append]
  dereferenced := fun plan hplan => (List.mem_append.mp hplan).elim (h.dereferenced plan)
    (h'.dereferenced plan)

end PlansAdded

theorem addServicePipeline_returns (plan : ServicePlan) (s : BuildState) :
    Returns (PlansAdded [plan] s) (addServicePipeline plan s) := by
  refine .mapErr _ ((addComponents_returns plan.id plan.components {} _ ?_).mono fun t ht => ?_)
  · exact AList.lookup_insert _
  · refine ⟨by simpa [ServicePlan.processors] using ht.processors,
      by simpa [ServicePlan.receivers] using ht.receivers, by simpa using ht.connectors,
      by simpa using ht.exporters, fun hs id => ?_, fun k => ?_, by simpa using ht.dereferenced⟩
    · rw [ht.extensions, ht.serviceExtensions]
      exact hs id
    by_cases hk : plan.id = k
    · subst hk
      simpa [installed, ServicePlan.servicePipeline] using ht.pipeline
    · rw [ht.others k (Ne.symm hk)]
      simp [installed, hk, AList.lookup_insert_ne (Ne.symm hk)]

variable {plans : List ServicePlan}

theorem installed_eq_some_iff (hids : (plans.map (·.id)).Nodup)
    (k : String) (sp : ServicePipeline) :
    installed plans k none = some sp ↔ ∃ plan ∈ plans, plan.id = k ∧ plan.servicePipeline = sp := by
  induction plans using List.reverseRecOn with
  | nil => simp [installed]
  | append_singleton plans plan ih =>
    simp only [List.map_append, List.map_cons, List.map_nil, List.nodup_append,
      List.mem_map, List.mem_singleton] at hids
    obtain ⟨hids, _, hnew⟩ := hids
    simp only [installed, List.foldl_append, List.foldl_cons, List.foldl_nil]
    by_cases hk : plan.id = k
    · subst hk
      rw [if_pos rfl]
      constructor
      · intro h
        cases h
        exact ⟨plan, by simp, rfl, rfl⟩
      · rintro ⟨plan', hmem, hid, rfl⟩
        rcases List.mem_append.mp hmem with hold | hlast
        · exact absurd hid (hnew _ ⟨plan', hold, rfl⟩ _ rfl)
        · rw [List.mem_singleton.mp hlast]
    · rw [if_neg hk]
      refine (ih hids).trans ⟨?_, ?_⟩
      · rintro ⟨plan', hmem, h⟩
        exact ⟨plan', by simp [hmem], h⟩
      · rintro ⟨plan', hmem, hid, h⟩
        rcases List.mem_append.mp hmem with hold | hlast
        · exact ⟨plan', hold, hid, h⟩
        · rw [List.mem_singleton.mp hlast] at hid
          exact absurd hid hk

theorem PlansAdded.lookup_iff {s s' : BuildState}
    (hadded : PlansAdded plans s s') (hids : (plans.map (·.id)).Nodup)
    (hempty : ∀ k, s.config.pipelines.lookup k = none) {k : String} {sp : ServicePipeline} :
    s'.config.pipelines.lookup k = some sp ↔
      ∃ plan ∈ plans, plan.id = k ∧ plan.servicePipeline = sp := by
  rw [hadded.pipelines, hempty]
  exact installed_eq_some_iff hids k sp

theorem ServicePlan.servicePipeline_processors (plan : ServicePlan) :
    plan.servicePipeline.processors = plan.processors.map Prod.fst := by
  have hfold : ∀ (components : List Component) (p : ServicePipeline),
      (components.foldl reference p).processors =
        p.processors ++ (components.filterMap processorEntry).map Prod.fst := by
    intro components
    induction components with
    | nil => simp
    | cons c components ih =>
      intro p
      rw [List.foldl_cons, ih]
      cases c with
      | processor id config =>
        cases config <;> simp [List.filterMap_cons, reference, processorEntry,
          ServicePipeline.addProcessor]
      | receiver id config | receivingConnector id config | exportingConnector id config =>
        cases config <;> rfl
      | exporter id config | nilDereference => rfl
  exact hfold plan.components {}

/-- Every service pipeline of a build runs with the processor configurations of its own plan,
exactly if no two plans disagree on a processor ID. -/
theorem PlansAdded.processors_faithful_iff {s s' : BuildState}
    (hadded : PlansAdded plans s s') (hids : (plans.map (·.id)).Nodup)
    (hpipelines : ∀ k, s.config.pipelines.lookup k = none) (hprocessors : s.config.processors = ∅) :
    (∀ id sp, s'.config.pipelines.lookup id = some sp →
      ∃ plan ∈ plans, plan.id = id ∧ sp.processors = plan.processors.map Prod.fst ∧
        ∀ e ∈ plan.processors, s'.config.processors.lookup e.1 = some e.2) ↔
    ∀ e ∈ plans.flatMap ServicePlan.processors, ∀ e' ∈ plans.flatMap ServicePlan.processors,
      e.1 = e'.1 → e.2 = e'.2 := by
  have hregistered := hadded.processors
  rw [hprocessors] at hregistered
  rw [← registerAll_faithful_iff, ← hregistered]
  constructor
  · intro h e he
    obtain ⟨plan, hplan, hmem⟩ := List.mem_flatMap.mp he
    obtain ⟨plan', hplan', hid, _, hfaithful⟩ := h plan.id plan.servicePipeline
      ((hadded.lookup_iff hids hpipelines).mpr ⟨plan, hplan, rfl, rfl⟩)
    rw [List.inj_on_of_nodup_map hids hplan' hplan hid] at hfaithful
    exact hfaithful e hmem
  · intro h id sp hsp
    obtain ⟨plan, hplan, hid, rfl⟩ := (hadded.lookup_iff hids hpipelines).mp hsp
    refine ⟨plan, hplan, hid, plan.servicePipeline_processors, fun e he => ?_⟩
    exact h e (List.mem_flatMap.mpr ⟨plan, hplan, he⟩)

section Success

variable (answer : ApiTable)

/-- The builder function succeeds. What has been built before does not matter. -/
def Component.Builds : Component → Prop
  | .exporter _ config => Succeeds answer config
  | .nilDereference => False
  | _ => True

theorem Component.succeeds_add_iff (pipelineID : String) (s : BuildState) (c : Component) :
    Succeeds answer (c.add pipelineID s) ↔ c.Builds answer := by
  cases c with
  | exporter id config =>
    refine (succeeds_bind_of (P := True) fun _ => by simp).trans ?_
    rw [and_true, succeeds_mapErr_iff]
    rfl
  | nilDereference => exact iff_of_false (not_succeeds_throw _) id
  | receiver id config | receivingConnector id config | processor id config
  | exportingConnector id config =>
    cases config <;> exact iff_of_true (succeeds_pure _) trivial

theorem succeeds_addComponents_iff (pipelineID : String) (components : List Component)
    (s : BuildState) : Succeeds answer (addComponents pipelineID components s) ↔
      ∀ c ∈ components, c.Builds answer := by
  induction components generalizing s with
  | nil => simp [addComponents]
  | cons c components ih =>
    rw [addComponents, succeeds_bind_of ih, c.succeeds_add_iff, List.forall_mem_cons]

theorem succeeds_addServicePipeline_iff (plan : ServicePlan) (s : BuildState) :
    Succeeds answer (addServicePipeline plan s) ↔ ∀ c ∈ plan.components, c.Builds answer := by
  rw [addServicePipeline, succeeds_mapErr_iff, succeeds_addComponents_iff]

end Success

section Environment

variable {answer : ApiTable} {X : Type} {key : X → String}
  {Value : X → String → Prop} {filled written : List X}

/-- What a component adds to the environment, if `l` is what an exporter adds. -/
def Component.writes (l : List X) : Component → List X
  | .exporter _ _ => l
  | _ => []

variable {s s' : BuildState}

theorem Component.add_filled {pipelineID : String} {c : Component}
    (hexporter : ∀ id config, c = .exporter id config → ∀ exporter envVars,
      evalE answer config = .ok (exporter, envVars) → Assignment.Filled key Value written envVars)
    (h : Assignment.Filled key Value filled s.envVars)
    (heval : evalE answer (c.add pipelineID s) = .ok s') :
    Assignment.Filled key Value (filled ++ c.writes written) s'.envVars := by
  cases c with
  | exporter id config =>
    obtain ⟨⟨exporter, envVars⟩, hconfig, hs'⟩ := evalE_bind_ok_iff.mp heval
    cases hs'
    exact h.copy (hexporter id config rfl exporter envVars
      (evalE_mapErr_ok_iff.mp hconfig))
  | nilDereference => cases heval
  | receiver id config | receivingConnector id config | processor id config
  | exportingConnector id config =>
    cases config <;> cases heval <;> simpa [writes] using h

theorem addComponents_filled {pipelineID : String} {components : List Component}
    (hexporter : ∀ id config, .exporter id config ∈ components → ∀ exporter envVars,
      evalE answer config = .ok (exporter, envVars) → Assignment.Filled key Value written envVars)
    (h : Assignment.Filled key Value filled s.envVars)
    (heval : evalE answer (addComponents pipelineID components s) = .ok s') :
    Assignment.Filled key Value (filled ++ components.flatMap (·.writes written)) s'.envVars := by
  induction components generalizing filled s with
  | nil =>
    cases heval
    simpa using h
  | cons c components ih =>
    obtain ⟨t, hadd, hrest⟩ := evalE_bind_ok_iff.mp heval
    have ht := c.add_filled (fun id config hc => hexporter id config (hc ▸ .head _)) h hadd
    have hs' := ih (fun id config hc => hexporter id config (.tail _ hc)) ht hrest
    simpa [List.append_assoc] using hs'

theorem addServicePipeline_filled {plan : ServicePlan}
    (hexporter : ∀ id config, .exporter id config ∈ plan.components → ∀ exporter envVars,
      evalE answer config = .ok (exporter, envVars) → Assignment.Filled key Value written envVars)
    (h : Assignment.Filled key Value filled s.envVars)
    (heval : evalE answer (addServicePipeline plan s) = .ok s') :
    Assignment.Filled key Value (filled ++ plan.components.flatMap (·.writes written))
      s'.envVars := by
  refine addComponents_filled hexporter ?_ (evalE_mapErr_ok_iff.mp heval)
  exact h

end Environment

end TelemetryManager.Collector
