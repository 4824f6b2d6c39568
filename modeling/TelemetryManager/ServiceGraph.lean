import TelemetryManager.ComponentBuilder
import TelemetryManager.Library.Delivery
import TelemetryManager.OttlConditions

/-! Service pipelines and connectors of a collector configuration as a graph. -/
namespace TelemetryManager.Collector

inductive ServiceNode where
  | pipeline (id : String)
  | connector (id : String)

inductive Edge (config : Config) : ServiceNode → ServiceNode → Prop where
  | exports {id : String} {sp : ServicePipeline} {c : String}
      (hsp : config.pipelines.lookup id = some sp) (hc : c ∈ sp.exporters)
      (hconnector : c ∈ config.connectors) : Edge config (.pipeline id) (.connector c)
  | receives {id : String} {sp : ServicePipeline} {c : String}
      (hsp : config.pipelines.lookup id = some sp) (hc : c ∈ sp.receivers)
      (hconnector : c ∈ config.connectors) : Edge config (.connector c) (.pipeline id)

def Acyclic (config : Config) : Prop := ∀ n, ¬ Relation.TransGen (Edge config) n n

/-- Data that comes from the receiver or connector `source` goes through the processors and arrives
at the exporter or connector. Between two service pipelines there is a connector. -/
inductive Route (config : Config) (source : String) : List String → String → Prop where
  | within {id : String} {sp : ServicePipeline} {target : String}
      (hsp : config.pipelines.lookup id = some sp) (hsource : source ∈ sp.receivers)
      (htarget : target ∈ sp.exporters) : Route config source sp.processors target
  | across {processors : List String} {c id : String} {sp : ServicePipeline} {target : String}
      (h : Route config source processors c) (hconnector : c ∈ config.connectors)
      (hsp : config.pipelines.lookup id = some sp) (hc : c ∈ sp.receivers)
      (htarget : target ∈ sp.exporters) :
      Route config source (processors ++ sp.processors) target

def isConnector (componentID : String) : Bool :=
  Text.hasPrefix componentID "routing" || Text.hasPrefix componentID "forward"

/-- Some service pipeline receives from `id`. -/
def Receives (config : Config) (id : String) : Prop :=
  ∃ k sp, config.pipelines.lookup k = some sp ∧ id ∈ sp.receivers

def Processes (config : Config) (id : String) : Prop :=
  ∃ k sp, config.pipelines.lookup k = some sp ∧ id ∈ sp.processors

def Exports (config : Config) (id : String) : Prop :=
  ∃ k sp, config.pipelines.lookup k = some sp ∧ id ∈ sp.exporters

structure Coherent (config : Config) : Prop where
  receivers : ∀ id, id ∈ config.receivers ↔ Receives config id ∧ isConnector id = false
  processors : ∀ id, id ∈ config.processors ↔ Processes config id
  exporters : ∀ id, id ∈ config.exporters ↔ Exports config id ∧ isConnector id = false
  receivingConnectors : ∀ id, id ∈ config.connectors ↔ Receives config id ∧ isConnector id
  exportingConnectors : ∀ id, id ∈ config.connectors ↔ Exports config id ∧ isConnector id
  extensions : ExtensionsListed config
  pipelines : ∀ k sp, config.pipelines.lookup k = some sp → sp.receivers ≠ [] ∧ sp.exporters ≠ []

def Component.receiverRef : Component → Option String
  | .receiver id (some _) | .receivingConnector id (some _) => some id
  | _ => none

def Component.exporterRef : Component → Option String
  | .exporter id _ | .exportingConnector id (some _) => some id
  | _ => none

def Component.connectorEntry : Component → Option (String × ConnectorConfig)
  | .receivingConnector id (some c) | .exportingConnector id (some c) => some (id, c)
  | _ => none

def ServicePlan.connectors (plan : ServicePlan) : List (String × ConnectorConfig) :=
  plan.components.filterMap Component.connectorEntry

theorem foldl_reference (components : List Component) (p : ServicePipeline) :
    (components.foldl Component.reference p).receivers =
        p.receivers ++ components.filterMap Component.receiverRef ∧
      (components.foldl Component.reference p).exporters =
        p.exporters ++ components.filterMap Component.exporterRef := by
  induction components generalizing p with
  | nil => simp
  | cons c components ih =>
    rw [List.foldl_cons, (ih _).1, (ih _).2]
    cases c with
    | receiver id config | receivingConnector id config | processor id config
    | exportingConnector id config =>
      cases config <;> simp [List.filterMap_cons, Component.reference, Component.receiverRef,
        Component.exporterRef, ServicePipeline.addReceiver, ServicePipeline.addProcessor,
        ServicePipeline.addExporter]
    | exporter id config =>
      simp [List.filterMap_cons, Component.reference, Component.receiverRef,
        Component.exporterRef, ServicePipeline.addExporter]
    | nilDereference =>
      simp [List.filterMap_cons, Component.reference, Component.receiverRef, Component.exporterRef]

theorem ServicePlan.servicePipeline_receivers (plan : ServicePlan) :
    plan.servicePipeline.receivers = plan.components.filterMap Component.receiverRef := by
  simpa [servicePipeline] using (foldl_reference plan.components {}).1

theorem ServicePlan.servicePipeline_exporters (plan : ServicePlan) :
    plan.servicePipeline.exporters = plan.components.filterMap Component.exporterRef := by
  simpa [servicePipeline] using (foldl_reference plan.components {}).2

theorem Component.lookup_connect (m : Registry.Map String ConnectorConfig) (component : Component)
    {k : String} {c : ConnectorConfig} (hagree : ∀ e ∈ component.connectorEntry, e.1 = k → e.2 = c)
    (hm : ∀ c' ∈ m.lookup k, c' = c) :
    (component.connect m).lookup k =
      if k ∈ component.connectorEntry.map Prod.fst then some c else m.lookup k := by
  have hinsertNew : ∀ {id c'}, (id = k → c' = c) → (Registry.insertNew id c' m).lookup k =
      if k ∈ (some (id, c')).map Prod.fst then some c else m.lookup k := by
    intro id c' hc'
    rw [Registry.lookup_insertNew]
    by_cases hid : k = id
    · subst hid
      rw [hc' rfl]
      cases hk : m.lookup k with
      | none => simp
      | some c'' => simp [hm c'' hk]
    · simp [hid, Ne.symm hid]
  cases component with
  | receivingConnector id config =>
    cases config with
    | none => rfl
    | some c' => exact hinsertNew fun hid => hagree (id, c') rfl hid
  | exportingConnector id config =>
    cases config with
    | none => rfl
    | some c' =>
      by_cases hid : k = id
      · subst hid
        have hc' : c' = c := hagree (k, c') rfl rfl
        simp [connect, connectorEntry, hc']
      · simp [connect, connectorEntry, AList.lookup_insert_ne hid, Ne.symm hid]
  | receiver id config | processor id config | exporter id config | nilDereference => rfl

/-- If all connectors of one ID have the same configuration, this is the one that is registered. -/
theorem lookup_foldl_connect (components : List Component) (m : Registry.Map String ConnectorConfig)
    {k : String} {c : ConnectorConfig}
    (hagree : ∀ e ∈ components.filterMap Component.connectorEntry, e.1 = k → e.2 = c)
    (hm : ∀ c' ∈ m.lookup k, c' = c) :
    (components.foldl Component.connect m).lookup k =
      if k ∈ (components.filterMap Component.connectorEntry).map Prod.fst then some c
      else m.lookup k := by
  induction components generalizing m with
  | nil => simp
  | cons component components ih =>
    have hhead : ∀ e ∈ component.connectorEntry, e.1 = k → e.2 = c := fun e he =>
      hagree e (List.mem_filterMap.mpr ⟨component, by simp, he⟩)
    have htail : ∀ e ∈ components.filterMap Component.connectorEntry, e.1 = k → e.2 = c := by
      intro e he
      obtain ⟨component', hmem, hentry⟩ := List.mem_filterMap.mp he
      exact hagree e (List.mem_filterMap.mpr ⟨component', by simp [hmem], hentry⟩)
    have hstep := component.lookup_connect m hhead hm
    have hm' : ∀ c' ∈ (component.connect m).lookup k, c' = c := by
      intro c' hc'
      rw [hstep] at hc'
      split at hc'
      · exact (Option.some.inj hc').symm
      · exact hm c' hc'
    rw [List.foldl_cons, ih _ htail hm', hstep, List.filterMap_cons]
    cases component.connectorEntry with
    | none => simp
    | some e =>
      by_cases he : k = e.1
      · simp [he]
      · simp only [Option.map_some, Option.mem_some_iff, Ne.symm he, if_false, List.map_cons,
          List.mem_cons, he, false_or]

theorem mem_foldl_connect_iff (components : List Component)
    (m : Registry.Map String ConnectorConfig)
    (k : String) :
    k ∈ components.foldl Component.connect m ↔
      k ∈ m ∨ k ∈ (components.filterMap Component.connectorEntry).map Prod.fst := by
  induction components generalizing m with
  | nil => simp
  | cons component components ih =>
    have hstep : k ∈ component.connect m ↔ k ∈ m ∨ k ∈ component.connectorEntry.map Prod.fst := by
      cases component with
      | receivingConnector id config | exportingConnector id config =>
        cases config <;> simp [Component.connect, Component.connectorEntry, Registry.mem_insertNew,
          or_comm, eq_comm]
      | receiver id config | processor id config | exporter id config | nilDereference =>
        simp [Component.connect, Component.connectorEntry]
    rw [List.foldl_cons, ih, hstep, List.filterMap_cons]
    cases component.connectorEntry with
    | none => simp
    | some e => simp [or_assoc, eq_comm]

/-- The component is registered in the map that its ID belongs to. -/
def Component.Typed : Component → Prop
  | .receiver id _ | .exporter id _ => isConnector id = false
  | .receivingConnector id _ | .exportingConnector id _ => isConnector id = true
  | .processor _ _ | .nilDereference => True

theorem Component.Typed.receiverEntry_iff {c : Component} (h : c.Typed) {id : String} :
    c.receiverEntry.map Prod.fst = some id ↔ c.receiverRef = some id ∧ isConnector id = false := by
  cases c with
  | receiver k config | receivingConnector k config =>
    simp only [Typed] at h
    cases config <;> grind [receiverEntry, receiverRef]
  | processor k config | exporter k config | exportingConnector k config | nilDereference =>
    simp [receiverEntry, receiverRef]

theorem Component.Typed.exporterEntry_iff {c : Component} (h : c.Typed) {id : String} :
    c.exporterEntry = some id ↔ c.exporterRef = some id ∧ isConnector id = false := by
  cases c with
  | exporter k config =>
    simp only [Typed] at h
    grind [exporterEntry, exporterRef]
  | exportingConnector k config =>
    simp only [Typed] at h
    cases config <;> grind [exporterEntry, exporterRef]
  | processor k config | receiver k config | receivingConnector k config | nilDereference =>
    simp [exporterEntry, exporterRef]

theorem Component.Typed.connectorEntry_iff {c : Component} (h : c.Typed) {id : String} :
    c.connectorEntry.map Prod.fst = some id ↔
      (c.receiverRef = some id ∨ c.exporterRef = some id) ∧ isConnector id := by
  cases c with
  | receivingConnector k config | exportingConnector k config | receiver k config =>
    simp only [Typed] at h
    cases config <;> grind [connectorEntry, receiverRef, exporterRef]
  | exporter k config =>
    simp only [Typed] at h
    grind [connectorEntry, receiverRef, exporterRef]
  | processor k config | nilDereference => simp [connectorEntry, receiverRef, exporterRef]

structure CoherentPlans (plans : List ServicePlan) : Prop where
  typed : ∀ plan ∈ plans, ∀ c ∈ plan.components, c.Typed
  connected : ∀ id, isConnector id →
    ((∃ plan ∈ plans, id ∈ plan.servicePipeline.receivers) ↔
      ∃ plan ∈ plans, id ∈ plan.servicePipeline.exporters)
  nonempty : ∀ plan ∈ plans,
    plan.servicePipeline.receivers ≠ [] ∧ plan.servicePipeline.exporters ≠ []

section Build

variable {plans : List ServicePlan} {s : BuildState} {id : String}

theorem mem_filterMap_components_iff {f : Component → Option String} :
    id ∈ (plans.flatMap ServicePlan.components).filterMap f ↔
      ∃ plan ∈ plans, ∃ c ∈ plan.components, f c = some id := by
  simp only [List.mem_filterMap, List.mem_flatMap]
  constructor
  · rintro ⟨c, ⟨plan, hplan, hc⟩, hid⟩
    exact ⟨plan, hplan, c, hc, hid⟩
  · rintro ⟨plan, hplan, c, hc, hid⟩
    exact ⟨c, ⟨plan, hplan, hc⟩, hid⟩

theorem exists_component_and_iff {f g : Component → Option String} {P : Prop}
    (h : ∀ plan ∈ plans, ∀ c ∈ plan.components, f c = some id ↔ g c = some id ∧ P) :
    (∃ plan ∈ plans, ∃ c ∈ plan.components, f c = some id) ↔
      (∃ plan ∈ plans, ∃ c ∈ plan.components, g c = some id) ∧ P := by
  constructor
  · rintro ⟨plan, hplan, c, hc, hid⟩
    obtain ⟨hg, hP⟩ := (h plan hplan c hc).mp hid
    exact ⟨⟨plan, hplan, c, hc, hg⟩, hP⟩
  · rintro ⟨⟨plan, hplan, c, hc, hg⟩, hP⟩
    exact ⟨plan, hplan, c, hc, (h plan hplan c hc).mpr ⟨hg, hP⟩⟩

variable (hadded : PlansAdded plans ⟨newConfig, ∅⟩ s) (hids : (plans.map (·.id)).Nodup)

include hadded hids

theorem exists_pipeline_iff {P : ServicePipeline → Prop} :
    (∃ k sp, s.config.pipelines.lookup k = some sp ∧ P sp) ↔
      ∃ plan ∈ plans, P plan.servicePipeline := by
  constructor
  · rintro ⟨k, sp, hsp, hP⟩
    obtain ⟨plan, hplan, -, rfl⟩ := (hadded.lookup_iff hids fun _ => rfl).mp hsp
    exact ⟨plan, hplan, hP⟩
  · rintro ⟨plan, hplan, hP⟩
    exact ⟨plan.id, _, (hadded.lookup_iff hids fun _ => rfl).mpr ⟨plan, hplan, rfl, rfl⟩, hP⟩

theorem receives_iff : Receives s.config id ↔
    ∃ plan ∈ plans, ∃ c ∈ plan.components, c.receiverRef = some id := by
  refine (exists_pipeline_iff hadded hids).trans ?_
  simp [ServicePlan.servicePipeline_receivers]

theorem exports_iff : Exports s.config id ↔
    ∃ plan ∈ plans, ∃ c ∈ plan.components, c.exporterRef = some id := by
  refine (exists_pipeline_iff hadded hids).trans ?_
  simp [ServicePlan.servicePipeline_exporters]

theorem processes_iff : Processes s.config id ↔
    ∃ plan ∈ plans, id ∈ plan.processors.map Prod.fst := by
  refine (exists_pipeline_iff hadded hids).trans ?_
  simp only [ServicePlan.servicePipeline_processors]

/-- A build of coherent plans leaves a coherent configuration. -/
theorem Coherent.of_added (hplans : CoherentPlans plans) : Coherent s.config := by
  have hnone : ∀ {V : Type} {k : String}, k ∉ (∅ : Registry.Map String V) := AList.notMem_empty _
  have hconnectors : ∀ id, id ∈ s.config.connectors ↔
      (∃ plan ∈ plans, ∃ c ∈ plan.components, c.connectorEntry.map Prod.fst = some id) := by
    intro id
    rw [hadded.connectors, mem_foldl_connect_iff, List.map_filterMap,
      mem_filterMap_components_iff]
    exact or_iff_right hnone
  have hlinked : ∀ id, isConnector id → (Receives s.config id ↔ Exports s.config id) := by
    intro id hid
    have hreceives := exists_pipeline_iff hadded hids (P := fun sp => id ∈ sp.receivers)
    have hexports := exists_pipeline_iff hadded hids (P := fun sp => id ∈ sp.exporters)
    exact hreceives.trans ((hplans.connected id hid).trans hexports.symm)
  have hconnector : ∀ id, id ∈ s.config.connectors ↔
      (Receives s.config id ∨ Exports s.config id) ∧ isConnector id := by
    intro id
    rw [hconnectors, receives_iff hadded hids, exports_iff hadded hids]
    constructor
    · rintro ⟨plan, hplan, c, hc, hid⟩
      obtain ⟨href | href, hid⟩ := (hplans.typed plan hplan c hc).connectorEntry_iff.mp hid
      · exact ⟨.inl ⟨plan, hplan, c, hc, href⟩, hid⟩
      · exact ⟨.inr ⟨plan, hplan, c, hc, href⟩, hid⟩
    · rintro ⟨⟨plan, hplan, c, hc, href⟩ | ⟨plan, hplan, c, hc, href⟩, hid⟩
      · exact ⟨plan, hplan, c, hc,
          (hplans.typed plan hplan c hc).connectorEntry_iff.mpr ⟨.inl href, hid⟩⟩
      · exact ⟨plan, hplan, c, hc,
          (hplans.typed plan hplan c hc).connectorEntry_iff.mpr ⟨.inr href, hid⟩⟩
  refine ⟨fun id => ?_, fun id => ?_, fun id => ?_, fun id => ?_, fun id => ?_, ?_, ?_⟩
  · rw [hadded.receivers, Registry.mem_registerAll, receives_iff hadded hids,
      ← exists_component_and_iff fun plan hplan c hc =>
        (hplans.typed plan hplan c hc).receiverEntry_iff, ← mem_filterMap_components_iff,
      ← List.map_filterMap, List.filterMap_flatMap]
    exact or_iff_right hnone
  · rw [hadded.processors, Registry.mem_registerAll, processes_iff hadded hids, List.map_flatMap,
      List.mem_flatMap]
    exact or_iff_right hnone
  · rw [hadded.exporters, exports_iff hadded hids,
      ← exists_component_and_iff fun plan hplan c hc =>
        (hplans.typed plan hplan c hc).exporterEntry_iff, ← mem_filterMap_components_iff]
    exact or_iff_right hnone
  · rw [hconnector]
    exact and_congr_left fun hid => by rw [hlinked id hid, or_self]
  · rw [hconnector]
    exact and_congr_left fun hid => by rw [hlinked id hid, or_self]
  · refine hadded.extensions fun id => ?_
    rw [newConfig, defaultExtensions, Registry.mem_registerAll]
    exact or_iff_right hnone
  · intro k sp hsp
    obtain ⟨plan, hplan, -, rfl⟩ := (hadded.lookup_iff hids fun _ => rfl).mp hsp
    exact hplans.nonempty plan hplan

end Build

section Delivery

open Ottl

variable (m : Machine) (config : Config)

/-- What the processors of a service pipeline make of a datapoint. -/
def processed (id : String) (d : Datapoint) : Option Datapoint :=
  let processors := ((config.pipelines.lookup id).map (·.processors)).getD []
  (processors.filterMap config.processors.lookup).foldlM m.process d

def listens (c id : String) : Bool := (config.pipelines.lookup id).any (c ∈ ·.receivers)

/-- The service pipelines to which a connector hands a datapoint. A routing connector takes the
first route that the datapoint matches, and the default pipelines if there is none. -/
def connectorTargets (d : Datapoint) (c : String) : List String :=
  match config.connectors.lookup c with
  | none => []
  | some .forward => config.pipelines.keys.filter (listens config c)
  | some (.routing defaultPipelines _ table) =>
    let pipelines := match table.find? fun entry => m.engine entry.statement d with
      | some entry => entry.pipelines
      | none => defaultPipelines
    pipelines.filter (listens config c)

/-- The service pipelines that a datapoint comes to from another one, as it arrives there. -/
def deliveries : String × Datapoint → List (String × Datapoint)
  | (id, d) =>
    match config.pipelines.lookup id, processed m config id d with
    | some sp, some d => (sp.exporters.flatMap (connectorTargets m config d)).map (·, d)
    | _, _ => []

def isAt (id : String) (node : String × Datapoint) : Bool := node.1 = id

end Delivery

end TelemetryManager.Collector
