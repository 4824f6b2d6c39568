import TelemetryManager.CoordinationConfig
import TelemetryManager.Library.Interleaving
import TelemetryManager.Library.OptimisticStore

/-! Concurrent changes of the coordination ConfigMap.
The three pipeline controllers add and remove references by read-modify-write cycles. The API
server accepts a write only from the current version, so the cycles that succeed take effect one
after the other. -/
namespace TelemetryManager.Coordination

open Interaction OptimisticStore

inductive Call where
  | add (pipelineType : PipelineType) (input : PipelineReference)
  | remove (pipelineType : PipelineType) (name : String)

namespace Call

def pipelineType : Call → PipelineType
  | .add pipelineType _ | .remove pipelineType _ => pipelineType

def name : Call → String
  | .add _ input => input.name
  | .remove _ name => name

def change : Call → List PipelineReference → List PipelineReference
  | .add _ input => addReference input
  | .remove _ name => removeReference name

def updateFn (call : Call) : OTLPGatewayConfigMap → Except GoError OTLPGatewayConfigMap :=
  updateSlice call.pipelineType call.change

def program (yaml : YamlLib) (ns : String) : Call → Client Unit
  | .add pipelineType input => addPipelineReference yaml ns pipelineType input
  | .remove pipelineType name => removePipelineReference yaml ns pipelineType name

theorem program_eq (yaml : YamlLib) (ns : String) (call : Call) :
    call.program yaml ns = applyConfigUpdate yaml ns call.updateFn := by
  cases call <;> rfl

def apply (call : Call) (config : OTLPGatewayConfigMap) : OTLPGatewayConfigMap :=
  match call.updateFn config with
  | .ok config => config
  | .error _ => config

end Call

section Programs

variable (yaml : YamlLib) (ns : String)
  (updateFn : OTLPGatewayConfigMap → Except GoError OTLPGatewayConfigMap)

def afterRead (cm : Option ConfigMap) : Api (Except GoError Unit) :=
  match updatedDocument yaml updateFn cm with
  | .error err => .done (.error err)
  | .ok yamlData =>
    match cm with
    | none => (createConfigMap ns yamlData).run
    | some cm => (updateConfigMap cm yamlData).run

def afterGet (answer : Except ApiError ConfigMap) : Api (Except GoError Unit) :=
  match answer with
  | .ok cm => afterRead yaml ns updateFn (some cm)
  | .error err =>
    if err.isNotFound then afterRead yaml ns updateFn none
    else .done (.error (.errorf "failed to get ConfigMap: " (.api err) ""))

theorem applyConfigUpdate_run :
    (applyConfigUpdate yaml ns updateFn).run =
      .call (.getConfigMap (configMapKey ns)) (afterGet yaml ns updateFn) := by
  -- what follows the read depends on it only through the ConfigMap found
  have hread : ∀ cm, (do
      let yamlData ← liftExcept (updatedDocument yaml updateFn cm)
      match cm with
      | none => createConfigMap ns yamlData
      | some cm => updateConfigMap cm yamlData : Client Unit).run =
        afterRead yaml ns updateFn cm := by
    intro cm
    unfold afterRead
    cases updatedDocument yaml updateFn cm with
    | error err => rfl
    | ok yamlData => cases cm <;> rfl
  change Prog.call _ _ = _
  congr 1
  funext answer
  cases answer with
  | ok cm => exact hread (some cm)
  | error err =>
    cases herr : err.isNotFound with
    | true =>
      simp only [afterGet, herr, if_true]
      rw [← hread none]
      cases err <;> first | rfl | cases herr
    | false =>
      simp only [afterGet, herr]
      cases err <;> first | rfl | cases herr

theorem createConfigMap_run (yamlData : String) :
    (createConfigMap ns yamlData).run =
      .call (.createConfigMap (newConfigMap ns yamlData))
        fun answer : Except ApiError Unit => .done
          (answer.mapError fun err => .errorf "failed to create ConfigMap: " (.api err) "") := by
  change Prog.call _ _ = _
  congr 1
  funext answer
  cases answer <;> rfl

theorem updateConfigMap_run (cm : ConfigMap) (yamlData : String) :
    (updateConfigMap cm yamlData).run =
      .call (.updateConfigMap (withYamlData cm yamlData))
        fun answer : Except ApiError Unit => .done
          (answer.mapError fun err => .errorf "failed to update ConfigMap: " (.api err) "") := by
  change Prog.call _ _ = _
  congr 1
  funext answer
  cases answer <;> rfl

end Programs

section Document

variable {yaml : YamlLib} {updateFn : OTLPGatewayConfigMap → Except GoError OTLPGatewayConfigMap}
  {cm : Option ConfigMap} {yamlData : String}

theorem updatedDocument_ok (h : updatedDocument yaml updateFn cm = .ok yamlData) :
    ∃ config config', parseConfig yaml cm = .ok config ∧ updateFn config = .ok config' ∧
      yaml.marshal config' = .ok yamlData := by
  unfold updatedDocument at h
  split at h
  · cases h
  · rename_i config hparse
    split at h
    · cases h
    · rename_i config' hupdate
      split at h
      · cases h
      · rename_i yamlData' hmarshal
        cases h
        exact ⟨config, config', hparse, hupdate, hmarshal⟩

theorem parseConfig_written (hyaml : yaml.RoundTrips) {config : OTLPGatewayConfigMap}
    (hmarshal : yaml.marshal config = .ok yamlData) {cm : ConfigMap}
    (hdata : cm.data.lookup configMapDataKey = some yamlData) :
    parseConfig yaml (some cm) = .ok config := by
  have hne : yamlData ≠ "" := by
    intro h
    exact hyaml.marshal_ne_empty config (h ▸ hmarshal)
  simp [parseConfig, hdata, hne, hyaml.unmarshal_marshal config yamlData hmarshal]

/-- A ConfigMap written by a call holds the document that the call was applied to. -/
theorem parseConfig_apply (hyaml : yaml.RoundTrips) {call : Call}
    (h : updatedDocument yaml call.updateFn cm = .ok yamlData) {written : ConfigMap}
    (hdata : written.data.lookup configMapDataKey = some yamlData) :
    parseConfig yaml (some written) = (parseConfig yaml cm).map call.apply := by
  obtain ⟨config, config', hparse, hupdate, hmarshal⟩ := updatedDocument_ok h
  rw [parseConfig_written hyaml hmarshal hdata, hparse]
  simp [Except.map, Call.apply, hupdate]

end Document

def OTLPGatewayConfigMap.UniqueNames (config : OTLPGatewayConfigMap) : Prop :=
  ∀ signal, ((config.slice signal).map (·.name)).Nodup

theorem setSlice_slice (config : OTLPGatewayConfigMap) (refs : List PipelineReference)
    (signal signal' : SignalType) :
    (config.setSlice refs signal).slice signal' =
      if signal' = signal then refs else config.slice signal' := by
  cases signal <;> cases signal' <;> rfl

theorem addReference_names (input : PipelineReference) (refs : List PipelineReference) :
    (addReference input refs).map (·.name) =
      if input.name ∈ refs.map (·.name) then refs.map (·.name)
      else refs.map (·.name) ++ [input.name] := by
  induction refs with
  | nil => simp [addReference]
  | cons ref refs ih =>
    unfold addReference
    by_cases hname : ref.name = input.name
    · simp [hname]
    · have hne : input.name ≠ ref.name := Ne.symm hname
      rw [if_neg hname, List.map_cons, ih]
      by_cases hmem : input.name ∈ refs.map (·.name)
      · simp [hmem]
      · simp [hmem, hne]

theorem Call.change_nodup (call : Call) {refs : List PipelineReference}
    (h : (refs.map (·.name)).Nodup) : ((call.change refs).map (·.name)).Nodup := by
  cases call with
  | add pipelineType input =>
    rw [Call.change, addReference_names]
    by_cases hmem : input.name ∈ refs.map (·.name)
    · rwa [if_pos hmem]
    · rw [if_neg hmem]
      exact h.append (List.nodup_singleton _) (by simpa using hmem)
  | remove pipelineType name => exact h.sublist (List.filter_sublist.map _)

theorem Call.change_others (call : Call) (refs : List PipelineReference) :
    (call.change refs).filter (fun ref => ref.name ≠ call.name) =
      refs.filter fun ref => ref.name ≠ call.name := by
  cases call with
  | add pipelineType input =>
    simp only [Call.change, Call.name]
    induction refs with
    | nil => simp [addReference]
    | cons ref refs ih =>
      unfold addReference
      by_cases hname : ref.name = input.name
      · simp [hname]
      · rw [if_neg hname, List.filter_cons, List.filter_cons, ih]
  | remove pipelineType name =>
    exact List.filter_eq_self.mpr fun ref href => (List.mem_filter.mp href).2

theorem Call.apply_slice (call : Call) (config : OTLPGatewayConfigMap) (signal : SignalType) :
    (call.apply config).slice signal =
      if call.pipelineType = .of signal then call.change (config.slice signal)
      else config.slice signal := by
  unfold Call.apply Call.updateFn updateSlice
  cases htype : call.pipelineType with
  | logFluentBit => rfl
  | of signal' =>
    simp only [setSlice_slice]
    by_cases hs : signal = signal'
    · simp [hs]
    · have hne : signal' ≠ signal := Ne.symm hs
      simp [hs, hne]

theorem Call.apply_uniqueNames (call : Call) {config : OTLPGatewayConfigMap}
    (h : config.UniqueNames) : (call.apply config).UniqueNames := by
  intro signal
  rw [call.apply_slice]
  by_cases hs : call.pipelineType = .of signal
  · rw [if_pos hs]
    exact call.change_nodup (h signal)
  · rw [if_neg hs]
    exact h signal

def configMapVersions : Versioned ConfigMap where
  version := (·.resourceVersion)
  stamp := fun n cm => { cm with resourceVersion := n }
  version_stamp := fun _ _ => rfl

abbrev ConfigMapStore := Store configMapVersions

/-- The answers of the API server for the ConfigMap `key`. Every request may fail, with any error
and without effect; reads may be served from a stale cache. -/
inductive Serve (key : ObjectKey) :
    ConfigMapStore → (r : ApiReq) → ApiResp r → ConfigMapStore → Prop where
  | fails (s : ConfigMapStore) (r : ApiReq) (err : ApiError) : Serve key s r (.error err) s
  | get (s : ConfigMapStore) (cm : ConfigMap) (h : s.MayRead cm) :
      Serve key s (.getConfigMap key) (.ok cm) s
  | create (s : ConfigMapStore) (cm : ConfigMap) (h : s.AcceptsCreate) :
      Serve key s (.createConfigMap cm) (.ok ()) (s.put cm)
  | update (s : ConfigMapStore) (cm : ConfigMap) (h : s.AcceptsUpdate cm) :
      Serve key s (.updateConfigMap cm) (.ok ()) (s.put cm)

section Runs

variable {ι : Type} (yaml : YamlLib) (ns : String) (calls : ι → Call)

abbrev CallSystem (ι : Type) := System ApiReq ApiResp ConfigMapStore ι (Except GoError Unit)

def start (init : Option ConfigMap) : CallSystem ι where
  server := .init configMapVersions init
  procs := fun i => ((calls i).program yaml ns).run

def isCommit (e : Event ConfigMapStore ι) : Bool := e.before.lastVersion != e.after.lastVersion

def commits (trace : List (Event ConfigMapStore ι)) : List ι :=
  (trace.filter isCommit).map (·.process)

inductive Phase (call : Call) (s : ConfigMapStore) : Api (Except GoError Unit) → Prop where
  | reading : Phase call s (call.program yaml ns).run
  | creating (yamlData : String) (h : updatedDocument yaml call.updateFn none = .ok yamlData) :
      Phase call s (createConfigMap ns yamlData).run
  | updating (cm : ConfigMap) (yamlData : String) (hread : s.MayRead cm)
      (h : updatedDocument yaml call.updateFn (some cm) = .ok yamlData) :
      Phase call s (updateConfigMap cm yamlData).run
  | finished (r : Except GoError Unit) : Phase call s (.done r)

structure Changes (call : Call) (before after : Option ConfigMap) : Prop where
  document : parseConfig yaml after = (parseConfig yaml before).map call.apply
  others : ∀ cm, before = some cm → ∃ cm', after = some cm' ∧ cm'.key = cm.key ∧
    cm'.ownerReferences = cm.ownerReferences ∧
    ∀ k ≠ configMapDataKey, cm'.data.lookup k = cm.data.lookup k

variable {yaml ns} {call : Call}

theorem Phase.mono {s s' : ConfigMapStore} {p : Api (Except GoError Unit)}
    (h : Phase yaml ns call s p) (hpast : ∀ cm, s.MayRead cm → s'.MayRead cm) :
    Phase yaml ns call s' p := by
  cases h with
  | reading => exact .reading
  | creating yamlData h => exact .creating yamlData h
  | updating cm yamlData hread h => exact .updating cm yamlData (hpast cm hread) h
  | finished r => exact .finished r

theorem Phase.afterRead {s : ConfigMapStore} {cm : Option ConfigMap}
    (hread : ∀ c, cm = some c → s.MayRead c) :
    Phase yaml ns call s (afterRead yaml ns call.updateFn cm) := by
  unfold Coordination.afterRead
  cases hdoc : updatedDocument yaml call.updateFn cm with
  | error err => exact .finished _
  | ok yamlData =>
    cases cm with
    | none => exact .creating yamlData hdoc
    | some c => exact .updating c yamlData (hread c rfl) hdoc

theorem afterGet_ne_ok (call : Call) (answer : Except ApiError ConfigMap) :
    afterGet yaml ns call.updateFn answer ≠ .done (.ok ()) := by
  have hread : ∀ cm, Coordination.afterRead yaml ns call.updateFn cm ≠
      .done (.ok ()) := by
    intro cm
    unfold Coordination.afterRead
    cases updatedDocument yaml call.updateFn cm with
    | error err => simp
    | ok yamlData =>
      cases cm with
      | none => simp [createConfigMap_run]
      | some c => simp [updateConfigMap_run]
  cases answer with
  | ok cm => exact hread (some cm)
  | error err =>
    by_cases hnotFound : err.isNotFound
    · simp only [afterGet, if_pos hnotFound]
      exact hread none
    · simp [afterGet, if_neg hnotFound]

/-- What one step of a call can do: go on without an effect, or write and succeed. -/
theorem Phase.step (hyaml : yaml.RoundTrips) {s t : ConfigMapStore} {r : ApiReq}
    {next : ApiResp r → Api (Except GoError Unit)} {x : ApiResp r}
    (h : Phase yaml ns call s (.call r next))
    (hserve : Serve (configMapKey ns) s r x t) :
    (t = s ∧ Phase yaml ns call s (next x) ∧ next x ≠ .done (.ok ())) ∨
    (∃ cm, t = s.put cm ∧ next x = .done (.ok ()) ∧ Changes yaml call s.current t.current) := by
  generalize hp : Prog.call r next = p at h
  cases h with
  | reading =>
    rw [Call.program_eq, applyConfigUpdate_run] at hp
    cases hp
    cases hserve with
    | fails _ err =>
      refine .inl ⟨rfl, ?_, afterGet_ne_ok call _⟩
      by_cases hnotFound : err.isNotFound
      · simp only [afterGet, if_pos hnotFound]
        exact .afterRead nofun
      · simp only [afterGet, if_neg hnotFound]
        exact .finished _
    | get cm hread =>
      refine .inl ⟨rfl, ?_, afterGet_ne_ok call _⟩
      refine .afterRead fun c hc => ?_
      cases hc
      exact hread
  | creating yamlData hdoc =>
    rw [createConfigMap_run] at hp
    cases hp
    cases hserve with
    | fails _ err => exact .inl ⟨rfl, .finished _, by rintro ⟨⟩⟩
    | create _ hfree =>
      refine .inr ⟨_, rfl, rfl, ?_, ?_⟩
      · rw [show s.current = none from hfree]
        exact parseConfig_apply hyaml hdoc rfl
      · intro cm hcm
        rw [show s.current = none from hfree] at hcm
        cases hcm
  | updating cm yamlData hread hdoc =>
    rw [updateConfigMap_run] at hp
    cases hp
    cases hserve with
    | fails _ err => exact .inl ⟨rfl, .finished _, by rintro ⟨⟩⟩
    | update _ haccepts =>
      -- the accepted version shows that the ConfigMap read is the current one
      have hcurrent : s.current = some cm := haccepts.current_eq hread rfl
      refine .inr ⟨_, rfl, rfl, ?_, ?_⟩
      · rw [hcurrent]
        refine parseConfig_apply hyaml hdoc ?_
        change (setData configMapDataKey yamlData cm.data).lookup configMapDataKey = _
        rw [lookup_setData, if_pos rfl]
      · intro c hc
        rw [hcurrent] at hc
        cases hc
        refine ⟨_, rfl, rfl, rfl, fun k hk => ?_⟩
        change (setData configMapDataKey yamlData cm.data).lookup k = _
        rw [lookup_setData, if_neg hk]
  | finished r => cases hp

variable (yaml ns)

structure Invariant (init : Option ConfigMap) (trace : List (Event ConfigMapStore ι))
    (s : CallSystem ι) : Prop where
  phases : ∀ i, Phase yaml ns (calls i) s.server (s.procs i)
  document : parseConfig yaml s.server.current = (parseConfig yaml init).map fun config =>
    (commits trace).foldl (fun config i => (calls i).apply config) config
  once : (commits trace).Nodup
  successful : ∀ i, i ∈ commits trace ↔ s.procs i = .done (.ok ())
  events : ∀ e ∈ trace, e.after = e.before ∨
    (e.process ∈ commits trace ∧ Changes yaml (calls e.process) e.before.current e.after.current)

variable {yaml ns calls}

theorem commits_append (trace : List (Event ConfigMapStore ι)) (e : Event ConfigMapStore ι) :
    commits (trace ++ [e]) = commits trace ++ if isCommit e then [e.process] else [] := by
  unfold commits
  cases h : isCommit e <;> simp [h]

theorem Invariant.start (init : Option ConfigMap) :
    Invariant yaml ns calls init [] (start yaml ns calls init) where
  phases := fun _ => .reading
  document := by
    change parseConfig yaml init = _
    cases parseConfig yaml init <;> rfl
  once := List.nodup_nil
  successful := by
    intro i
    simp [commits, Coordination.start, Call.program_eq, applyConfigUpdate_run]
  events := nofun

variable [DecidableEq ι] {trace : List (Event ConfigMapStore ι)}

theorem Invariant.step (hyaml : yaml.RoundTrips) {init : Option ConfigMap}
    {s t : CallSystem ι} {e : Event ConfigMapStore ι}
    (h : Invariant yaml ns calls init trace s)
    (hstep : Step (Serve (configMapKey ns)) s e t) :
    Invariant yaml ns calls init (trace ++ [e]) t := by
  cases hstep with
  | @answer i r next x server hproc hserve =>
    have hphase := h.phases i
    rw [hproc] at hphase
    rcases hphase.step hyaml hserve with ⟨rfl, hnext, hne⟩ | ⟨cm, rfl, hnext, hchanges⟩
    · -- the server did not change, and the call is not successful
      have hcommits : commits (trace ++ [⟨i, s.server, s.server⟩]) = commits trace := by
        simp [commits_append, isCommit]
      refine ⟨fun j => ?_, ?_, ?_, fun j => ?_, ?_⟩
      · by_cases hj : j = i
        · subst hj
          simpa using hnext
        · simpa [hj] using h.phases j
      · rw [hcommits]
        exact h.document
      · rw [hcommits]
        exact h.once
      · rw [hcommits, h.successful]
        by_cases hj : j = i
        · subst hj
          simp [hproc, hne]
        · simp [hj]
      · intro e he
        rw [hcommits]
        rcases List.mem_append.mp he with he | he
        · exact h.events e he
        · rw [List.mem_singleton.mp he]
          exact .inl rfl
    · -- the call wrote what it computed from the current ConfigMap, and succeeded
      have hcommits : commits (trace ++ [⟨i, s.server, s.server.put cm⟩]) =
        commits trace ++ [i] := by
        simp [commits_append, isCommit, Store.put]
      have hnew : i ∉ commits trace := by
        rw [h.successful, hproc]
        simp
      refine ⟨fun j => ?_, ?_, ?_, fun j => ?_, ?_⟩
      · by_cases hj : j = i
        · subst hj
          simp only [Function.update_self, hnext]
          exact .finished _
        · simp only [Function.update_of_ne hj]
          exact (h.phases j).mono fun _ hread => List.mem_cons_of_mem _ hread
      · rw [hcommits, hchanges.document, h.document]
        cases parseConfig yaml init with
        | error err => rfl
        | ok config => simp [Except.map]
      · rw [hcommits]
        exact h.once.append (List.nodup_singleton i) (by simpa using hnew)
      · rw [hcommits, List.mem_append, h.successful]
        by_cases hj : j = i
        · subst hj
          simp [hnext]
        · simp [hj]
      · intro e he
        rw [hcommits]
        rcases List.mem_append.mp he with he | he
        · rcases h.events e he with hsame | ⟨hmem, hchange⟩
          · exact .inl hsame
          · exact .inr ⟨List.mem_append_left _ hmem, hchange⟩
        · rw [List.mem_singleton.mp he]
          exact .inr ⟨by simp, hchanges⟩

theorem Invariant.of_run (hyaml : yaml.RoundTrips) {init : Option ConfigMap} {s : CallSystem ι}
    (hrun : Run (Serve (configMapKey ns)) (Coordination.start yaml ns calls init)
      trace s) : Invariant yaml ns calls init trace s :=
  hrun.invariant (.start init) fun _ _ _ _ h hstep => h.step hyaml hstep

omit [DecidableEq ι] in
theorem foldl_apply_uniqueNames {config : OTLPGatewayConfigMap} (h : config.UniqueNames)
    (l : List ι) : (l.foldl (fun config i => (calls i).apply config) config).UniqueNames := by
  induction l generalizing config with
  | nil => exact h
  | cons i l ih => exact ih ((calls i).apply_uniqueNames h)

variable (yaml calls)

structure OwnEntryOnly (call : Call) (before after : Option ConfigMap) : Prop where
  otherSignals : ∀ config config', parseConfig yaml before = .ok config →
    parseConfig yaml after = .ok config' → ∀ signal, call.pipelineType ≠ .of signal →
      config'.slice signal = config.slice signal
  otherNames : ∀ config config', parseConfig yaml before = .ok config →
    parseConfig yaml after = .ok config' → ∀ signal,
      (config'.slice signal).filter (fun ref => ref.name ≠ call.name) =
        (config.slice signal).filter fun ref => ref.name ≠ call.name
  otherData : ∀ cm, before = some cm → ∃ cm', after = some cm' ∧ cm'.key = cm.key ∧
    cm'.ownerReferences = cm.ownerReferences ∧
    ∀ k ≠ configMapDataKey, cm'.data.lookup k = cm.data.lookup k

/-- The calls of a run take effect one after the other, in the order of their writes. -/
structure Linearized (init : Option ConfigMap) (trace : List (Event ConfigMapStore ι))
    (s : CallSystem ι) : Prop where
  sequential : parseConfig yaml s.server.current = (parseConfig yaml init).map fun config =>
    (commits trace).foldl (fun config i => (calls i).apply config) config
  exactlySuccessful : ∀ i, i ∈ commits trace ↔ s.procs i = .done (.ok ())
  once : (commits trace).Nodup
  uniqueNames : ∀ config config', parseConfig yaml init = .ok config → config.UniqueNames →
    parseConfig yaml s.server.current = .ok config' → config'.UniqueNames
  ownEntry : ∀ e ∈ trace, e.after = e.before ∨
    OwnEntryOnly yaml (calls e.process) e.before.current e.after.current
  failed : ∀ i err, s.procs i = .done (.error err) → ∀ e ∈ trace, e.process = i →
    e.after = e.before

variable {yaml calls}

omit [DecidableEq ι] in
theorem Changes.ownEntryOnly {before after : Option ConfigMap}
    (h : Changes yaml call before after) : OwnEntryOnly yaml call before after := by
  have hconfig : ∀ {config config'}, parseConfig yaml before = .ok config →
      parseConfig yaml after = .ok config' → config' = call.apply config := by
    intro config config' hbefore hafter
    have hdocument := h.document
    rw [hbefore, hafter] at hdocument
    exact Except.ok.inj hdocument
  refine ⟨?_, ?_, h.others⟩
  · intro config config' hbefore hafter signal htype
    rw [hconfig hbefore hafter, call.apply_slice, if_neg htype]
  · intro config config' hbefore hafter signal
    rw [hconfig hbefore hafter, call.apply_slice]
    by_cases htype : call.pipelineType = .of signal
    · rw [if_pos htype, call.change_others]
    · rw [if_neg htype]

/-- Concurrent additions and removals of references are linearizable. -/
theorem reference_calls_linearized (yaml : YamlLib) (hyaml : yaml.RoundTrips)
    (ns : String) (calls : ι → Call) (init : Option ConfigMap)
    (trace : List (Event ConfigMapStore ι)) (s : CallSystem ι)
    (hrun : Run (Serve (configMapKey ns)) (start yaml ns calls init) trace s) :
    Linearized yaml calls init trace s := by
  have hinv := Invariant.of_run hyaml hrun
  refine ⟨hinv.document, hinv.successful, hinv.once, ?_, ?_, ?_⟩
  · intro config config' hinit hunique hcurrent
    have hdocument := hinv.document
    rw [hinit, hcurrent] at hdocument
    rw [Except.ok.inj hdocument]
    exact foldl_apply_uniqueNames hunique _
  · intro e he
    rcases hinv.events e he with hsame | ⟨_, hchanges⟩
    · exact .inl hsame
    · exact .inr hchanges.ownEntryOnly
  · intro i err hfailed e he hi
    rcases hinv.events e he with hsame | ⟨hmem, _⟩
    · exact hsame
    · rw [hi, hinv.successful, hfailed] at hmem
      cases hmem

end Runs

def sampleReference : PipelineReference where
  name := "backend"
  generation := 1

def sampleDocument : OTLPGatewayConfigMap where
  tracePipelineReferences := [sampleReference]

def sampleText : String := "tracePipelines:\n    - name: backend\n      generation: 1\n"

/-- The YAML texts of two documents; others are refused. -/
def sampleYaml : YamlLib where
  marshal := fun config =>
    if config = sampleDocument then .ok sampleText
    else if config = {} then .ok "\x7b\x7d\n"
    else .error "unsupported document"
  unmarshal := fun text =>
    if text = sampleText then .ok sampleDocument
    else if text = "\x7b\x7d\n" then .ok {}
    else .error "unsupported text"

theorem sampleYaml_roundTrips : sampleYaml.RoundTrips where
  unmarshal_marshal := by
    intro config text h
    simp only [sampleYaml] at h ⊢
    split at h
    · cases h
      simp [*]
    · split at h
      · cases h
        simp only [*]
        decide
      · cases h
  marshal_ne_empty := by
    intro config h
    simp only [sampleYaml] at h
    split at h
    · exact absurd h (by decide)
    · split at h
      · exact absurd h (by decide)
      · cases h

def sampleCalls : Bool → Call
  | true => .add (.of .trace) sampleReference
  | false => .remove (.of .metric) "backend"

/-- Both controllers find no ConfigMap; the one that creates it first succeeds, the other fails. -/
theorem racing_calls_linearized :
    ∃ trace s, Run (Serve (configMapKey "kyma-system"))
        (start sampleYaml "kyma-system" sampleCalls none) trace s ∧
      s.procs true = .done (.ok ()) ∧
      s.procs false = .done (.error
        (.errorf "failed to create ConfigMap: " (.api .alreadyExists) "")) ∧
      Linearized sampleYaml sampleCalls none trace s := by
  have hrun : ∃ trace s, Run (Serve (configMapKey "kyma-system"))
      (start sampleYaml "kyma-system" sampleCalls none) trace s ∧
      s.procs true = .done (.ok ()) ∧ s.procs false = .done (.error
        (.errorf "failed to create ConfigMap: " (.api .alreadyExists) "")) := by
    refine ⟨_, _, .tail (.tail (.tail (.tail .refl
      (.answer (i := true) (applyConfigUpdate_run _ _ _) (.fails _ _ .notFound)))
      (.answer (i := false) (applyConfigUpdate_run _ _ _) (.fails _ _ .notFound)))
      (.answer (i := true) (createConfigMap_run _ _) (.create _ _ rfl)))
      (.answer (i := false) (createConfigMap_run _ _) (.fails _ _ .alreadyExists)),
      rfl, rfl⟩
  obtain ⟨trace, s, hrun, htrue, hfalse⟩ := hrun
  exact ⟨trace, s, hrun, htrue, hfalse, reference_calls_linearized sampleYaml
    sampleYaml_roundTrips "kyma-system" sampleCalls none trace s hrun⟩

end TelemetryManager.Coordination
