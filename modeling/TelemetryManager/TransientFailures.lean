import TelemetryManager.CoordinationConcurrency
import TelemetryManager.PipelineReconcilers

/-! What a failed read of a Secret does to the reference of an OTLP pipeline.
A reconcile runs against arbitrary answers. Its effect on the coordination ConfigMap is that of its
successful writes. -/
namespace TelemetryManager.PipelineReconcilers

open Interaction Coordination Reconcilable

/-- The ConfigMap stored under `key` after an answered request. -/
def effect (key : ObjectKey) (stored : Option ConfigMap) :
    ApiEntry → Option ConfigMap
  | ⟨.createConfigMap cm, .ok _⟩ => if cm.key = key then some cm else stored
  | ⟨.updateConfigMap cm, .ok _⟩ => if cm.key = key then some cm else stored
  | _ => stored

def storedAfter (key : ObjectKey) (stored : Option ConfigMap) (log : ApiLog) :
    Option ConfigMap :=
  log.foldl (effect key) stored

/-- A read of `key`, if the request is one, sees the stored ConfigMap. -/
def ReadsStored (key : ObjectKey) (stored : Option ConfigMap) : ApiEntry → Prop
  | ⟨.getConfigMap k, .ok cm⟩ => k = key → cm.key = key ∧ stored = some cm
  | ⟨.getConfigMap k, .error err⟩ => k = key → err.isNotFound → stored = none
  | _ => True

/-- Requests that neither write ConfigMaps nor change the gateway. -/
def SparesGateway : ApiReq → Prop
  | .createConfigMap _ | .updateConfigMap _ | .applyGateway _ _ _ | .deleteGateway => False
  | _ => True

variable {stored : Option ConfigMap}

theorem effect_of_sparesGateway {key : ObjectKey}
    {entry : ApiEntry} (h : SparesGateway entry.1) : effect key stored entry = stored := by
  obtain ⟨req, answer⟩ := entry
  cases req <;> first | rfl | cases h

theorem storedAfter_of_sparesGateway {key : ObjectKey}
    {log : ApiLog} (h : ∀ entry ∈ log, SparesGateway entry.1) :
    storedAfter key stored log = stored := by
  induction log with
  | nil => rfl
  | cons entry log ih =>
    unfold storedAfter at ih ⊢
    rw [List.foldl_cons, effect_of_sparesGateway (h entry (by simp))]
    exact ih fun e he => h e (by simp [he])

variable (r : Reconciler) (p : OTLPPipeline)

def coordinationKey : ObjectKey := configMapKey r.targetNamespace

def references (stored : Option ConfigMap) : List PipelineReference :=
  match parseConfig r.yaml stored with
  | .ok config => (config.slice p.signal).filter (·.name = p.objectMeta.name)
  | .error _ => []

def removal : Call := .remove (.of p.signal) p.objectMeta.name

/-- A failed request that ends the removal. Only the read may find nothing. -/
def BlocksRemoval (entry : ApiEntry) : Prop :=
  ∃ err, entry.2 = .error err ∧ ¬ (err.isNotFound ∧ ∃ key, entry.1 = .getConfigMap key)

/-- The removal cannot be done: one of its requests fails, or the document cannot be processed. -/
def RemovalBlocked (stored : Option ConfigMap) (log : ApiLog) : Prop :=
  (∃ err, updatedDocument r.yaml (removal p).updateFn stored = .error err) ∨
    ∃ entry ∈ log, BlocksRemoval entry

variable {r p}

theorem references_removed (hyaml : r.yaml.RoundTrips)
    {yamlData : String} (h : updatedDocument r.yaml (removal p).updateFn stored = .ok yamlData)
    {written : ConfigMap} (hdata : written.data.lookup configMapDataKey = some yamlData) :
    references r p (some written) = [] := by
  obtain ⟨config, -, hparse, -⟩ := updatedDocument_ok h
  have hwritten := parseConfig_apply hyaml h hdata
  rw [hparse] at hwritten
  have hslice : ((removal p).apply config).slice p.signal =
      Coordination.removeReference p.objectMeta.name (config.slice p.signal) := by
    rw [Call.apply_slice]
    exact if_pos rfl
  rw [references, hwritten]
  simp only [Except.map, hslice]
  rw [List.filter_eq_nil_iff]
  intro ref href
  simpa using (List.mem_filter.mp href).2

variable (r p) in
/-- How a removal can end, for the ConfigMap `stored` that its read has seen. -/
inductive RemovalEnds (stored : Option ConfigMap) :
    ApiLog → Except GoError Unit → Prop where
  | blocked {log : ApiLog} (h : RemovalBlocked r p stored log) (hlen : log.length ≤ 2)
      (hstored : storedAfter (coordinationKey r) stored log = stored) (err : GoError) :
      RemovalEnds stored log (.error err)
  | removed {log : ApiLog} (h : ¬ RemovalBlocked r p stored log) (hlen : log.length = 2)
      (hrefs : references r p (storedAfter (coordinationKey r) stored log) = []) :
      RemovalEnds stored log (.ok ())

private theorem write_ends (hyaml : r.yaml.RoundTrips)
    {yamlData : String} (hdoc : updatedDocument r.yaml (removal p).updateFn stored = .ok yamlData)
    {read : Except ApiError ConfigMap}
    (hread : ¬ BlocksRemoval ⟨.getConfigMap (coordinationKey r), read⟩)
    {written : ConfigMap} (hkey : written.key = coordinationKey r)
    (hdata : written.data.lookup configMapDataKey = some yamlData)
    {answer : Except ApiError Unit} {entry : ApiEntry}
    (hentry : entry = ⟨.createConfigMap written, answer⟩ ∨
      entry = ⟨.updateConfigMap written, answer⟩) (f : ApiError → GoError) :
    RemovalEnds r p stored [⟨.getConfigMap (coordinationKey r), read⟩, entry]
      (answer.mapError f) := by
  have hafter : storedAfter (coordinationKey r) stored
      [⟨.getConfigMap (coordinationKey r), read⟩, entry] =
        effect (coordinationKey r) stored entry := rfl
  cases answer with
  | ok u =>
    have heffect : effect (coordinationKey r) stored entry = some written := by
      rcases hentry with rfl | rfl <;> simp [effect, hkey]
    refine .removed ?_ rfl ?_
    · rintro (⟨err, hdoc'⟩ | ⟨e, he, hblocks⟩)
      · rw [hdoc] at hdoc'
        cases hdoc'
      · rcases List.mem_cons.mp he with rfl | he
        · exact hread hblocks
        · rw [List.mem_singleton.mp he] at hblocks
          obtain ⟨err, herr, -⟩ := hblocks
          rcases hentry with rfl | rfl <;> cases herr
    · rw [hafter, heffect]
      exact references_removed hyaml hdoc hdata
  | error err =>
    have heffect : effect (coordinationKey r) stored entry = stored := by
      rcases hentry with rfl | rfl <;> rfl
    have hblocks : BlocksRemoval entry := by
      rcases hentry with rfl | rfl
      · exact ⟨err, rfl, by rintro ⟨-, key, hget⟩; cases hget⟩
      · exact ⟨err, rfl, by rintro ⟨-, key, hget⟩; cases hget⟩
    exact .blocked (.inr ⟨entry, by simp, hblocks⟩) (by simp) (hafter.trans heffect) _

variable {res : Except GoError Unit}

private theorem afterRead_ends (hyaml : r.yaml.RoundTrips)
    (hkey : ∀ cm, stored = some cm → cm.key = coordinationKey r)
    {read : Except ApiError ConfigMap}
    (hread : ¬ BlocksRemoval ⟨.getConfigMap (coordinationKey r), read⟩)
    {rest : ApiLog}
    (h : Exec (afterRead r.yaml r.targetNamespace (removal p).updateFn stored) rest res) :
    RemovalEnds r p stored (⟨.getConfigMap (coordinationKey r), read⟩ :: rest) res := by
  unfold afterRead at h
  cases hdoc : updatedDocument r.yaml (removal p).updateFn stored with
  | error err =>
    rw [hdoc] at h
    obtain ⟨rfl, rfl⟩ := exec_done_iff.mp h
    exact .blocked (.inl ⟨err, hdoc⟩) (by simp) rfl err
  | ok yamlData =>
    rw [hdoc] at h
    cases stored with
    | none =>
      simp only [createConfigMap_run] at h
      obtain ⟨answer, l, rfl, hdone⟩ := exec_call_iff.mp h
      obtain ⟨rfl, rfl⟩ := exec_done_iff.mp hdone
      exact write_ends hyaml hdoc hread rfl rfl (.inl rfl) _
    | some cm =>
      simp only [updateConfigMap_run] at h
      obtain ⟨answer, l, rfl, hdone⟩ := exec_call_iff.mp h
      obtain ⟨rfl, rfl⟩ := exec_done_iff.mp hdone
      have hdata : (withYamlData cm yamlData).data.lookup configMapDataKey = some yamlData := by
        rw [withYamlData, lookup_setData, if_pos rfl]
      have hwritten : (withYamlData cm yamlData).key = coordinationKey r := hkey cm rfl
      exact write_ends hyaml hdoc hread hwritten hdata (.inr rfl) _

theorem removeReference_ends (hyaml : r.yaml.RoundTrips) {log : ApiLog}
    (h : ExecE (removeReference r p) log res)
    (hread : ∀ entry, log.head? = some entry → ReadsStored (coordinationKey r) stored entry) :
    RemovalEnds r p stored log res := by
  obtain ⟨res', hexec, rfl⟩ := execE_mapErr_iff.mp h
  suffices hends : RemovalEnds r p stored log res' by
    cases hends with
    | blocked hblocked hlen hstored err => exact .blocked hblocked hlen hstored _
    | removed hfree hlen hrefs => exact .removed hfree hlen hrefs
  have hcall : Exec (.call (.getConfigMap (coordinationKey r))
      (afterGet r.yaml r.targetNamespace (removal p).updateFn)) log res' := by
    rw [coordinationKey, ← applyConfigUpdate_run]
    exact hexec
  obtain ⟨answer, rest, rfl, hrest⟩ := exec_call_iff.mp hcall
  have hseen := hread _ rfl
  cases answer with
  | ok cm =>
    obtain ⟨hkey, rfl⟩ := hseen rfl
    refine afterRead_ends hyaml ?_ ?_ hrest
    · intro cm' hcm
      cases hcm
      exact hkey
    · rintro ⟨err, herr, -⟩
      cases herr
  | error err =>
    cases hnotFound : err.isNotFound with
    | true =>
      obtain rfl := hseen rfl hnotFound
      simp only [afterGet, hnotFound, if_true] at hrest
      refine afterRead_ends hyaml (fun cm hcm => by cases hcm) ?_ hrest
      rintro ⟨err', herr, hnot⟩
      cases herr
      exact hnot ⟨hnotFound, _, rfl⟩
    | false =>
      simp only [afterGet, hnotFound] at hrest
      obtain ⟨rfl, rfl⟩ := exec_done_iff.mp hrest
      refine .blocked (.inr ⟨_, List.mem_singleton.mpr rfl, err, rfl, ?_⟩) (by simp) rfl _
      simp [hnotFound]

/-- A program of one request, which decides whether it fails. -/
def SingleRequest {α : Type} (x : Client α) : Prop :=
  ∀ log res, ExecE x log res → ∃ entry, log = [entry] ∧ SparesGateway entry.1 ∧
    ((∃ e, res = .error e) ↔ RequestFailed entry)

theorem requestOrFail_single {text : String} (req : ApiReq) (hreq : SparesGateway req) :
    SingleRequest (requestOrFail text req) := by
  intro log res h
  obtain ⟨answer, rest, rfl, hrest⟩ := execE_request_bind_iff.mp h
  cases answer with
  | error err =>
    obtain ⟨rfl, rfl⟩ := execE_throw_iff.mp hrest
    exact ⟨_, rfl, hreq, fun _ => ⟨err, rfl⟩, fun _ => ⟨_, rfl⟩⟩
  | ok result =>
    obtain ⟨rfl, rfl⟩ := execE_pure_iff.mp hrest
    refine ⟨_, rfl, hreq, ?_, ?_⟩
    · rintro ⟨e, he⟩
      cases he
    · rintro ⟨err, herr⟩
      cases herr

theorem SingleRequest.ite {α : Type} {c : Prop} [Decidable c] {x y : Client α}
    (hx : SingleRequest x) (hy : SingleRequest y) : SingleRequest (if c then x else y) := by
  by_cases hc : c
  · rwa [if_pos hc]
  · rwa [if_neg hc]

/-- The program fails exactly if its last request does. -/
def EndsWithLast (x : Client Unit) : Prop :=
  ∀ log res, ExecE x log res →
    ((∃ e, res = .error e) ↔ ∃ entry, log.getLast? = some entry ∧ RequestFailed entry)

section Agents

variable {α : Type} (toOTLP : α → OTLPPipeline)

theorem getReconcilablePipelines_asks (pipelines : List α) :
    Asks IsRead (getReconcilablePipelines r (fun a => .ofOTLP (toOTLP a)) pipelines) := by
  induction pipelines with
  | nil => exact .pure _
  | cons a pipelines ih =>
    exact (isReconcilable_asks (validate_otlp_asks (toOTLP a))).bind fun _ =>
      ih.bind fun _ => .pure _

variable {pipelines : List α} {wrap : GoError → GoError} {finish : List α → Client Unit}

theorem agents_endsWithLast (hfinish : ∀ l, SingleRequest (finish l)) :
    EndsWithLast (mapErr wrap
      (getReconcilablePipelines r (fun a => .ofOTLP (toOTLP a)) pipelines) >>= finish) := by
  intro log res h
  rcases execE_bind_iff.mp h with ⟨e, hfetch, rfl⟩ | ⟨l, log, log', rfl, -, hlast⟩
  · obtain ⟨res', hfetch, hres⟩ := execE_mapErr_iff.mp hfetch
    cases res' with
    | ok l => cases hres
    | error e' =>
      have hfailed := getReconcilablePipelines_failsByLast r
        (fun a => isReconcilable_failsByLast (validate_otlp_failsByLast (toOTLP a)))
        pipelines log e' hfetch trivial
      exact ⟨fun _ => hfailed, fun _ => ⟨e, rfl⟩⟩
  · obtain ⟨entry, rfl, -, hiff⟩ := hfinish l log' res hlast
    rw [hiff]
    simp

theorem agents_asks (hfinish : ∀ l, SingleRequest (finish l)) :
    Asks SparesGateway (mapErr wrap
      (getReconcilablePipelines r (fun a => .ofOTLP (toOTLP a)) pipelines) >>= finish) := by
  refine .bind (.mapErr ?_) fun l => ?_
  · intro log res h entry hentry
    have hread := getReconcilablePipelines_asks toOTLP pipelines log res h entry hentry
    generalize entry.1 = req at hread
    cases req <;> trivial
  · intro log res h entry hentry
    obtain ⟨e, rfl, hwrites, -⟩ := hfinish l log res h
    rwa [List.mem_singleton.mp hentry]

end Agents

theorem applyOrDeleteLogAgent_single (pipelines : List LogPipeline) :
    SingleRequest (applyOrDeleteLogAgent pipelines) :=
  .ite (requestOrFail_single .deleteLogAgent trivial)
    (requestOrFail_single (.applyLogAgent _) trivial)

theorem applyOrDeleteMetricAgents_single (pipelines : List MetricPipeline) :
    SingleRequest (applyOrDeleteMetricAgents pipelines) :=
  .ite (requestOrFail_single .deleteMetricAgent trivial)
    (requestOrFail_single (.applyMetricAgent _) trivial)

theorem reconcileAgents_endsWithLast (all : List OTLPPipeline) :
    EndsWithLast (reconcileAgents r p all) := by
  cases p with
  | trace tp =>
    intro log res h
    obtain ⟨rfl, rfl⟩ := execE_pure_iff.mp h
    simp
  | log lp => exact agents_endsWithLast OTLPPipeline.log applyOrDeleteLogAgent_single
  | metric mp => exact agents_endsWithLast OTLPPipeline.metric applyOrDeleteMetricAgents_single

theorem reconcileAgents_asks (all : List OTLPPipeline) :
    Asks SparesGateway (reconcileAgents r p all) := by
  cases p with
  | trace tp => exact .pure _
  | log lp => exact agents_asks OTLPPipeline.log applyOrDeleteLogAgent_single
  | metric mp => exact agents_asks OTLPPipeline.metric applyOrDeleteMetricAgents_single

/-- A reconcile that has decided on the pipeline goes on accordingly. -/
theorem doReconcile_exec {all : List OTLPPipeline} {lpre lval lpost : ApiLog}
    {d : Except GoError Bool} (hrun : ExecE (doReconcile r p) (lpre ++ lval ++ lpost) res)
    (hpre : ExecE (beforeValidation r p) lpre (.ok (some all)))
    (hval : ExecE (isReconcilable r (.ofOTLP p)) lval d) :
    ((∃ e, d = .error e) ∧ lpost = [] ∧ ∃ e, res = .error e) ∨
      ∃ b, d = .ok b ∧ ExecE (afterValidation r p all b) lpost res := by
  rw [List.append_assoc] at hrun
  rcases execE_bind_iff.mp hrun with ⟨e, hbefore, -⟩ | ⟨found, l, l', hlog, hbefore, hrest⟩
  · have hlog : lpre ++ (lval ++ lpost) = lpre ++ (lval ++ lpost) ++ [] := by simp
    obtain ⟨-, hcontra, -⟩ := hpre.unique hbefore hlog
    cases hcontra
  · obtain ⟨-, hfound, rfl⟩ := hpre.unique hbefore hlog
    cases hfound
    rcases execE_bind_iff.mp hrest with ⟨e, hdecide, rfl⟩ | ⟨b, l, l', hlog, hdecide, hafter⟩
    · obtain ⟨d', hdecide, hd⟩ := execE_mapErr_iff.mp hdecide
      have hlog : lval ++ lpost = lval ++ lpost ++ [] := by simp
      obtain ⟨-, rfl, rfl⟩ := hval.unique hdecide hlog
      cases d with
      | error e' => exact .inl ⟨⟨e', rfl⟩, rfl, e, rfl⟩
      | ok b => cases hd
    · obtain ⟨d', hdecide, hd⟩ := execE_mapErr_iff.mp hdecide
      obtain ⟨-, rfl, rfl⟩ := hval.unique hdecide hlog
      cases d with
      | error e' => cases hd
      | ok b' =>
        cases hd
        exact .inr ⟨b, rfl, hafter⟩

/-- How a reconcile ends that takes the pipeline for an invalid one: the removal is blocked, or it
is done and the agents are reconciled. -/
theorem afterValidation_false {all : List OTLPPipeline} (hyaml : r.yaml.RoundTrips)
    {lpost : ApiLog} (h : ExecE (afterValidation r p all false) lpost res)
    (hread : ∀ entry, lpost.head? = some entry → ReadsStored (coordinationKey r) stored entry) :
    (RemovalBlocked r p stored (lpost.take 2) ∧ (∃ e, res = .error e) ∧
      storedAfter (coordinationKey r) stored lpost = stored) ∨
    (¬ RemovalBlocked r p stored (lpost.take 2) ∧
      references r p (storedAfter (coordinationKey r) stored lpost) = [] ∧
      ((∃ e, res = .error e) ↔
        ∃ entry, (lpost.drop 2).getLast? = some entry ∧ RequestFailed entry)) := by
  rcases execE_bind_iff.mp h with ⟨e, hremove, rfl⟩ | ⟨_, l, l', rfl, hremove, hagents⟩
  · cases removeReference_ends hyaml hremove hread with
    | blocked hblocked hlen hstored =>
      rw [List.take_of_length_le hlen]
      exact .inl ⟨hblocked, ⟨e, rfl⟩, hstored⟩
  · have hhead : ∀ entry, l.head? = some entry → ReadsStored (coordinationKey r) stored entry := by
      intro entry hentry
      exact hread entry (by simp [List.head?_append, hentry])
    cases removeReference_ends hyaml hremove hhead with
    | removed hfree hlen hrefs =>
      right
      rw [List.take_left' hlen, List.drop_left' hlen]
      refine ⟨hfree, ?_, reconcileAgents_endsWithLast all l' res hagents⟩
      have hagentsStored : storedAfter (coordinationKey r) stored (l ++ l') =
          storedAfter (coordinationKey r) stored l := by
        unfold storedAfter
        rw [List.foldl_append]
        exact storedAfter_of_sparesGateway (reconcileAgents_asks all l' res hagents)
      rw [hagentsStored, hrefs]

/-- A failed read of a Secret during the validation of a pipeline is returned as an error and keeps
the reference of the pipeline, except if the read was one behind the check of the Secret
references and nothing else stops the removal. -/
theorem failed_read_keeps_reference_iff (r : Reconciler) (p : OTLPPipeline)
    (hyaml : r.yaml.RoundTrips) (stored : Option ConfigMap) {all : List OTLPPipeline}
    {lpre lval lpost : ApiLog} {d : Except GoError Bool} {res : Except GoError Unit}
    (hrun : ExecE (doReconcile r p) (lpre ++ lval ++ lpost) res)
    (hpre : ExecE (beforeValidation r p) lpre (.ok (some all)))
    (hval : ExecE (isReconcilable r (.ofOTLP p)) lval d)
    (hread : ∀ entry, lpost.head? = some entry → ReadsStored (coordinationKey r) stored entry) :
    ((∃ entry ∈ lval, SecretReadFailed entry) → (∃ e, res = .error e) ∧
      references r p (storedAfter (coordinationKey r) stored lpost) = references r p stored) ↔
    ((¬ ∃ entry ∈ lval.drop (secretRefs p).length, SecretReadFailed entry) ∨
      RemovalBlocked r p stored (lpost.take 2) ∨
      (references r p stored = [] ∧
        ∃ entry, (lpost.drop 2).getLast? = some entry ∧ RequestFailed entry)) := by
  by_cases hlate : ∃ entry ∈ lval.drop (secretRefs p).length, SecretReadFailed entry
  · have hfail : ∃ entry ∈ lval, SecretReadFailed entry := by
      obtain ⟨entry, hentry, hbad⟩ := hlate
      exact ⟨entry, List.mem_of_mem_drop hentry, hbad⟩
    have hd : d = .ok false := decision_of_late_failure hval hlate
    have hafter : ExecE (afterValidation r p all false) lpost res := by
      rcases doReconcile_exec hrun hpre hval with ⟨⟨e, he⟩, -⟩ | ⟨b, hb, hafter⟩
      · rw [hd] at he
        cases he
      · rw [hd] at hb
        cases hb
        exact hafter
    rcases afterValidation_false hyaml hafter hread with
      ⟨hblocked, herr, hstored⟩ | ⟨hfree, hrefs, hiff⟩
    · exact ⟨fun _ => .inr (.inl hblocked), fun _ _ => ⟨herr, by rw [hstored]⟩⟩
    · rw [hrefs, ← hiff]
      constructor
      · intro hkept
        obtain ⟨herr, hnone⟩ := hkept hfail
        exact .inr (.inr ⟨hnone.symm, herr⟩)
      · rintro (hno | hblocked | ⟨hnone, herr⟩) -
        · exact absurd hlate hno
        · exact absurd hblocked hfree
        · exact ⟨herr, hnone.symm⟩
  · refine ⟨fun _ => .inl hlate, fun _ hfail => ?_⟩
    obtain ⟨e, rfl⟩ := decision_of_early_failure hval hfail hlate
    rcases doReconcile_exec hrun hpre hval with ⟨-, rfl, herr⟩ | ⟨b, hb, -⟩
    · exact ⟨herr, rfl⟩
    · cases hb

def sampleReconciler : Reconciler where
  validator := sampleValidator ⟨"kyma-system", "telemetry-tracepipeline"⟩ 0
  yaml := sampleYaml
  targetNamespace := "kyma-system"

def sampleSecretKey : ObjectKey := ⟨"default", "backend-credentials"⟩

def sampleSecret : Secret where
  resourceVersion := "7"
  data := [("endpoint", sampleURL)]

def samplePipeline : TracePipeline where
  name := "backend"
  uid := "a1"
  generation := 1
  output :=
    { endpoint :=
        { valueFrom := some ⟨some ⟨sampleSecretKey.name, sampleSecretKey.namespace, "endpoint"⟩⟩ } }

def sampleLock : ConfigMap where
  key := ⟨"kyma-system", "telemetry-tracepipeline-lock"⟩
  ownerReferences := [tracePipelineOwner samplePipeline]

def sampleStored : ConfigMap := newConfigMap "kyma-system" sampleText

def readSecret (answer : Except ApiError Secret) : ApiEntry :=
  ⟨.getSecret sampleSecretKey, answer⟩

def logBefore : ApiLog :=
  [⟨.getConfigMap sampleLock.key, .ok sampleLock⟩, ⟨.listTracePipelines, .ok [samplePipeline]⟩,
   readSecret (.ok sampleSecret)]

/-- The Secret is there for the check of the references and times out for the endpoint. -/
def logValidation : ApiLog :=
  [readSecret (.ok sampleSecret), readSecret (.error (.other "request timed out"))]

/-- The removal of the reference, with the answer to its write. -/
def logRemoval (answer : Except ApiError Unit) : ApiLog :=
  [⟨.getConfigMap (configMapKey "kyma-system"), .ok sampleStored⟩,
   ⟨.updateConfigMap (withYamlData sampleStored "\x7b\x7d\n"), answer⟩]

/-- The pipeline is taken away from the gateway and the reconcile reports success. -/
theorem timeout_removes_reference :
    ExecE (doReconcile sampleReconciler (.trace samplePipeline))
        (logBefore ++ logValidation ++ logRemoval (.ok ())) (.ok ()) ∧
      references sampleReconciler (.trace samplePipeline) (some sampleStored) = [sampleReference] ∧
      ¬ ((∃ entry ∈ logValidation, SecretReadFailed entry) →
        (∃ e, (.ok () : Except GoError Unit) = .error e) ∧
        references sampleReconciler (.trace samplePipeline)
            (storedAfter (coordinationKey sampleReconciler) (some sampleStored)
              (logRemoval (.ok ()))) =
          references sampleReconciler (.trace samplePipeline) (some sampleStored)) := by
  refine ⟨.call (.call (.call (.call (.call (.call (.call (.done _))))))), by decide, ?_⟩
  intro h
  have hremoved : references sampleReconciler (.trace samplePipeline)
      (storedAfter (coordinationKey sampleReconciler) (some sampleStored)
        (logRemoval (.ok ()))) = [] := by decide
  have hfailed : ∃ entry ∈ logValidation, SecretReadFailed entry :=
    ⟨_, List.mem_cons_of_mem _ (List.mem_singleton.mpr rfl), _, _, rfl, rfl⟩
  have hkept := (h hfailed).2
  rw [hremoved] at hkept
  exact absurd hkept (by decide)

/-- A conflict in the write of the removal saves the reference. -/
theorem conflict_saves_reference :
    (∃ entry ∈ logValidation, SecretReadFailed entry) ∧
      (∃ e, (.error (.errorf
        "failed to remove pipeline reference from OTLP Gateway Coordination ConfigMap: "
        (.errorf "failed to update ConfigMap: " (.api .conflict) "") "") : Except GoError Unit) =
          .error e) ∧
      references sampleReconciler (.trace samplePipeline)
          (storedAfter (coordinationKey sampleReconciler) (some sampleStored)
            (logRemoval (.error .conflict))) =
        references sampleReconciler (.trace samplePipeline) (some sampleStored) := by
  have hrun : ExecE (doReconcile sampleReconciler (.trace samplePipeline))
      (logBefore ++ logValidation ++ logRemoval (.error .conflict)) (.error (.errorf
        "failed to remove pipeline reference from OTLP Gateway Coordination ConfigMap: "
        (.errorf "failed to update ConfigMap: " (.api .conflict) "") "")) :=
    .call (.call (.call (.call (.call (.call (.call (.done _)))))))
  have hpre : ExecE (beforeValidation sampleReconciler (.trace samplePipeline)) logBefore
      (.ok (some [.trace samplePipeline])) := .call (.call (.call (.done _)))
  have hval : ExecE (isReconcilable sampleReconciler (.trace samplePipeline)) logValidation
      (.ok false) := .call (.call (.done _))
  have hread : ∀ entry, (logRemoval (.error .conflict)).head? = some entry →
      ReadsStored (coordinationKey sampleReconciler) (some sampleStored) entry := by
    intro entry hentry
    cases hentry
    exact fun _ => ⟨rfl, rfl⟩
  have hfailed : ∃ entry ∈ logValidation, SecretReadFailed entry :=
    ⟨_, List.mem_cons_of_mem _ (List.mem_singleton.mpr rfl), _, _, rfl, rfl⟩
  refine ⟨hfailed, (failed_read_keeps_reference_iff sampleReconciler (.trace samplePipeline)
    sampleYaml_roundTrips (some sampleStored) hrun hpre hval hread).mpr (.inr (.inl (.inr ?_)))
    hfailed⟩
  refine ⟨_, List.mem_cons_of_mem _ (List.mem_singleton.mpr rfl), .conflict, rfl, ?_⟩
  rintro ⟨hnotFound, -⟩
  cases hnotFound

end TelemetryManager.PipelineReconcilers
