import TelemetryManager.FluentBitReconciler
import TelemetryManager.GatewayReconciler
import TelemetryManager.TransientFailures

/-! The controllers of pipelines and of the gateway, and what they can ask the API server.
A pipeline controller writes the reference of a pipeline only behind a successful validation of the
very object that it has read; the gateway is built from objects that match a reference read
before. -/
namespace TelemetryManager.Controllers

open Interaction Coordination PipelineReconcilers Reconcilable

structure Controller where
  reconciler : Reconciler
  fluentBit : Reconciler
  pipelineSync : ResourceLock.Checker

/-- All controllers. They share the coordination ConfigMap; no lock is kept in it. -/
structure Setup where
  yaml : YamlLib
  targetNamespace : String
  controller : SignalType → Controller
  yaml_eq : ∀ signal, (controller signal).reconciler.yaml = yaml
  namespace_eq : ∀ signal, (controller signal).reconciler.targetNamespace = targetNamespace
  lock_ne : ∀ signal, (controller signal).reconciler.validator.pipelineLock.lockName ≠
    configMapKey targetNamespace
  fluentBitLock_ne : ∀ signal, (controller signal).fluentBit.validator.pipelineLock.lockName ≠
    configMapKey targetNamespace
  sync_ne : ∀ signal, (controller signal).pipelineSync.lockName ≠ configMapKey targetNamespace

variable (c : Setup)

def key : ObjectKey := configMapKey c.targetNamespace

def getPipeline : SignalType → String → Api (Except ApiError OTLPPipeline)
  | .trace, name => .call (.getTracePipeline name)
      fun answer : Except ApiError TracePipeline => .done (answer.map .trace)
  | .log, name => .call (.getLogPipeline name)
      fun answer : Except ApiError LogPipeline => .done (answer.map .log)
  | .metric, name => .call (.getMetricPipeline name)
      fun answer : Except ApiError MetricPipeline => .done (answer.map .metric)

def reconcilePipeline (signal : SignalType) (p : OTLPPipeline) : Client Unit :=
  match p with
  | .log lp =>
    if isOTel lp then doReconcile (c.controller signal).reconciler p
    else FluentBit.doReconcile (c.controller signal).fluentBit lp
  | _ => doReconcile (c.controller signal).reconciler p

def reconcile (signal : SignalType) (name : String) : Client Unit := do
  match ← getPipeline signal name with
  | .error err =>
    if err.isNotFound then
      mapErr (fun err => .errorf
          "failed to remove pipeline reference from OTLP Gateway Coordination ConfigMap: " err "")
        (removePipelineReference c.yaml c.targetNamespace (.of signal) name)
    else throw (.api err)
  | .ok p =>
    if ← tryAcquirePipelineLock (c.controller signal).pipelineSync id (ownerOf p) then
      mapErr (fun err => .errorf "failed to reconcile: " err "") (reconcilePipeline c signal p)
    else pure ()

/-- The write of a call that has read the coordination ConfigMap before. -/
def WriteOf (call : Call) (before : ApiLog) (req : ApiReq) : Prop :=
  ∃ stored yamlData, updatedDocument c.yaml call.updateFn stored = .ok yamlData ∧
    ((stored = none ∧ req = .createConfigMap (newConfigMap c.targetNamespace yamlData)) ∨
      ∃ cm, stored = some cm ∧ req = .updateConfigMap (withYamlData cm yamlData) ∧
        ⟨.getConfigMap (key c), .ok cm⟩ ∈ before)

theorem call_emits (call : Call) :
    Emits (fun before entry => entry.1 = .getConfigMap (key c) ∨ WriteOf c call before entry.1)
      (call.program c.yaml c.targetNamespace) := by
  intro log res hexec before entry after hlog
  have hcall : Exec (.call (.getConfigMap (key c))
      (afterGet c.yaml c.targetNamespace call.updateFn)) log res := by
    unfold key
    rw [← applyConfigUpdate_run, ← Call.program_eq]
    exact hexec
  obtain ⟨answer, rest, rfl, hrest⟩ := exec_call_iff.mp hcall
  cases before with
  | nil =>
    cases hlog
    exact .inl rfl
  | cons first before =>
    right
    rw [List.cons_append, List.cons.injEq] at hlog
    obtain ⟨rfl, rfl⟩ := hlog
    have hmem : ∀ e, before ++ entry :: after = [e] → entry = e := by
      intro e he
      have hin : entry ∈ [e] := by simp [← he]
      exact List.mem_singleton.mp hin
    -- the write is the only request behind the read
    have hwrite : ∀ stored, Exec (afterRead c.yaml c.targetNamespace call.updateFn stored)
        (before ++ entry :: after) res → (∀ cm, stored = some cm → answer = .ok cm) →
        WriteOf c call (⟨.getConfigMap (key c), answer⟩ :: before) entry.1 := by
      intro stored hafter hstored
      unfold afterRead at hafter
      cases hdoc : updatedDocument c.yaml call.updateFn stored with
      | error err =>
        rw [hdoc] at hafter
        simp at hafter
      | ok yamlData =>
        refine ⟨stored, yamlData, hdoc, ?_⟩
        rw [hdoc] at hafter
        cases stored with
        | none =>
          simp only [createConfigMap_run] at hafter
          obtain ⟨x, l, hl, hdone⟩ := exec_call_iff.mp hafter
          obtain ⟨rfl, -⟩ := exec_done_iff.mp hdone
          have hentry := hmem _ hl
          rw [hentry]
          exact .inl ⟨rfl, rfl⟩
        | some cm =>
          simp only [updateConfigMap_run] at hafter
          obtain ⟨x, l, hl, hdone⟩ := exec_call_iff.mp hafter
          obtain ⟨rfl, -⟩ := exec_done_iff.mp hdone
          have hentry := hmem _ hl
          rw [hentry]
          exact .inr ⟨cm, rfl, rfl, by simp [hstored cm rfl]⟩
    cases answer with
    | ok cm => exact hwrite (some cm) hrest fun cm' hcm => by cases hcm; rfl
    | error err =>
      unfold afterGet at hrest
      dsimp only at hrest
      split at hrest
      · exact hwrite none hrest nofun
      · simp at hrest

def CoordinationWrite (req : ApiReq) : Prop :=
  ∃ cm : ConfigMap, cm.key = key c ∧ (req = .createConfigMap cm ∨ req = .updateConfigMap cm)

/-- Requests that neither write the coordination ConfigMap nor change the gateway. -/
def IsQuiet (req : ApiReq) : Prop :=
  ¬ CoordinationWrite c req ∧ ∀ traces logs metrics, req ≠ .applyGateway traces logs metrics

variable {c} {req : ApiReq}

theorem isQuiet_of_sparesGateway (h : SparesGateway req) : IsQuiet c req := by
  refine ⟨?_, ?_⟩
  · rintro ⟨cm, -, rfl | rfl⟩ <;> exact h
  · rintro traces logs metrics rfl
    exact h

theorem sparesGateway_of_isRead (h : IsRead req) : SparesGateway req := by
  cases req <;> trivial

theorem isQuiet_of_isRead (h : IsRead req) : IsQuiet c req :=
  isQuiet_of_sparesGateway (sparesGateway_of_isRead h)

theorem isQuiet_permitsLock {lock : ResourceLock.Checker} (h : lock.lockName ≠ key c) :
    PermitsLock (IsQuiet c) lock where
  read := fun _ => isQuiet_of_isRead
  create := by
    intro cm hcm
    refine ⟨?_, nofun⟩
    rintro ⟨cm', hkey, hreq | hreq⟩
    · cases hreq
      exact h (hcm.symm.trans hkey)
    · cases hreq
  update := by
    intro cm hcm
    refine ⟨?_, nofun⟩
    rintro ⟨cm', hkey, hreq | hreq⟩
    · cases hreq
    · cases hreq
      exact h (hcm.symm.trans hkey)

variable (c)

def readEntry (name : String) : OTLPPipeline → ApiEntry
  | .trace tp => ⟨.getTracePipeline name, .ok tp⟩
  | .log lp => ⟨.getLogPipeline name, .ok lp⟩
  | .metric mp => ⟨.getMetricPipeline name, .ok mp⟩

/-- A reconcile with this log has read the pipeline `p` and found it reconcilable. -/
def ValidatedLog (signal : SignalType) (name : String) (p : OTLPPipeline) (log : ApiLog) : Prop :=
  ∃ lsync lpre lval rest all, log = readEntry name p :: (lsync ++ (lpre ++ (lval ++ rest))) ∧
    ExecE (tryAcquirePipelineLock (c.controller signal).pipelineSync id (ownerOf p)) lsync
      (.ok true) ∧
    ExecE (beforeValidation (c.controller signal).reconciler p) lpre (.ok (some all)) ∧
    ExecE (PipelineReconcilers.isReconcilable (c.controller signal).reconciler (.ofOTLP p)) lval
      (.ok true)

/-- The calls of a reconcile that has done `before`: a removal, or the addition of the pipeline that
it has validated. -/
def CallAfter (signal : SignalType) (name : String) (before : ApiLog) : Call → Prop
  | .remove _ _ => True
  | .add pipelineType input => ∃ p, pipelineType = .of p.signal ∧ input.name = p.objectMeta.name ∧
      input.generation = p.objectMeta.generation ∧ ValidatedLog c signal name p before

/-- What a pipeline controller can ask, given what it has done before. -/
def PipelineGood (signal : SignalType) (name : String) (before : ApiLog)
    (entry : ApiEntry) : Prop :=
  IsQuiet c entry.1 ∨ ∃ call, CallAfter c signal name before call ∧ WriteOf c call before entry.1

variable {c} {signal : SignalType} {name : String} {p : OTLPPipeline}

theorem WriteOf.mono {call : Call} {before before' : ApiLog}
    (h : WriteOf c call before req) (hmem : ∀ e ∈ before, e ∈ before') :
    WriteOf c call before' req := by
  obtain ⟨stored, yamlData, hdoc, hreq⟩ := h
  refine ⟨stored, yamlData, hdoc, hreq.imp_right ?_⟩
  rintro ⟨cm, hstored, hupdate, hread⟩
  exact ⟨cm, hstored, hupdate, hmem _ hread⟩

theorem quiet_emits {α : Type} {x : Client α} (l : ApiLog) (h : Asks (IsQuiet c) x) :
    Emits (fun before entry => PipelineGood c signal name (l ++ before) entry) x :=
  .of_asks h fun _ _ hquiet => .inl hquiet

theorem call_good (call : Call) (l : ApiLog)
    (hcall : ∀ before, CallAfter c signal name (l ++ before) call) :
    Emits (fun before entry => PipelineGood c signal name (l ++ before) entry)
      (call.program c.yaml c.targetNamespace) := by
  refine (call_emits c call).mono fun before entry h => ?_
  rcases h with hget | hwrite
  · refine .inl (isQuiet_of_isRead ?_)
    rw [hget]
    trivial
  · exact .inr ⟨call, hcall before, hwrite.mono fun e he => List.mem_append_right l he⟩

theorem collectSecretVersions_asks (refs : List SecretKeyRef) (seen : List ObjectKey)
    (versions : List (String × String)) :
    Asks IsRead (collectSecretVersions refs seen versions) := by
  induction refs generalizing seen versions with
  | nil => exact .pure _
  | cons ref refs ih =>
    unfold collectSecretVersions
    dsimp only
    split
    · exact ih _ _
    · refine .bind (.request (r := ApiReq.getSecret _) trivial) fun answer => ?_
      cases answer with
      | error err =>
        dsimp only
        split
        · exact ih _ _
        · exact .throw _
      | ok secret => exact ih _ _

theorem listPipelines_asks (p : OTLPPipeline) : Asks SparesGateway (listPipelines p) := by
  cases p with
  | trace tp => exact .bind (requestOrFail_asks .listTracePipelines trivial) fun _ => .pure _
  | log lp =>
    exact .bind (.bind (requestOrFail_asks .listLogPipelines trivial) fun _ => .pure _)
      fun _ => .pure _
  | metric mp => exact .bind (requestOrFail_asks .listMetricPipelines trivial) fun _ => .pure _

theorem beforeValidation_asks (signal : SignalType) (p : OTLPPipeline) :
    Asks (IsQuiet c) (beforeValidation (c.controller signal).reconciler p) := by
  refine .bind (tryAcquirePipelineLock_asks (isQuiet_permitsLock (c.lock_ne signal)))
    fun locked => ?_
  cases locked with
  | false => exact .pure _
  | true =>
    refine .bind ((listPipelines_asks p).mono fun _ => isQuiet_of_sparesGateway) fun all => ?_
    exact .bind ((trackPipelineInfoMetric_asks _).mono fun _ => isQuiet_of_isRead) fun _ => .pure _

theorem doReconcile_emits {lsync : ApiLog}
    (hsync : ExecE (tryAcquirePipelineLock (c.controller signal).pipelineSync id (ownerOf p)) lsync
      (.ok true)) :
    Emits (fun before entry =>
      PipelineGood c signal name (readEntry name p :: lsync ++ before) entry)
      (doReconcile (c.controller signal).reconciler p) := by
  have hagents (all : List OTLPPipeline) :
      Asks (IsQuiet c) (reconcileAgents (c.controller signal).reconciler p all) :=
    (reconcileAgents_asks all).mono fun _ => isQuiet_of_sparesGateway
  refine Emits.bind (quiet_emits _ (beforeValidation_asks signal p)) fun found lpre hpre => ?_
  cases found with
  | none => exact .of_asks (Q := fun _ => False) (.pure _) fun _ _ h => h.elim
  | some all =>
    simp only [← List.append_assoc]
    refine Emits.bind (quiet_emits _ (.mapErr ?_)) fun b lval hval => ?_
    · exact (isReconcilable_asks (validate_otlp_asks p)).mono fun _ => isQuiet_of_isRead
    · simp only [← List.append_assoc]
      have hagentsEmit (l l' : ApiLog) : Emits (fun before entry =>
          PipelineGood c signal name (l ++ (l' ++ before)) entry)
          (reconcileAgents (c.controller signal).reconciler p all) := by
        simp only [← List.append_assoc]
        exact quiet_emits _ (hagents all)
      cases b with
      | false =>
        change Emits _ (removeReference (c.controller signal).reconciler p >>= fun _ => _)
        refine Emits.bind (.mapErr ?_) fun _ l _ => hagentsEmit _ l
        rw [c.yaml_eq, c.namespace_eq]
        exact call_good (.remove (.of p.signal) p.objectMeta.name) _ fun _ => trivial
      | true =>
        change Emits _ (writeReference (c.controller signal).reconciler p >>= fun _ => _)
        refine Emits.bind ?_ fun _ l _ => hagentsEmit _ l
        refine Emits.bind (quiet_emits _ (.mapErr ?_)) fun versions lversions _ => ?_
        · exact (collectSecretVersions_asks _ _ _).mono fun _ => isQuiet_of_isRead
        · simp only [← List.append_assoc]
          refine .mapErr ?_
          rw [c.yaml_eq, c.namespace_eq]
          refine call_good (.add (.of p.signal) ⟨p.objectMeta.name, p.objectMeta.generation,
            versions⟩) _ fun before => ?_
          refine ⟨p, rfl, rfl, rfl, lsync, lpre, lval, lversions ++ before, all, ?_, hsync, hpre,
            execE_mapErr_ok_iff.mp hval⟩
          simp

theorem fluentBit_asks (signal : SignalType) (lp : LogPipeline) :
    Asks (IsQuiet c) (FluentBit.doReconcile (c.controller signal).fluentBit lp) := by
  have hlock := isQuiet_permitsLock (c := c) (c.fluentBitLock_ne signal)
  refine .bind (FluentBit.lockAndList_asks hlock (isQuiet_of_sparesGateway trivial)) fun found => ?_
  cases found with
  | none => exact .pure _
  | some all =>
    refine .bind (FluentBit.trackAndFetch_asks hlock all) fun reconcilable => ?_
    unfold FluentBit.applyOrDelete
    split
    · exact requestOrFail_asks .deleteFluentBit (isQuiet_of_sparesGateway trivial)
    · refine .bind (.mapErr ?_) fun _ => ?_
      · exact (FluentBit.build_asks reconcilable).mono fun _ => isQuiet_of_isRead
      · exact requestOrFail_asks (.applyFluentBit _) (isQuiet_of_sparesGateway trivial)

private theorem mappedRequest_exec {r : ApiReq} {f : ApiResult r → OTLPPipeline}
    {log : ApiLog} {res : Except GoError (Except ApiError OTLPPipeline)} (hr : SparesGateway r)
    (hf : ∀ a, readEntry name (f a) = ⟨r, .ok a⟩)
    (h : ExecE (liftM (.call r fun answer : ApiResp r => .done (answer.map f) :
      Api (Except ApiError OTLPPipeline)) : Client _) log res) :
    ∃ answer entry, res = .ok answer ∧ log = [entry] ∧ SparesGateway entry.1 ∧
      ∀ p, answer = .ok p → entry = readEntry name p := by
  obtain ⟨_, hexec, rfl⟩ := execE_lift_iff.mp h
  obtain ⟨answer, rest, rfl, hdone⟩ := exec_call_iff.mp hexec
  obtain ⟨rfl, rfl⟩ := exec_done_iff.mp hdone
  refine ⟨_, _, rfl, rfl, hr, fun p hp => ?_⟩
  cases answer <;> cases hp
  exact (hf _).symm

theorem getPipeline_exec {log : ApiLog} {res : Except GoError (Except ApiError OTLPPipeline)}
    (h : ExecE (liftM (getPipeline signal name) : Client _) log res) :
    ∃ answer entry, res = .ok answer ∧ log = [entry] ∧ SparesGateway entry.1 ∧
      ∀ p, answer = .ok p → entry = readEntry name p := by
  cases signal with
  | trace =>
    exact mappedRequest_exec (r := .getTracePipeline name) (f := .trace) trivial (fun _ => rfl) h
  | log =>
    exact mappedRequest_exec (r := .getLogPipeline name) (f := .log) trivial (fun _ => rfl) h
  | metric =>
    exact mappedRequest_exec (r := .getMetricPipeline name) (f := .metric) trivial (fun _ => rfl) h

theorem getPipeline_asks (signal : SignalType) (name : String) :
    Asks SparesGateway (liftM (getPipeline signal name) : Client _) := by
  intro log res h
  obtain ⟨_, entry, -, rfl, hspares, -⟩ := getPipeline_exec h
  simpa using hspares

theorem reconcile_emits (signal : SignalType) (name : String) :
    Emits (PipelineGood c signal name) (reconcile c signal name) := by
  refine Emits.bind (quiet_emits [] ((getPipeline_asks signal name).mono
    fun _ => isQuiet_of_sparesGateway)) fun answer l hget => ?_
  obtain ⟨answer', entry, hanswer, rfl, -, hread⟩ := getPipeline_exec hget
  cases hanswer
  cases answer with
  | error err =>
    dsimp only
    split
    · exact .mapErr (call_good (.remove (.of signal) name) _ fun _ => trivial)
    · exact quiet_emits _ (.throw _)
  | ok p =>
    rw [hread p rfl]
    refine Emits.bind (quiet_emits _ (tryAcquirePipelineLock_asks
      (isQuiet_permitsLock (c.sync_ne signal)))) fun locked lsync hsync => ?_
    cases locked with
    | false => exact .of_asks (Q := fun _ => False) (.pure _) fun _ _ h => h.elim
    | true =>
      have hotlp : Emits (fun before entry =>
          PipelineGood c signal name ([readEntry name p] ++ (lsync ++ before)) entry)
          (doReconcile (c.controller signal).reconciler p) := doReconcile_emits hsync
      refine .mapErr ?_
      unfold reconcilePipeline
      cases p with
      | trace tp | metric mp => exact hotlp
      | log lp =>
        dsimp only
        split
        · exact hotlp
        · simp only [← List.append_assoc]
          exact quiet_emits _ (fluentBit_asks signal lp)

def gatewayPipelines (traces : List TracePipeline) (logs : List LogPipeline)
    (metrics : List MetricPipeline) : List OTLPPipeline :=
  traces.map .trace ++ logs.map .log ++ metrics.map .metric

variable (c) in
/-- The pipeline was read behind a coordination document with a matching reference. -/
def MatchesReference (before : ApiLog) (p : OTLPPipeline) : Prop :=
  ∃ cm config ref l l', parseConfig c.yaml (some cm) = .ok config ∧ ref ∈ config.slice p.signal ∧
    p.objectMeta.generation = ref.generation ∧ before = l ++ readEntry ref.name p :: l' ∧
    ⟨.getConfigMap (key c), .ok cm⟩ ∈ l

variable (c) in
/-- What the gateway controller can ask, given what it has done before. -/
def GatewayGood (before : ApiLog) (entry : ApiEntry) : Prop :=
  ¬ CoordinationWrite c entry.1 ∧
    ∀ traces logs metrics, entry.1 = .applyGateway traces logs metrics →
    ∀ p ∈ gatewayPipelines traces logs metrics, MatchesReference c before p

section Fetch

open GatewayReconciler

variable {α : Type} {objectMeta : α → ObjectMeta} {get : String → Api (Except ApiError α)}
  {text : String}

theorem fetchPipelines_asks (hget : ∀ name, Asks SparesGateway (liftM (get name) : Client _))
    (refs : List PipelineReference) :
    Asks SparesGateway (fetchPipelines objectMeta get text refs) := by
  induction refs with
  | nil => exact .pure _
  | cons ref refs ih =>
    refine .bind (hget ref.name) fun answer => ?_
    cases answer with
    | error err =>
      dsimp only
      split
      · exact ih
      · exact .throw _
    | ok pipeline => exact ih.bind fun _ => .pure _

variable {log : ApiLog}

theorem fetchPipelines_exec (entryOf : String → α → ApiEntry)
    (hget : ∀ name log a, ExecE (liftM (get name) : Client _) log (.ok (.ok a)) →
      entryOf name a ∈ log) {refs : List PipelineReference} {pipelines : List α}
    (h : ExecE (fetchPipelines objectMeta get text refs) log (.ok pipelines)) :
    ∀ a ∈ pipelines, ∃ ref ∈ refs, accepts ref (objectMeta a) ∧ entryOf ref.name a ∈ log := by
  induction refs generalizing log pipelines with
  | nil =>
    obtain ⟨-, hnone⟩ := execE_pure_iff.mp h
    cases hnone
    simp
  | cons ref refs ih =>
    -- the part of the log behind the first read belongs to the other references
    have hrest : ∀ {l l' : ApiLog} {others : List α},
        ExecE (fetchPipelines objectMeta get text refs) l' (.ok others) → ∀ a ∈ others,
          ∃ ref' ∈ ref :: refs, accepts ref' (objectMeta a) ∧
            entryOf ref'.name a ∈ l ++ l' := by
      intro l l' others hothers a ha
      obtain ⟨ref', href, haccepts, hentry⟩ := ih hothers a ha
      exact ⟨ref', by simp [href], haccepts, by simp [hentry]⟩
    rcases execE_bind_iff.mp h with ⟨e, -, he⟩ | ⟨answer, l, l', rfl, hfirst, hnext⟩
    · cases he
    · cases answer with
      | error err =>
        dsimp only at hnext
        split at hnext
        · exact hrest hnext
        · cases (execE_throw_iff.mp hnext).2
      | ok pipeline =>
        rcases execE_bind_iff.mp hnext with ⟨e, -, he⟩ | ⟨others, l₁, l₂, rfl, hothers, hpure⟩
        · cases he
        · obtain ⟨rfl, hpipelines⟩ := execE_pure_iff.mp hpure
          cases hpipelines
          rw [List.append_nil]
          intro a ha
          split at ha
          · next haccepts =>
            rcases List.mem_cons.mp ha with rfl | ha
            · exact ⟨ref, by simp, haccepts, by simp [hget ref.name l _ hfirst]⟩
            · exact hrest hothers a ha
          · exact hrest hothers a ha

private theorem request_exec {req : ApiReq} {a : ApiResult req}
    (h : ExecE (liftM (.call req .done : Api (ApiResp req)) : Client (ApiResp req)) log
      (.ok (.ok a))) : ⟨req, .ok a⟩ ∈ log := by
  obtain ⟨answer, hexec, hres⟩ := execE_lift_iff.mp h
  cases hres
  obtain ⟨x, rest, rfl, hdone⟩ := exec_call_iff.mp hexec
  obtain ⟨rfl, rfl⟩ := exec_done_iff.mp hdone
  simp

variable {config : OTLPGatewayConfigMap}

theorem parseConfig_of_data {yaml : YamlLib} {cm : ConfigMap} {yamlData : String}
    (hdata : cm.data.lookup configMapDataKey = some yamlData)
    (hne : yamlData ≠ "") (hunmarshal : yaml.unmarshal yamlData = .ok config) :
    parseConfig yaml (some cm) = .ok config := by
  simp [parseConfig, hdata, hne, hunmarshal]

theorem readOTLPGatewayConfig_exec
    (h : ExecE (readOTLPGatewayConfig c.yaml c.targetNamespace) log (.ok config)) :
    config = {} ∨ ∃ cm, ⟨.getConfigMap (key c), .ok cm⟩ ∈ log ∧
      parseConfig c.yaml (some cm) = .ok config := by
  obtain ⟨answer, rest, rfl, hrest⟩ := execE_request_bind_iff.mp h
  cases answer with
  | error err =>
    dsimp only at hrest
    split at hrest
    · obtain ⟨-, hconfig⟩ := execE_pure_iff.mp hrest
      cases hconfig
      exact .inl rfl
    · cases (execE_throw_iff.mp hrest).2
  | ok cm =>
    cases hdata : cm.data.lookup configMapDataKey with
    | none =>
      simp only [hdata] at hrest
      obtain ⟨-, hconfig⟩ := execE_pure_iff.mp hrest
      cases hconfig
      exact .inl rfl
    | some yamlData =>
      simp only [hdata] at hrest
      split at hrest
      · obtain ⟨-, hconfig⟩ := execE_pure_iff.mp hrest
        cases hconfig
        exact .inl rfl
      · next hne =>
        cases hunmarshal : c.yaml.unmarshal yamlData with
        | error text =>
          simp only [hunmarshal] at hrest
          cases (execE_throw_iff.mp hrest).2
        | ok config' =>
          simp only [hunmarshal] at hrest
          obtain ⟨-, hconfig⟩ := execE_pure_iff.mp hrest
          cases hconfig
          exact .inr ⟨cm, by simp [key], parseConfig_of_data hdata hne hunmarshal⟩

theorem readOTLPGatewayConfig_asks :
    Asks IsRead (readOTLPGatewayConfig c.yaml c.targetNamespace) := by
  refine .bind (.request (r := ApiReq.getConfigMap _) trivial) fun answer => ?_
  cases answer with
  | error err => exact .ite (.pure _) (.throw _)
  | ok cm =>
    dsimp only
    split
    · exact .pure _
    · split
      · exact .pure _
      · split
        · exact .throw _
        · exact .pure _

theorem matchesReference_of_fetched {lconfig lfetch l l' : ApiLog} {p : OTLPPipeline}
    (hconfig : config = {} ∨ ∃ cm, ⟨.getConfigMap (key c), .ok cm⟩ ∈ lconfig ∧
      parseConfig c.yaml (some cm) = .ok config)
    (hmem : ∀ e ∈ lconfig, e ∈ l) (hfetched : ∃ ref ∈ config.slice p.signal,
      accepts ref p.objectMeta ∧ readEntry ref.name p ∈ lfetch) :
    MatchesReference c (l ++ (lfetch ++ l')) p := by
  obtain ⟨ref, href, haccepts, hread⟩ := hfetched
  rcases hconfig with rfl | ⟨cm, hcm, hparse⟩
  · cases hsignal : p.signal <;> rw [hsignal] at href <;> cases href
  · obtain ⟨l₁, l₂, rfl⟩ := List.append_of_mem hread
    have hgeneration : p.objectMeta.generation = ref.generation := by
      simp only [accepts, Bool.and_eq_true, beq_iff_eq] at haccepts
      exact haccepts.2
    exact ⟨cm, config, ref, l ++ l₁, l₂ ++ l', hparse, href, hgeneration, by simp,
      by simp [hmem _ hcm]⟩

private theorem request_asks {r : ApiReq} (h : SparesGateway r) :
    Asks SparesGateway (liftM (.call r .done : Api (ApiResp r)) : Client (ApiResp r)) :=
  .request h

theorem gateway_emits :
    Emits (GatewayGood c) (GatewayReconciler.doReconcile c.yaml c.targetNamespace) := by
  have hquiet : ∀ {α : Type} {x : Client α} (l : ApiLog), Asks SparesGateway x →
      Emits (fun before entry => GatewayGood c (l ++ before) entry) x := by
    intro α x l hx
    refine .of_asks hx fun before entry hspares => ?_
    have hquiet := isQuiet_of_sparesGateway (c := c) hspares
    exact ⟨hquiet.1, fun traces logs metrics hreq => (hquiet.2 traces logs metrics hreq).elim⟩
  refine Emits.bind (hquiet [] (requestOrFail_asks .cleanupLegacyGateways trivial))
    fun _ lcleanup _ => ?_
  refine Emits.bind (hquiet _ ?_) fun config lconfig hconfig => ?_
  · exact .mapErr (readOTLPGatewayConfig_asks.mono fun _ => sparesGateway_of_isRead)
  have hconfig := readOTLPGatewayConfig_exec (execE_mapErr_ok_iff.mp hconfig)
  simp only [← List.append_assoc]
  refine Emits.bind (hquiet _ (.mapErr (fetchPipelines_asks (fun name =>
    request_asks (r := ApiReq.getTracePipeline name) trivial) _))) fun traces ltrace htrace => ?_
  simp only [← List.append_assoc]
  refine Emits.bind (hquiet _ (.mapErr (fetchPipelines_asks (fun name =>
    request_asks (r := ApiReq.getLogPipeline name) trivial) _))) fun logs llog hlog => ?_
  simp only [← List.append_assoc]
  refine Emits.bind (hquiet _ (.mapErr (fetchPipelines_asks (fun name =>
    request_asks (r := ApiReq.getMetricPipeline name) trivial) _)))
    fun metrics lmetric hmetric => ?_
  have htrace := fetchPipelines_exec (fun name tp => readEntry name (.trace tp))
    (fun _ _ _ => request_exec) (execE_mapErr_ok_iff.mp htrace)
  have hlog := fetchPipelines_exec (fun name lp => readEntry name (.log lp))
    (fun _ _ _ => request_exec) (execE_mapErr_ok_iff.mp hlog)
  have hmetric := fetchPipelines_exec (fun name mp => readEntry name (.metric mp))
    (fun _ _ _ => request_exec) (execE_mapErr_ok_iff.mp hmetric)
  split
  · refine .of_asks (Q := (· = .deleteGateway)) (requestOrFail_asks _ rfl) fun _ entry hreq => ?_
    rw [GatewayGood, hreq]
    refine ⟨?_, nofun⟩
    rintro ⟨cm, -, hwrite | hwrite⟩ <;> cases hwrite
  · refine .of_asks (Q := (· = .applyGateway traces logs metrics)) (requestOrFail_asks _ rfl)
      fun before entry hreq => ?_
    rw [GatewayGood, hreq]
    refine ⟨?_, fun traces' logs' metrics' happly => ?_⟩
    · rintro ⟨cm, -, hwrite | hwrite⟩ <;> cases hwrite
    · cases happly
      intro p hp
      simp only [gatewayPipelines, List.mem_append, List.mem_map] at hp
      rcases hp with (⟨tp, htp, rfl⟩ | ⟨lp, hlp, rfl⟩) | ⟨mp, hmp, rfl⟩
      · rw [List.append_assoc, List.append_assoc]
        exact matchesReference_of_fetched hconfig (by simp +contextual) (htrace tp htp)
      · rw [List.append_assoc]
        exact matchesReference_of_fetched hconfig (by simp +contextual) (hlog lp hlp)
      · exact matchesReference_of_fetched hconfig (by simp +contextual) (hmetric mp hmp)

end Fetch
end TelemetryManager.Controllers
