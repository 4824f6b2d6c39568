import TelemetryManager.CoordinationConfig
import TelemetryManager.SharedTypes
import TelemetryManager.ValidationReads

/-! The reconcile functions of the pipeline controllers.
The controllers of OTLP pipelines record the pipelines they validated in the coordination
ConfigMap of the gateway; the controller of Fluent Bit pipelines renders them itself. -/
namespace TelemetryManager.PipelineReconcilers

open Interaction Coordination

structure Reconciler where
  validator : Reconcilable.Validator
  yaml : YamlLib
  targetNamespace : String
  operateInFIPSMode : Bool := false

/-- Acquire a pipeline lock; `false` if there are too many pipelines. -/
def tryAcquirePipelineLock (lock : ResourceLock.Checker) (wrap : GoError → GoError)
    (owner : OwnerReference) : Client Bool := do
  match ← attempt (lock.tryAcquireLock owner) with
  | .ok () => pure true
  | .error err => if err.is .errMaxPipelinesExceeded then pure false else throw (wrap err)

/-- Resolve the endpoints for the info metric. An error only leaves the endpoint empty; a panic is
no error. -/
def trackPipelineInfoMetric (endpoints : List ValueType) : Client Unit :=
  forM endpoints fun endpoint => do
    match ← attempt (SharedTypes.resolveValue endpoint) with
    | .error (.panic text) => throw (.panic text)
    | _ => pure ()

variable (r : Reconciler)

def isReconcilable (p : Reconcilable.Pipeline) : Client Bool :=
  Reconcilable.isReconcilable r.validator r.operateInFIPSMode p

def getReconcilablePipelines {α : Type} (toPipeline : α → Reconcilable.Pipeline) :
    List α → Client (List α)
  | [] => pure []
  | pipeline :: pipelines => do
    let isPipelineReconcilable ← isReconcilable r (toPipeline pipeline)
    let reconcilable ← getReconcilablePipelines toPipeline pipelines
    pure (if isPipelineReconcilable then pipeline :: reconcilable else reconcilable)

theorem getReconcilablePipelines_failsByLast {α : Type} {toPipeline : α → Reconcilable.Pipeline}
    (h : ∀ a, FailsByLast Reconcilable.RequestFailed (fun _ => True)
      (isReconcilable r (toPipeline a))) (pipelines : List α) :
    FailsByLast Reconcilable.RequestFailed (fun _ => True)
      (getReconcilablePipelines r toPipeline pipelines) := by
  induction pipelines with
  | nil => exact .of_throws (.pure _)
  | cons pipeline pipelines ih =>
    exact (h pipeline).bind fun _ => ih.bind fun _ => .of_throws (.pure _)

theorem mem_getReconcilablePipelines_iff {α : Type} {toPipeline : α → Reconcilable.Pipeline}
    {answer : ApiTable} {all reconcilable : List α}
    (h : evalE answer (getReconcilablePipelines r toPipeline all) = .ok reconcilable) {a : α} :
    a ∈ reconcilable ↔ a ∈ all ∧ evalE answer (isReconcilable r (toPipeline a)) = .ok true := by
  induction all generalizing reconcilable with
  | nil =>
    cases h
    simp
  | cons pipeline pipelines ih =>
    obtain ⟨accepted, haccepted, hrest⟩ := evalE_bind_ok_iff.mp h
    obtain ⟨rest, hrest, hresult⟩ := evalE_bind_ok_iff.mp hrest
    rw [← Except.ok.inj hresult, List.mem_cons, or_and_right, ← ih hrest]
    by_cases ha : a = pipeline
    · rw [ha, haccepted]
      cases accepted <;> simp
    · cases accepted <;> simp [ha]

/-- The mode of a log pipeline is decided by its output. -/
def isOTel (lp : LogPipeline) : Bool := lp.output.otlp.isSome

def getPipelinesForType (otel : Bool) : Client (List LogPipeline) := do
  let allPipelines ← requestOrFail
    "failed to get all log pipelines while syncing Fluent Bit ConfigMaps: " .listLogPipelines
  pure (allPipelines.filter fun lp => isOTel lp == otel)

def ownerOf : OTLPPipeline → OwnerReference
  | .trace tp => Reconcilable.tracePipelineOwner tp
  | .log lp => Reconcilable.logPipelineOwner lp
  | .metric mp => Reconcilable.metricPipelineOwner mp

/-- Only the controller of log pipelines wraps the error of the lock. -/
def lockError : OTLPPipeline → GoError → GoError
  | .log _, err => .errorf "failed to acquire lock: " err ""
  | _, err => err

def listPipelines : OTLPPipeline → Client (List OTLPPipeline)
  | .trace _ => do
    let items ← requestOrFail "failed to list trace pipelines: " .listTracePipelines
    pure (items.map OTLPPipeline.trace)
  | .log _ => do
    let items ← getPipelinesForType true
    pure (items.map OTLPPipeline.log)
  | .metric _ => do
    let items ← requestOrFail "failed to list metric pipelines: " .listMetricPipelines
    pure (items.map OTLPPipeline.metric)

def endpointOf : OTLPPipeline → Option ValueType
  | .trace tp => some tp.output.endpoint
  | .log lp => lp.output.otlp.map (·.endpoint)
  | .metric mp => some mp.output.endpoint

/-- What happens in front of the validation: `none` if there are too many pipelines. -/
def beforeValidation (p : OTLPPipeline) : Client (Option (List OTLPPipeline)) := do
  if ← tryAcquirePipelineLock r.validator.pipelineLock (lockError p) (ownerOf p) then
    let allPipelines ← listPipelines p
    trackPipelineInfoMetric (allPipelines.filterMap endpointOf)
    pure (some allPipelines)
  else pure none

def writeReference (p : OTLPPipeline) : Client Unit := do
  let secretVersions ← mapErr (fun err => .errorf "failed to collect secret versions: " err "")
    (collectSecretVersions (Reconcilable.secretRefs p))
  mapErr (fun err => .errorf "failed to write pipeline reference to ConfigMap: " err "")
    (addPipelineReference r.yaml r.targetNamespace (.of p.signal)
      ⟨p.objectMeta.name, p.objectMeta.generation, secretVersions⟩)

def removeReference (p : OTLPPipeline) : Client Unit :=
  mapErr (fun err => .errorf
      "failed to remove pipeline reference from OTLP Gateway Coordination ConfigMap: " err "")
    (removePipelineReference r.yaml r.targetNamespace (.of p.signal) p.objectMeta.name)

def isMetricAgentRequired (mp : MetricPipeline) : Bool :=
  MetricPipelineUtils.isRuntimeInputEnabled mp.input ||
    MetricPipelineUtils.isPrometheusInputEnabled mp.input ||
    MetricPipelineUtils.isIstioInputEnabled mp.input

def isLogAgentRequired (lp : LogPipeline) : Bool := lp.input.runtime.bind (·.enabled) == some true

def metricPipelines (ps : List OTLPPipeline) : List MetricPipeline :=
  ps.filterMap fun | .metric mp => some mp | _ => none

def logPipelines (ps : List OTLPPipeline) : List LogPipeline :=
  ps.filterMap fun | .log lp => some lp | _ => none

def applyOrDeleteMetricAgents (reconcilablePipelines : List MetricPipeline) : Client Unit :=
  let requiringAgents := reconcilablePipelines.filter isMetricAgentRequired
  if requiringAgents = [] then
    requestOrFail "failed to delete agent resources: " .deleteMetricAgent
  else requestOrFail "failed to reconcile metric agents: " (.applyMetricAgent requiringAgents)

def applyOrDeleteLogAgent (reconcilablePipelines : List LogPipeline) : Client Unit :=
  let requiringAgents := reconcilablePipelines.filter isLogAgentRequired
  if requiringAgents = [] then
    requestOrFail "failed to delete agent resources: " .deleteLogAgent
  else requestOrFail "failed to reconcile Log Agent: " (.applyLogAgent requiringAgents)

/-- The agents of the signal. There is no agent for traces. -/
def reconcileAgents (p : OTLPPipeline) (allPipelines : List OTLPPipeline) : Client Unit :=
  match p with
  | .trace _ => pure ()
  | .log _ => do
    let reconcilablePipelines ← mapErr
      (fun err => .errorf "failed to fetch deployable log pipelines: " err "")
      (getReconcilablePipelines r .otelLog (logPipelines allPipelines))
    applyOrDeleteLogAgent reconcilablePipelines
  | .metric _ => do
    let reconcilablePipelines ← mapErr
      (fun err => .errorf "failed to fetch deployable metric pipelines: " err "")
      (getReconcilablePipelines r .metric (metricPipelines allPipelines))
    applyOrDeleteMetricAgents reconcilablePipelines

def afterValidation (p : OTLPPipeline) (allPipelines : List OTLPPipeline)
    (isPipelineReconcilable : Bool) : Client Unit := do
  if isPipelineReconcilable then writeReference r p else removeReference r p
  reconcileAgents r p allPipelines

def doReconcile (p : OTLPPipeline) : Client Unit := do
  match ← beforeValidation r p with
  | none => pure ()
  | some allPipelines =>
    let isPipelineReconcilable ←
      mapErr (fun err => .errorf "failed to validate pipeline: " err "")
        (isReconcilable r (.ofOTLP p))
    afterValidation r p allPipelines isPipelineReconcilable

/-- A class of requests that has all reads and the writes of a lock. -/
structure PermitsLock (Q : ApiReq → Prop) (lock : ResourceLock.Checker) : Prop where
  read : ∀ req, Reconcilable.IsRead req → Q req
  create : ∀ cm : ConfigMap, cm.key = lock.lockName → Q (.createConfigMap cm)
  update : ∀ cm : ConfigMap, cm.key = lock.lockName → Q (.updateConfigMap cm)

section Requests

variable {Q : ApiReq → Prop} {lock : ResourceLock.Checker} {owner : OwnerReference}

theorem tryAcquireLock_asks (hQ : PermitsLock Q lock) : Asks Q (lock.tryAcquireLock owner) := by
  have hcreate : Asks Q (lock.createLock owner) := by
    refine .bind (.request (hQ.create _ rfl)) fun answer => ?_
    cases answer with
    | error err => exact .throw _
    | ok u => exact .pure _
  refine .bind (.request (hQ.read (.getConfigMap lock.lockName) trivial)) fun answer => ?_
  cases answer with
  | error err =>
    dsimp only
    split
    · exact hcreate
    · exact .throw _
  | ok found =>
    dsimp only
    split
    · exact .pure _
    · split
      · refine .bind (.request (hQ.update _ rfl)) fun answer => ?_
        cases answer with
        | error err => exact .throw _
        | ok u => exact .pure _
      · exact .throw _

theorem tryAcquirePipelineLock_asks {wrap : GoError → GoError} (hQ : PermitsLock Q lock) :
    Asks Q (tryAcquirePipelineLock lock wrap owner) := by
  refine .bind (.attempt (tryAcquireLock_asks hQ)) fun locked => ?_
  cases locked with
  | ok u => exact .pure _
  | error err => exact .ite (.pure _) (.throw _)

theorem resolveValue_asks (value : ValueType) :
    Asks Reconcilable.IsRead (SharedTypes.resolveValue value) := by
  unfold SharedTypes.resolveValue
  split
  · exact .pure _
  · split
    · exact .throw _
    · split
      · exact Reconcilable.getValue_asks _
      · exact .throw _

theorem trackPipelineInfoMetric_asks (endpoints : List ValueType) :
    Asks Reconcilable.IsRead (trackPipelineInfoMetric endpoints) := by
  refine .forM fun endpoint _ => .bind (.attempt (resolveValue_asks endpoint)) fun resolved => ?_
  split
  · exact .throw _
  · exact .pure _

end Requests
end TelemetryManager.PipelineReconcilers
