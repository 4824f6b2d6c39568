import TelemetryManager.PipelineReconcilers

/-! The reconcile function of Fluent Bit log pipelines.
All reconcilable pipelines are rendered into one configuration, with the values of their Secrets
copied; if there is none, the resources of the agent are deleted. -/
namespace TelemetryManager.FluentBit

open Interaction PipelineReconcilers Reconcilable

structure SecretRead where
  ref : SecretKeyRef
  wrap : GoError → GoError

def SecretRead.key (read : SecretRead) : ObjectKey := ⟨read.ref.namespace, read.ref.name⟩

def getSecretData (ref : SecretKeyRef) : Client String := do
  match ← getSecret ⟨ref.namespace, ref.name⟩ with
  | .error err =>
    throw (.errorf ("unable to read secret '" ++ ref.name ++ "' from namespace '" ++
      ref.namespace ++ "': ") (.api err) "")
  | .ok source =>
    match source.data.lookup ref.key with
    | some val => pure val
    | none => throw (.new ("unable to find key '" ++ ref.key ++ "' in secret '" ++ ref.name ++
        "' from namespace '" ++ ref.namespace ++ "'"))

def SecretRead.run (read : SecretRead) : Client Unit :=
  mapErr read.wrap (discard (getSecretData read.ref))

def shouldCopySecret : Option ValueType → Option SecretKeyRef
  | some ⟨"", some ⟨some ref⟩⟩ => some ref
  | _ => none

def copySecret (text : String) (value : Option ValueType) : List SecretRead :=
  (shouldCopySecret value).toList.map fun ref => ⟨ref, fun err => .errorf text err ""⟩

def extractHTTPSecrets (lp : LogPipeline) : List SecretRead :=
  match lp.output.fluentBitHTTP with
  | none => []
  | some http =>
    copySecret "failed to get host secret: " (some http.host) ++
    copySecret "failed to get user secret: " http.user ++
    copySecret "failed to get password secret: " http.password

def extractVariableSecrets (lp : LogPipeline) : List SecretRead :=
  (lp.fluentBitVariables.filterMap (·.valueFrom.secretKeyRef)).map fun ref =>
    ⟨ref, fun err => .errorf "failed to get variable secret: " err ""⟩

def isHTTPOutputDefined (output : LogPipelineOutput) : Bool :=
  output.fluentBitHTTP.any fun http => SharedTypes.isValid (some http.host)

/-- A valid value is read from its Secret unless it is given inline. -/
def getFromValueOrSecret (text : String) (value : Option ValueType) : List SecretRead :=
  (shouldCopySecret value).toList.map fun ref =>
    ⟨ref, fun err => .errorf text (.errorf "unable to get secret data: " err "") ""⟩

def extractTLSSecrets (lp : LogPipeline) : List SecretRead :=
  match lp.output.fluentBitHTTP with
  | none => []
  | some http =>
    if isHTTPOutputDefined lp.output then
      (if SharedTypes.isValid http.tls.ca then
        getFromValueOrSecret "failed to get CA secret data: " http.tls.ca else []) ++
      (if SharedTypes.isValid http.tls.cert && SharedTypes.isValid http.tls.key then
        getFromValueOrSecret "failed to get cert secret data: " http.tls.cert ++
        getFromValueOrSecret "failed to get key secret data: " http.tls.key else [])
    else []

def envReads (pipelines : List LogPipeline) : List SecretRead :=
  pipelines.flatMap fun lp => extractHTTPSecrets lp ++ extractVariableSecrets lp

def tlsReads (pipelines : List LogPipeline) : List SecretRead :=
  pipelines.flatMap extractTLSSecrets

def buildEnvConfigSecret (pipelines : List LogPipeline) : Client Unit :=
  forM (envReads pipelines) SecretRead.run

def buildTLSFileConfigSecret (pipelines : List LogPipeline) : Client Unit :=
  forM (tlsReads pipelines) SecretRead.run

def validateCustomSections (lp : LogPipeline) : Except GoError Unit := do
  if lp.output.fluentBitCustom ≠ "" then
    discard (SpecValidators.parseCustomSection lp.output.fluentBitCustom)
  lp.fluentBitFilters.forM fun filter => discard (SpecValidators.parseCustomSection filter.custom)

/-- The sections of a pipeline; only whether they can be built matters here. -/
def buildFluentBitSectionsConfig (lp : LogPipeline) : Except GoError Unit :=
  if isOTel lp then
    .error (.errorf "" (.new "invalid pipeline definition") ": unsupported pipeline mode: OTel")
  else validateCustomSections lp

def buildPipeline (allPipelines : List LogPipeline) (lp : LogPipeline) : Client Unit := do
  liftExcept ((buildFluentBitSectionsConfig lp).mapError
    fun err => GoError.errorf "unable to build section: " err "")
  mapErr (fun err => .errorf "unable to build env config: " err "")
    (buildEnvConfigSecret allPipelines)
  mapErr (fun err => .errorf "unable to build tls secret: " err "")
    (buildTLSFileConfigSecret allPipelines)

def build (allPipelines : List LogPipeline) : Client Unit :=
  forM allPipelines (buildPipeline allPipelines)

variable (r : Reconciler)

/-- Acquire the lock and list the pipelines: `none` if there are too many. -/
def lockAndList (pipeline : LogPipeline) : Client (Option (List LogPipeline)) := do
  if ← tryAcquirePipelineLock r.validator.pipelineLock
      (fun err => .errorf "failed to acquire lock: " err "") (logPipelineOwner pipeline) then
    let allPipelines ← getPipelinesForType false
    pure (some allPipelines)
  else pure none

def hosts (allPipelines : List LogPipeline) : List ValueType :=
  allPipelines.filterMap fun lp => lp.output.fluentBitHTTP.map (·.host)

def trackAndFetch (allPipelines : List LogPipeline) : Client (List LogPipeline) := do
  trackPipelineInfoMetric (hosts allPipelines)
  mapErr (fun err => .errorf "failed to fetch reconcilable log pipelines: " err "")
    (getReconcilablePipelines r .fluentBitLog allPipelines)

def deleteResources : Client Unit :=
  requestOrFail "failed to delete log pipeline resources: " .deleteFluentBit

def applyResources (reconcilablePipelines : List LogPipeline) : Client Unit :=
  requestOrFail "" (.applyFluentBit reconcilablePipelines)

def applyOrDelete (reconcilablePipelines : List LogPipeline) : Client Unit :=
  if reconcilablePipelines = [] then deleteResources
  else do
    mapErr (fun err => .errorf "failed to build fluentbit config: " err "")
      (build reconcilablePipelines)
    applyResources reconcilablePipelines

def doReconcile (pipeline : LogPipeline) : Client Unit := do
  match ← lockAndList r pipeline with
  | none => pure ()
  | some allPipelines =>
    let reconcilablePipelines ← trackAndFetch r allPipelines
    applyOrDelete reconcilablePipelines

variable {pipeline : LogPipeline}

section Failures

end Failures

variable {r} {log : ApiLog}

/-- Requests that do not change the resources of Fluent Bit. -/
def SparesFluentBit : ApiReq → Prop
  | .applyFluentBit _ | .deleteFluentBit => False
  | _ => True

variable {Q : ApiReq → Prop}

theorem lockAndList_asks (hQ : PermitsLock Q r.validator.pipelineLock)
    (hlist : Q .listLogPipelines) : Asks Q (lockAndList r pipeline) := by
  refine .bind (tryAcquirePipelineLock_asks hQ) fun locked => ?_
  · cases locked with
    | false => exact .pure _
    | true =>
      exact .bind (.bind (requestOrFail_asks .listLogPipelines hlist) fun _ => .pure _)
        fun _ => .pure _

theorem validate_fluentBit_asks (v : Validator)
    (hQ : PermitsLock Q v.pipelineLock) (lp : LogPipeline) :
    Asks Q (validate v (.fluentBitLog lp)) := by
  have hread : ∀ {x : Client Unit}, Asks IsRead x → Asks Q x := fun hx => hx.mono hQ.read
  rw [validate_eq_checks]
  refine .forM fun c hc => ?_
  simp only [checks, List.mem_cons, List.not_mem_nil, or_false] at hc
  rcases hc with rfl | rfl | rfl | rfl | rfl | rfl | rfl | rfl
  · exact tryAcquireLock_asks hQ
  · exact hread (secretRefs_asks _)
  · cases lp.output.fluentBitHTTP with
    | none => exact .pure _
    | some http =>
      exact hread (.bind (resolveOr_failsOn getValue_failsOn_other (fun _ h => h.elim) _).asks
        fun _ => .liftExcept _)
  · exact hread (tls_asks v _)
  all_goals exact .liftExcept _

theorem trackAndFetch_asks (hQ : PermitsLock Q r.validator.pipelineLock)
    (all : List LogPipeline) : Asks Q (trackAndFetch r all) := by
  refine .bind ((trackPipelineInfoMetric_asks _).mono hQ.read) fun _ => .mapErr ?_
  induction all with
  | nil => exact .pure _
  | cons lp all ih =>
    exact .bind (isReconcilable_asks (validate_fluentBit_asks r.validator hQ lp)) fun _ =>
      ih.bind fun _ => .pure _

theorem build_asks (pipelines : List LogPipeline) : Asks IsRead (build pipelines) := by
  have hreads (reads : List SecretRead) : Asks IsRead (forM reads SecretRead.run) := by
    refine .forM fun read _ => .mapErr (.bind ?_ fun _ => .pure _)
    refine .bind (.request (r := ApiReq.getSecret read.key) trivial) fun answer => ?_
    cases answer with
    | error err => exact .throw _
    | ok source =>
      dsimp only
      split
      · exact .pure _
      · exact .throw _
  exact .forM fun lp _ => .bind (.liftExcept _) fun _ => .bind (.mapErr (hreads _)) fun _ =>
    .mapErr (hreads _)

/-- The requests of a failing execution spare Fluent Bit or have failed. -/
def SparesOnError {α : Type} (x : Client α) : Prop :=
  ∀ log e, ExecE x log (.error e) → ∀ entry ∈ log, SparesFluentBit entry.1 ∨ RequestFailed entry

theorem SparesOnError.bind {α β : Type} {x : Client α} {f : α → Client β}
    (h : Asks SparesFluentBit x) (hf : ∀ a, SparesOnError (f a)) : SparesOnError (x >>= f) := by
  intro log e hexec entry hentry
  rcases execE_bind_iff.mp hexec with ⟨e', hx, -⟩ | ⟨a, l, l', rfl, hx, hfa⟩
  · exact .inl (h log _ hx entry hentry)
  · rcases List.mem_append.mp hentry with hl | hl'
    · exact .inl (h l _ hx entry hl)
    · exact hf a l' e hfa entry hl'

def sampleReconciler : Reconciler where
  validator := sampleValidator ⟨"kyma-system", "telemetry-logpipeline"⟩ 0
  yaml := ⟨fun _ => .error "unsupported document", fun _ => .error "unsupported text"⟩
  targetNamespace := "kyma-system"

def samplePipeline : LogPipeline where
  name := "backend"
  uid := "a1"
  output := { fluentBitHTTP := some { host := { value := "backend" } } }

def sampleLock : ConfigMap where
  key := ⟨"kyma-system", "telemetry-logpipeline-lock"⟩
  ownerReferences := [logPipelineOwner samplePipeline]

end TelemetryManager.FluentBit
