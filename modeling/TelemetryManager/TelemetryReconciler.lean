import TelemetryManager.Library.Execution
import TelemetryManager.KubeClient

/-! The finalizer of the Telemetry resource.
The finalizer keeps the resource as long as there are pipelines. Whether there are is asked by one
list request per kind. -/
namespace TelemetryManager.TelemetryReconciler

open Interaction

def finalizer : String := "telemetry.kyma-project.io/finalizer"

def containsFinalizer (telemetry : Telemetry) : Bool := telemetry.finalizers.contains finalizer

def addFinalizer (telemetry : Telemetry) : Telemetry :=
  { telemetry with finalizers := telemetry.finalizers ++ [finalizer] }

def removeFinalizer (telemetry : Telemetry) : Telemetry :=
  { telemetry with finalizers := telemetry.finalizers.filter (· ≠ finalizer) }

def listPipelines : PipelineKind → Api (Except ApiError Nat)
  | .logPipeline => .call .listLogPipelines
      fun answer : Except ApiError (List LogPipeline) => .done (answer.map List.length)
  | .metricPipeline => .call .listMetricPipelines
      fun answer : Except ApiError (List MetricPipeline) => .done (answer.map List.length)
  | .tracePipeline => .call .listTracePipelines
      fun answer : Except ApiError (List TracePipeline) => .done (answer.map List.length)

section

-- the result of `errors.Is` with a `meta.NoKindMatchError` as target
variable (isNoKindMatchError : ApiError → Bool)

def resourcesExist (kind : PipelineKind) : Client Bool := do
  match ← listPipelines kind with
  | .error err => pure (isNoKindMatchError err)
  | .ok count => pure (decide (0 < count))

def dependentCRsFound : Client Bool := do
  if ← resourcesExist isNoKindMatchError .logPipeline then pure true
  else if ← resourcesExist isNoKindMatchError .metricPipeline then pure true
  else resourcesExist isNoKindMatchError .tracePipeline

def update (telemetry : Telemetry) : Client Unit :=
  requestOrFail "failed to update telemetry: " (.updateTelemetry telemetry)

def handleFinalizer (telemetry : Telemetry) : Client Unit := do
  if telemetry.isBeingDeleted then
    if containsFinalizer telemetry then
      if ← dependentCRsFound isNoKindMatchError then pure ()
      else update (removeFinalizer telemetry)
    else pure ()
  else if containsFinalizer telemetry then pure ()
  else update (addFinalizer telemetry)

end

def outcome (answer : ApiTable) : PipelineKind → Except ApiError Nat
  | .logPipeline => (answer .listLogPipelines).map List.length
  | .metricPipeline => (answer .listMetricPipelines).map List.length
  | .tracePipeline => (answer .listTracePipelines).map List.length

/-- The kind is not installed, or it was listed and there is no pipeline. -/
def IsGone : Except ApiError Nat → Prop
  | .error err => err = .noKindMatch
  | .ok count => count = 0

/-- Pipelines are found, or the error of the list is taken for a pipeline. -/
def Found (isNoKindMatchError : ApiError → Bool) : Except ApiError Nat → Bool
  | .error err => isNoKindMatchError err
  | .ok count => decide (0 < count)

/-- The list failed, and not because the kind is not installed. -/
def ListFailed (outcome : Except ApiError Nat) : Prop :=
  ∃ err, outcome = .error err ∧ err ≠ .noKindMatch

def FinalizerRemoved (log : ApiLog) : Prop :=
  ∃ telemetry : Telemetry, ⟨.updateTelemetry telemetry, .ok ()⟩ ∈ log ∧
    finalizer ∉ telemetry.finalizers

variable {isNoKindMatchError : ApiError → Bool} {answer : ApiTable}
  {telemetry : Telemetry} {log : ApiLog}

theorem listPipelines_eval (answer : ApiTable) (kind : PipelineKind) :
    (listPipelines kind).eval answer = outcome answer kind := by
  cases kind <;> rfl

theorem resourcesExist_eval (kind : PipelineKind) :
    evalE answer (resourcesExist isNoKindMatchError kind) =
      .ok (Found isNoKindMatchError (outcome answer kind)) := by
  unfold resourcesExist
  rw [evalE_bind, evalE_lift, listPipelines_eval]
  cases outcome answer kind <;> rfl

theorem dependentCRsFound_eval (isNoKindMatchError : ApiError → Bool) (answer : ApiTable) :
    ∃ b, evalE answer (dependentCRsFound isNoKindMatchError) = .ok b ∧
      (b ↔ ∃ kind, Found isNoKindMatchError (outcome answer kind)) := by
  have hkinds : ∀ P : PipelineKind → Prop,
      (∃ kind, P kind) ↔ P .logPipeline ∨ P .metricPipeline ∨ P .tracePipeline := by
    intro P
    constructor
    · rintro ⟨kind, hkind⟩
      cases kind <;> simp [hkind]
    · rintro (h | h | h) <;> exact ⟨_, h⟩
  unfold dependentCRsFound
  simp only [evalE_bind, resourcesExist_eval, Except.bind]
  cases hlog : Found isNoKindMatchError (outcome answer .logPipeline) with
  | true => exact ⟨true, rfl, by simp [hkinds, hlog]⟩
  | false =>
    cases hmetric : Found isNoKindMatchError (outcome answer .metricPipeline) with
    | true => exact ⟨true, by simp [resourcesExist_eval, hmetric, Except.bind],
        by simp [hkinds, hmetric]⟩
    | false =>
      refine ⟨Found isNoKindMatchError (outcome answer .tracePipeline), ?_,
        by simp [hkinds, hlog, hmetric]⟩
      simp [resourcesExist_eval, hmetric, Except.bind]

theorem resourcesExist_asks (kind : PipelineKind) :
    Asks (fun req => ∀ telemetry, req ≠ .updateTelemetry telemetry)
      (resourcesExist isNoKindMatchError kind) := by
  refine .bind ?_ fun count => ?_
  · intro log res h entry hentry
    obtain ⟨count, hexec, -⟩ := execE_lift_iff.mp h
    cases kind with
    | _ =>
      obtain ⟨x, rest, rfl, hdone⟩ := exec_call_iff.mp hexec
      obtain ⟨rfl, -⟩ := exec_done_iff.mp hdone
      rw [List.mem_singleton.mp hentry]
      nofun
  · cases count <;> exact .pure _

theorem dependentCRsFound_asks :
    Asks (fun req => ∀ telemetry, req ≠ .updateTelemetry telemetry)
      (dependentCRsFound isNoKindMatchError) := by
  refine .bind (resourcesExist_asks _) fun b => ?_
  cases b with
  | true => exact .pure _
  | false =>
    refine .bind (resourcesExist_asks _) fun b => ?_
    cases b with
    | true => exact .pure _
    | false => exact resourcesExist_asks _

theorem update_exec {res : Except GoError Unit} (h : ExecE (update telemetry) log res) :
    ∃ x : ApiResp (.updateTelemetry telemetry), log = [⟨.updateTelemetry telemetry, x⟩] := by
  obtain ⟨x, rest, rfl, hrest⟩ := execE_request_bind_iff.mp h
  cases x with
  | error err =>
    obtain ⟨rfl, -⟩ := execE_throw_iff.mp hrest
    exact ⟨_, rfl⟩
  | ok u =>
    obtain ⟨rfl, -⟩ := execE_pure_iff.mp hrest
    exact ⟨_, rfl⟩

theorem not_finalizerRemoved_of_lists
    (h : ∀ e ∈ log, ∀ telemetry, e.1 ≠ .updateTelemetry telemetry) : ¬ FinalizerRemoved log := by
  rintro ⟨telemetry, hmem, -⟩
  exact h _ hmem telemetry rfl

/-- The finalizer is removed exactly if no list has found a pipeline and the update is accepted. -/
theorem finalizerRemoved_iff {res : Except GoError Unit} (hdeleted : telemetry.isBeingDeleted)
    (hrun : ExecE (handleFinalizer isNoKindMatchError telemetry) log res)
    (hanswer : ∀ e ∈ log, e.2 = answer e.1) :
    FinalizerRemoved log ↔ containsFinalizer telemetry ∧
      (∀ kind, Found isNoKindMatchError (outcome answer kind) = false) ∧
      answer (.updateTelemetry (removeFinalizer telemetry)) = .ok () := by
  unfold handleFinalizer at hrun
  rw [if_pos hdeleted] at hrun
  by_cases hcontains : containsFinalizer telemetry
  · rw [if_pos hcontains] at hrun
    obtain ⟨b, hfound, hb⟩ := dependentCRsFound_eval isNoKindMatchError answer
    rcases execE_bind_iff.mp hrun with ⟨e, herr, -⟩ | ⟨b', l, l', rfl, hlists, hrest⟩
    · have hcontra := herr.eq_evalE hanswer
      rw [hfound] at hcontra
      cases hcontra
    · have hl := dependentCRsFound_asks l _ hlists
      have heq := hlists.eq_evalE fun e he => hanswer e (List.mem_append_left _ he)
      rw [hfound] at heq
      cases heq
      cases b with
      | true =>
        obtain ⟨rfl, -⟩ := execE_pure_iff.mp hrest
        obtain ⟨kind, hkind⟩ := hb.mp rfl
        rw [List.append_nil]
        constructor
        · intro hremoved
          exact absurd hremoved (not_finalizerRemoved_of_lists hl)
        · rintro ⟨-, hnone, -⟩
          rw [hnone kind] at hkind
          cases hkind
      | false =>
        obtain ⟨x, rfl⟩ := update_exec hrest
        have hx := hanswer _ (List.mem_append_right _ List.mem_cons_self)
        have hnone : ∀ kind, Found isNoKindMatchError (outcome answer kind) = false := by
          intro kind
          rw [← Bool.not_eq_true]
          intro hkind
          cases hb.mpr ⟨kind, hkind⟩
        rw [← hx]
        constructor
        · rintro ⟨updated, hmem, -⟩
          rcases List.mem_append.mp hmem with hmem | hmem
          · exact absurd rfl (hl _ hmem updated)
          · cases List.mem_singleton.mp hmem
            exact ⟨hcontains, hnone, rfl⟩
        · rintro ⟨-, -, rfl⟩
          exact ⟨removeFinalizer telemetry, List.mem_append_right _ List.mem_cons_self,
            by simp [removeFinalizer]⟩
  · rw [if_neg hcontains] at hrun
    obtain ⟨rfl, -⟩ := execE_pure_iff.mp hrun
    simp [FinalizerRemoved, hcontains]

/-- The finalizer is removed only when every kind is gone, exactly if the resource has no finalizer,
a list has found a pipeline, the update is refused, or no list has failed. -/
theorem finalizer_removed_only_if_gone_iff {res : Except GoError Unit}
    (hdeleted : telemetry.isBeingDeleted)
    (hrun : ExecE (handleFinalizer isNoKindMatchError telemetry) log res)
    (hanswer : ∀ e ∈ log, e.2 = answer e.1) :
    (FinalizerRemoved log → ∀ kind, IsGone (outcome answer kind)) ↔
      containsFinalizer telemetry = false ∨
      (∃ kind, Found isNoKindMatchError (outcome answer kind)) ∨
      (∃ err, answer (.updateTelemetry (removeFinalizer telemetry)) = .error err) ∨
      ∀ kind, ¬ ListFailed (outcome answer kind) := by
  rw [finalizerRemoved_iff hdeleted hrun hanswer]
  constructor
  · intro hsafe
    by_cases hcontains : containsFinalizer telemetry
    · by_cases hfound : ∃ kind, Found isNoKindMatchError (outcome answer kind)
      · exact .inr (.inl hfound)
      · cases hupdate : answer (.updateTelemetry (removeFinalizer telemetry)) with
        | error err => exact .inr (.inr (.inl ⟨err, rfl⟩))
        | ok u =>
          have hnone : ∀ kind, Found isNoKindMatchError (outcome answer kind) = false := by
            intro kind
            rw [← Bool.not_eq_true]
            exact fun hkind => hfound ⟨kind, hkind⟩
          refine .inr (.inr (.inr fun kind => ?_))
          rintro ⟨err, herr, hne⟩
          have hgone := hsafe ⟨hcontains, hnone, hupdate⟩ kind
          rw [herr] at hgone
          exact hne hgone
    · exact .inl (by simpa using hcontains)
  · rintro hcase ⟨hcontains, hnone, hupdate⟩ kind
    rcases hcase with hcase | ⟨kind', hfound⟩ | ⟨err, herr⟩ | hlists
    · rw [hcontains] at hcase
      cases hcase
    · rw [hnone kind'] at hfound
      cases hfound
    · rw [hupdate] at herr
      cases herr
    · have hkind := hnone kind
      cases hout : outcome answer kind with
      | error err =>
        by_contra hne
        exact hlists kind ⟨err, hout, hne⟩
      | ok count =>
        rw [hout] at hkind
        simpa [Found, IsGone] using hkind

def sampleTelemetry : Telemetry where
  name := "default"
  deletionTimestamp := some 0
  finalizers := [finalizer]

def timingOut : ApiTable
  | .updateTelemetry _ => .ok ()
  | _ => .error (.other "request timed out")

def timeoutLog : ApiLog :=
  [⟨.listLogPipelines, .error (.other "request timed out")⟩,
   ⟨.listMetricPipelines, .error (.other "request timed out")⟩,
   ⟨.listTracePipelines, .error (.other "request timed out")⟩,
   ⟨.updateTelemetry (removeFinalizer sampleTelemetry), .ok ()⟩]

/-- Nothing is known about the pipelines and the finalizer is removed. -/
theorem timeouts_remove_finalizer :
    ExecE (handleFinalizer (· == .noKindMatch) sampleTelemetry) timeoutLog (.ok ()) ∧
      (∀ e ∈ timeoutLog, e.2 = timingOut e.1) ∧
      ¬ (FinalizerRemoved timeoutLog → ∀ kind, IsGone (outcome timingOut kind)) := by
  refine ⟨.call (.call (.call (.call (.done _)))), ?_, ?_⟩
  · simp [timeoutLog, timingOut]
  · intro hsafe
    have hremoved : FinalizerRemoved timeoutLog :=
      ⟨removeFinalizer sampleTelemetry, by simp [timeoutLog], by decide⟩
    have hgone := hsafe hremoved .logPipeline
    simp [IsGone, outcome, timingOut, Except.map] at hgone

def oneTracePipeline : ApiTable
  | .listMetricPipelines => .ok []
  | .listTracePipelines => .ok [{ name := "backend", output := { endpoint := { value := "" } } }]
  | .updateTelemetry _ => .ok ()
  | _ => .error (.other "request timed out")

/-- A pipeline that is found keeps the finalizer. -/
theorem found_pipeline_keeps_finalizer :
    ExecE (handleFinalizer (· == .noKindMatch) sampleTelemetry)
      [⟨.listLogPipelines, oneTracePipeline .listLogPipelines⟩,
        ⟨.listMetricPipelines, oneTracePipeline .listMetricPipelines⟩,
        ⟨.listTracePipelines, oneTracePipeline .listTracePipelines⟩] (.ok ()) ∧
    (FinalizerRemoved [⟨.listLogPipelines, oneTracePipeline .listLogPipelines⟩,
        ⟨.listMetricPipelines, oneTracePipeline .listMetricPipelines⟩,
        ⟨.listTracePipelines, oneTracePipeline .listTracePipelines⟩] →
      ∀ kind, IsGone (outcome oneTracePipeline kind)) := by
  have hrun : ExecE (handleFinalizer (· == .noKindMatch) sampleTelemetry)
      [⟨.listLogPipelines, oneTracePipeline .listLogPipelines⟩,
        ⟨.listMetricPipelines, oneTracePipeline .listMetricPipelines⟩,
        ⟨.listTracePipelines, oneTracePipeline .listTracePipelines⟩] (.ok ()) :=
    .call (.call (.call (.done _)))
  exact ⟨hrun, (finalizer_removed_only_if_gone_iff rfl hrun (by simp)).mpr
    (.inr (.inl ⟨.tracePipeline, by decide⟩))⟩

end TelemetryManager.TelemetryReconciler
