import TelemetryManager.Conditions
import TelemetryManager.PipelineReconcilers

/-! The condition ConfigurationGenerated of a pipeline.
The status classifies an error of the validation by a cascade of its own. A pipeline whose
certificate expires soon is reported as configured, like the reconcilers treat it. -/
namespace TelemetryManager.PipelineStatus

open Interaction Conditions Reconcilable

/-- A class of errors, with the condition for its members. -/
abbrev ErrorClass := GoError → Option (Except GoError Evaluation)

def refuse (isMember : GoError → Bool) (reason : Reason)
    (message : GoError → Except GoError String) : ErrorClass := fun err =>
  if isMember err then some ((message err).map fun text => ⟨.conditionFalse, reason, text⟩)
  else none

section Evaluations

variable (apiText : ApiError → String) (messageFor : Reason → String)

def maxPipelinesExceeded : ErrorClass :=
  refuse (·.is .errMaxPipelinesExceeded) .maxPipelinesExceeded
    fun err => convertErrToMsg (err.text apiText)

def referencedSecretMissing : ErrorClass :=
  refuse
    (fun err => err.is .errSecretRefNotFound || err.is .errSecretKeyNotFound ||
      err.is .errSecretRefMissingFields)
    .referencedSecretMissing fun err => convertErrToMsg (err.text apiText)

def endpointInvalid : ErrorClass :=
  refuse (·.isEndpointInvalidError) .endpointInvalid
    fun err => .ok (sprintf (messageFor .endpointInvalid) (err.text apiText))

def ottlSpecInvalid : ErrorClass :=
  refuse (·.isInvalidOTTLSpecError) .ottlSpecInvalid
    fun err => .ok (sprintf (messageFor .ottlSpecInvalid) (err.text apiText))

def runtimeAdditionalMetricInvalid : ErrorClass :=
  refuse (·.isInvalidAdditionalMetricError) .runtimeAdditionalMetricInvalid
    fun err => convertErrToMsg (err.text apiText)

def validationFailed : ErrorClass :=
  refuse (·.asAPIRequestFailed.isSome) .validationFailed fun _ => .ok (messageFor .validationFailed)

/-- The condition of the first class with the error. All other errors are about TLS. -/
def evaluateError (classes : List ErrorClass) (err : GoError) : Except GoError Evaluation :=
  (classes.findSome? (· err)).getD (.ok (evaluateTLSCertCondition apiText err))

def evaluateValidation (configured : Reason) (classes : List ErrorClass)
    (validation : Client Unit) : Client Evaluation := do
  match ← attempt validation with
  | .ok () => pure ⟨.conditionTrue, configured, messageFor configured⟩
  | .error err => liftExcept (evaluateError apiText classes err)

def evaluateAfter (operateInFIPSMode : Bool) (validation : Client Unit) :
    Pipeline → Client Evaluation
  | .trace _ =>
    evaluateValidation apiText messageForTracePipeline .gatewayConfigured
      [maxPipelinesExceeded apiText, referencedSecretMissing apiText,
        endpointInvalid apiText messageForTracePipeline,
        ottlSpecInvalid apiText messageForTracePipeline,
        validationFailed messageForTracePipeline] validation
  | .metric _ =>
    evaluateValidation apiText messageForMetricPipeline .gatewayConfigured
      [maxPipelinesExceeded apiText, referencedSecretMissing apiText,
        endpointInvalid apiText messageForMetricPipeline,
        ottlSpecInvalid apiText messageForMetricPipeline,
        runtimeAdditionalMetricInvalid apiText,
        validationFailed messageForMetricPipeline] validation
  | .otelLog _ =>
    evaluateValidation apiText messageForOtelLogPipeline .gatewayConfigured
      [maxPipelinesExceeded apiText, referencedSecretMissing apiText,
        endpointInvalid apiText messageForOtelLogPipeline,
        ottlSpecInvalid apiText messageForOtelLogPipeline,
        validationFailed messageForOtelLogPipeline] validation
  | .fluentBitLog _ =>
    if operateInFIPSMode then
      pure ⟨.conditionFalse, .noFluentbitInFipsMode,
        messageForFluentBitLogPipeline .noFluentbitInFipsMode⟩
    else
      evaluateValidation apiText messageForFluentBitLogPipeline .agentConfigured
        [maxPipelinesExceeded apiText, referencedSecretMissing apiText,
          endpointInvalid apiText messageForFluentBitLogPipeline,
          validationFailed messageForFluentBitLogPipeline] validation

def evaluateConfigGeneratedCondition (v : Validator) (operateInFIPSMode : Bool) (p : Pipeline) :
    Client Evaluation :=
  evaluateAfter apiText operateInFIPSMode (validate v p) p

end Evaluations

inductive ExpiresSoon : GoError → Prop
  | found (expiry : Int) (isCa : Bool) : ExpiresSoon (.certAboutToExpire expiry isCa)
  | wrapped (pre post : String) {err : GoError} (h : ExpiresSoon err) :
      ExpiresSoon (.errorf pre err post)

namespace ExpiresSoon

variable {e : GoError}

theorem asCertExpired (h : ExpiresSoon e) : e.asCertExpired = none := by
  induction h with
  | found expiry isCa => rfl
  | wrapped pre post _ ih => exact ih

end ExpiresSoon

structure Refuses (c : ErrorClass) : Prop where
  spares : ∀ {e}, ExpiresSoon e → c e = none
  status : ∀ {e evaluation}, c e = some (.ok evaluation) → evaluation.status = .conditionFalse

theorem refuses_refuse {isMember : GoError → Bool} {reason : Reason}
    {message : GoError → Except GoError String}
    (hfound : ∀ expiry isCa, isMember (.certAboutToExpire expiry isCa) = false)
    (hwrapped : ∀ pre err post, isMember (.errorf pre err post) = isMember err) :
    Refuses (refuse isMember reason message) where
  spares := by
    intro e he
    have hmember : isMember e = false := by
      induction he with
      | found expiry isCa => exact hfound expiry isCa
      | wrapped pre post _ ih => rw [hwrapped, ih]
    simp [refuse, hmember]
  status := by
    intro e evaluation h
    unfold refuse at h
    split at h
    · have hmap := Option.some.inj h
      cases hmessage : message e with
      | error err =>
        rw [hmessage] at hmap
        cases hmap
      | ok text =>
        rw [hmessage] at hmap
        cases hmap
        rfl
    · cases h

theorem refuses_of_mem {apiText : ApiError → String} {messageFor : Reason → String} {c : ErrorClass}
    (h : c ∈ [maxPipelinesExceeded apiText, referencedSecretMissing apiText,
      endpointInvalid apiText messageFor, ottlSpecInvalid apiText messageFor,
      runtimeAdditionalMetricInvalid apiText, validationFailed messageFor]) : Refuses c := by
  simp only [List.mem_cons, List.not_mem_nil, or_false] at h
  rcases h with rfl | rfl | rfl | rfl | rfl | rfl
  all_goals exact refuses_refuse (fun _ _ => rfl) fun _ _ _ => rfl

section Generated

variable (answer : ApiTable)

def Generated (x : Client Evaluation) : Prop :=
  ∃ evaluation, evalE answer x = .ok evaluation ∧ evaluation.status = .conditionTrue

/-- The validation passes, or fails because of a certificate that expires soon. -/
def Accepted (validation : Client Unit) : Prop :=
  evalE answer validation = .ok () ∨
    ∃ e, evalE answer validation = .error e ∧ e.isCertAboutToExpireError

variable {answer} {apiText : ApiError → String} {classes : List ErrorClass}

theorem evaluateError_true_iff (hclasses : ∀ c ∈ classes, Refuses c) {e : GoError}
    (he : e.isCertAboutToExpireError → ExpiresSoon e) :
    (∃ evaluation, evaluateError apiText classes e = .ok evaluation ∧
      evaluation.status = .conditionTrue) ↔ e.isCertAboutToExpireError := by
  unfold evaluateError
  constructor
  · intro hex
    obtain ⟨evaluation, heval, hstatus⟩ := hex
    cases hfind : classes.findSome? (· e) with
    | none =>
      rw [hfind] at heval
      cases heval
      exact ((evaluateTLSCertCondition_true_iff apiText e).mp hstatus).2
    | some result =>
      obtain ⟨c, hc, hresult⟩ := List.exists_of_findSome?_eq_some hfind
      rw [hfind] at heval
      have hok : c e = some (.ok evaluation) := hresult.trans (congrArg some heval)
      rw [(hclasses c hc).status hok] at hstatus
      cases hstatus
  · intro hexpires
    have hsoon := he hexpires
    have hfind : classes.findSome? (· e) = none :=
      List.findSome?_eq_none_iff.mpr fun c hc => (hclasses c hc).spares hsoon
    rw [hfind]
    exact ⟨_, rfl, (evaluateTLSCertCondition_true_iff apiText e).mpr
      ⟨hsoon.asCertExpired, hexpires⟩⟩

theorem evaluateValidation_iff (hclasses : ∀ c ∈ classes, Refuses c) {validation : Client Unit}
    (hsoon : ∀ e, evalE answer validation = .error e →
      e.isCertAboutToExpireError → ExpiresSoon e)
    {messageFor : Reason → String} {configured : Reason} :
    Generated answer (evaluateValidation apiText messageFor configured classes validation) ↔
      Accepted answer validation := by
  simp only [Generated, Accepted, evaluateValidation, evalE_bind, evalE_attempt, Except.bind]
  cases h : evalE answer validation with
  | ok u => simp
  | error e =>
    have herror : (∃ evaluation, evaluateError apiText classes e = .ok evaluation ∧
        evaluation.status = .conditionTrue) ↔ e.isCertAboutToExpireError :=
      evaluateError_true_iff hclasses (hsoon e h)
    simpa using herror

/-- Every reconciler reports what its validation accepts, apart from FIPS mode. -/
theorem evaluateAfter_iff {validation : Client Unit} {p : Pipeline} {operateInFIPSMode : Bool}
    (hmode : ∀ lp, p = .fluentBitLog lp → operateInFIPSMode = false)
    (hsoon : ∀ e, evalE answer validation = .error e →
      e.isCertAboutToExpireError → ExpiresSoon e) :
    Generated answer (evaluateAfter apiText operateInFIPSMode validation p) ↔
      Accepted answer validation := by
  cases p with
  | trace tp =>
    refine evaluateValidation_iff (fun c hc => ?_) hsoon
    refine @refuses_of_mem apiText messageForTracePipeline c ?_
    simp only [List.mem_cons] at hc ⊢
    tauto
  | metric mp => exact evaluateValidation_iff (fun c hc => refuses_of_mem hc) hsoon
  | otelLog lp =>
    refine evaluateValidation_iff (fun c hc => ?_) hsoon
    refine @refuses_of_mem apiText messageForOtelLogPipeline c ?_
    simp only [List.mem_cons] at hc ⊢
    tauto
  | fluentBitLog lp =>
    rw [evaluateAfter, hmode lp rfl, if_neg Bool.false_ne_true]
    refine evaluateValidation_iff (fun c hc => ?_) hsoon
    refine @refuses_of_mem apiText messageForFluentBitLogPipeline c ?_
    simp only [List.mem_cons] at hc ⊢
    tauto

end Generated

section Validators

variable (v : Validator)

theorem exists_run_eq_validateTLS {p : Pipeline} {c : Check} (hc : c ∈ checks v p)
    (hname : c.name = .tlsCert) : ∃ tls, c.run = validateTLS v tls := by
  have hshared : ∀ {signal owner refs otlp transforms filters},
      c ∈ otlpChecks v signal owner refs otlp transforms filters →
        ∃ tls, c.run = validateTLS v tls := by
    intro signal owner refs otlp transforms filters hc
    simp only [otlpChecks, List.mem_cons, List.not_mem_nil, or_false] at hc
    rcases hc with rfl | rfl | rfl | rfl | rfl | rfl
    all_goals first | exact ⟨_, rfl⟩ | cases hname
  cases p with
  | trace tp | otelLog lp => exact hshared hc
  | metric mp =>
    rcases List.mem_append.mp hc with hc | hc
    · exact hshared hc
    · rw [List.mem_singleton.mp hc] at hname
      cases hname
  | fluentBitLog lp =>
    simp only [checks, List.mem_cons, List.not_mem_nil, or_false] at hc
    rcases hc with rfl | rfl | rfl | rfl | rfl | rfl | rfl | rfl
    all_goals first | exact ⟨_, rfl⟩ | cases hname

theorem validateTLS_throws (tls : Option OutputTLS) :
    Throws (fun e => e.isCertAboutToExpireError = true → ExpiresSoon e) (validateTLS v tls) := by
  cases tls with
  | none => exact Throws.pure _
  | some tls =>
    simp only [validateTLS]
    split
    · refine TlsCert.validate_throws_of v.x509 ?_ ?_ ?_ v.now _
      · intro e hplain hexpires
        exact absurd hexpires (Bool.eq_false_iff.mp hplain.not_aboutToExpire)
      · intro expiry isCa hexpires
        cases hexpires
      · intro expiry isCa _
        exact .found expiry isCa
    · exact Throws.pure _

/-- The validators do not wrap the error about a certificate that expires soon. -/
theorem validate_throws (p : Pipeline) :
    Throws (fun e => e.isCertAboutToExpireError = true → ExpiresSoon e) (validate v p) := by
  rw [validate_eq_checks]
  refine Throws.forM fun c hc => ?_
  by_cases hname : c.name = .tlsCert
  · obtain ⟨tls, hrun⟩ := exists_run_eq_validateTLS v hc hname
    rw [hrun]
    exact validateTLS_throws v tls
  · refine (check_throws v hc hname).mono fun e hnot hexpires => ?_
    exact absurd hexpires (Bool.eq_false_iff.mp hnot)

end Validators

/-- An error wrapped by `fmt.Errorf`, with the texts around it from the outside to the inside. -/
def wrapped (texts : List (String × String)) (err : GoError) : GoError :=
  texts.foldr (fun text err => .errorf text.1 err text.2) err

theorem isCertAboutToExpireError_wrapped (texts : List (String × String)) (e : GoError) :
    (wrapped texts e).isCertAboutToExpireError = e.isCertAboutToExpireError := by
  induction texts with
  | nil => rfl
  | cons text texts ih => exact ih

theorem ExpiresSoon.wrappedBy {e : GoError} (h : ExpiresSoon e) (texts : List (String × String)) :
    ExpiresSoon (PipelineStatus.wrapped texts e) := by
  induction texts with
  | nil => exact h
  | cons text texts ih => exact .wrapped text.1 text.2 ih

def isReconcilableAfter (operateInFIPSMode : Bool) (validation : Client Unit) (p : Pipeline) :
    Client Bool :=
  if isEligible operateInFIPSMode p then isReconcilableIf validation else pure false

theorem isEligible_of_not_deleted {p : OTLPPipeline} (h : p.objectMeta.isBeingDeleted = false)
    (operateInFIPSMode : Bool) : isEligible operateInFIPSMode (.ofOTLP p) := by
  cases p <;> exact congrArg (!·) h

theorem generated_iff_reconcilableAfter {answer : ApiTable}
    {apiText : ApiError → String} {p : OTLPPipeline}
    (hlive : p.objectMeta.isBeingDeleted = false) (operateInFIPSMode : Bool)
    {validation : Client Unit}
    (hsoon : ∀ e, evalE answer validation = .error e →
      e.isCertAboutToExpireError → ExpiresSoon e) :
    Generated answer (evaluateAfter apiText operateInFIPSMode validation (.ofOTLP p)) ↔
      evalE answer (isReconcilableAfter operateInFIPSMode validation (.ofOTLP p)) = .ok true := by
  have hmode : ∀ lp, Pipeline.ofOTLP p = .fluentBitLog lp → operateInFIPSMode = false := by
    intro lp hp
    cases p <;> cases hp
  rw [isReconcilableAfter, if_pos (isEligible_of_not_deleted hlive operateInFIPSMode),
    isReconcilableIf_eval]
  exact evaluateAfter_iff hmode hsoon

/-- The status and the reconciler agree on every pipeline that the gateway serves, for every result
of the validation and for its errors wrapped in any way. -/
theorem config_generated_iff_reconcilable (v : Validator) (apiText : ApiError → String)
    (answer : ApiTable) (operateInFIPSMode : Bool) (p : OTLPPipeline)
    (hlive : p.objectMeta.isBeingDeleted = false) :
    (Generated answer (evaluateConfigGeneratedCondition apiText v operateInFIPSMode (.ofOTLP p)) ↔
      evalE answer (isReconcilable v operateInFIPSMode (.ofOTLP p)) = .ok true) ∧
    ∀ texts,
      (Generated answer (evaluateAfter apiText operateInFIPSMode
          (mapErr (wrapped texts) (validate v (.ofOTLP p))) (.ofOTLP p)) ↔
        evalE answer (isReconcilableAfter operateInFIPSMode
          (mapErr (wrapped texts) (validate v (.ofOTLP p))) (.ofOTLP p)) = .ok true) := by
  have hsoon : ∀ e, evalE answer (validate v (.ofOTLP p)) = .error e →
      e.isCertAboutToExpireError → ExpiresSoon e :=
    fun e he => (validate_throws v _).eval he
  refine ⟨generated_iff_reconcilableAfter hlive operateInFIPSMode hsoon, fun texts => ?_⟩
  refine generated_iff_reconcilableAfter hlive operateInFIPSMode fun e he hexpires => ?_
  rw [evalE_mapErr] at he
  cases hvalidate : evalE answer (validate v (.ofOTLP p)) with
  | ok u =>
    rw [hvalidate] at he
    cases he
  | error err =>
    rw [hvalidate, mapError_error] at he
    cases he
    rw [isCertAboutToExpireError_wrapped] at hexpires
    exact (hsoon err hvalidate hexpires).wrappedBy texts

theorem expiringPipeline_generated :
    Generated unlockedCluster (evaluateConfigGeneratedCondition (fun _ => "request failed")
        expiringValidator false (.trace expiringPipeline)) ∧
      evalE unlockedCluster
        (isReconcilable expiringValidator false (.trace expiringPipeline)) = .ok true := by
  have hreconcilable : evalE unlockedCluster
      (isReconcilable expiringValidator false (.trace expiringPipeline)) = .ok true := by rfl
  exact ⟨(config_generated_iff_reconcilable expiringValidator (fun _ => "request failed")
    unlockedCluster false (.trace expiringPipeline) rfl).1.mpr hreconcilable, hreconcilable⟩

open PipelineReconcilers (Reconciler getReconcilablePipelines mem_getReconcilablePipelines_iff)

/-- For the pipelines of a Fluent Bit configuration, the status is right if the input is not
disabled, which only the reconciler looks at, and the check of no other pipeline fails. -/
theorem fluentBit_config_generated_iff (r : Reconciler) (apiText : ApiError → String)
    (answer : ApiTable) {lp : LogPipeline} (hlive : lp.isBeingDeleted = false)
    {all : List LogPipeline} (hmem : lp ∈ all) :
    (Generated answer (evaluateConfigGeneratedCondition apiText r.validator r.operateInFIPSMode
        (.fluentBitLog lp)) ↔
      ∃ included, evalE answer (getReconcilablePipelines r .fluentBitLog all) = .ok included ∧
        lp ∈ included) ↔
      r.operateInFIPSMode ∨ ¬ Accepted answer (validateFluentBitLogPipeline r.validator lp) ∨
        (lp.input.runtime.bind (·.enabled) ≠ some false ∧
          Succeeds answer (getReconcilablePipelines r .fluentBitLog all)) := by
  have hgenerated : Generated answer (evaluateConfigGeneratedCondition apiText r.validator
      r.operateInFIPSMode (.fluentBitLog lp)) ↔ ¬ r.operateInFIPSMode ∧
        Accepted answer (validateFluentBitLogPipeline r.validator lp) := by
    cases r.operateInFIPSMode with
    | true =>
      refine iff_of_false ?_ (by simp)
      rintro ⟨evaluation, heval, hstatus⟩
      cases heval
      cases hstatus
    | false =>
      rw [and_iff_right Bool.false_ne_true]
      exact evaluateAfter_iff (fun _ _ => rfl) fun e he => (validate_throws r.validator _).eval he
  have heligible : isEligible r.operateInFIPSMode (.fluentBitLog lp) ↔
      ¬ r.operateInFIPSMode ∧ lp.input.runtime.bind (·.enabled) ≠ some false := by
    simp [isEligible, hlive]
  have hreconcilable : ∀ included,
      evalE answer (getReconcilablePipelines r .fluentBitLog all) = .ok included →
      (lp ∈ included ↔ isEligible r.operateInFIPSMode (.fluentBitLog lp) ∧
        Accepted answer (validateFluentBitLogPipeline r.validator lp)) := by
    intro included hincluded
    rw [mem_getReconcilablePipelines_iff r hincluded, and_iff_right hmem]
    unfold PipelineReconcilers.isReconcilable isReconcilable
    split
    · next helig =>
      rw [isReconcilableIf_eval, and_iff_right helig]
      rfl
    · next helig => simp [helig]
  simp only [hgenerated, and_congr_right_iff.mpr (hreconcilable _), exists_and_right, heligible]
  unfold Succeeds
  tauto

def stdoutPipeline (enabled : Option Bool) : LogPipeline where
  name := "audit"
  uid := "b2"
  input := { runtime := some { enabled := enabled } }
  output := { fluentBitCustom := "name stdout" }

def lockedCluster : ApiTable
  | .getConfigMap key =>
    .ok { key := key, ownerReferences := [logPipelineOwner (stdoutPipeline none)] }
  | _ => .error .notFound

def stdoutReconciler : Reconciler where
  validator := sampleValidator ⟨"kyma-system", "telemetry-logpipeline"⟩ 0
  yaml := ⟨fun _ => .error "unsupported document", fun _ => .error "unsupported text"⟩
  targetNamespace := "kyma-system"

/-- A valid pipeline with a disabled input is reported as configured and not included. -/
theorem disabled_input_reported_configured :
    (stdoutPipeline (some false)).isBeingDeleted = false ∧
      evalE lockedCluster (getReconcilablePipelines stdoutReconciler .fluentBitLog
        [stdoutPipeline (some false)]) = .ok [] ∧
      evalE lockedCluster (evaluateConfigGeneratedCondition (fun _ => "request failed")
        stdoutReconciler.validator false (.fluentBitLog (stdoutPipeline (some false)))) =
        .ok ⟨.conditionTrue, .agentConfigured,
          "LogPipeline specification is successfully applied to the configuration of Log Agent"⟩ ∧
      ¬ (Generated lockedCluster (evaluateConfigGeneratedCondition (fun _ => "request failed")
          stdoutReconciler.validator false (.fluentBitLog (stdoutPipeline (some false)))) ↔
        stdoutPipeline (some false) ∈ ([] : List LogPipeline)) := by
  have hstatus : evalE lockedCluster (evaluateConfigGeneratedCondition (fun _ => "request failed")
      stdoutReconciler.validator false (.fluentBitLog (stdoutPipeline (some false)))) =
      .ok ⟨.conditionTrue, .agentConfigured,
        "LogPipeline specification is successfully applied to the configuration of Log Agent"⟩ := by
    rfl
  refine ⟨rfl, rfl, hstatus, ?_⟩
  intro hiff
  exact absurd (hiff.mp ⟨_, hstatus, rfl⟩) List.not_mem_nil

theorem enabled_input_reported_configured :
    Generated lockedCluster (evaluateConfigGeneratedCondition (fun _ => "request failed")
        stdoutReconciler.validator false (.fluentBitLog (stdoutPipeline none))) ↔
      ∃ included, evalE lockedCluster (getReconcilablePipelines stdoutReconciler .fluentBitLog
        [stdoutPipeline none]) = .ok included ∧ stdoutPipeline none ∈ included :=
  (fluentBit_config_generated_iff stdoutReconciler (fun _ => "request failed") lockedCluster rfl
    (List.mem_singleton.mpr rfl)).mpr (.inr (.inr ⟨by decide, _, rfl⟩))

end TelemetryManager.PipelineStatus
