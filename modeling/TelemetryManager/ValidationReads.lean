import TelemetryManager.Library.Execution
import TelemetryManager.Reconcilable

/-! Failed reads during the validation of an OTLP pipeline.
The check of the Secret references reports a failed read as a failed API request; the checks behind
it read the same Secrets again and report every failure as an invalid value. -/
namespace TelemetryManager.Reconcilable

open Interaction

/-- A read of a Secret that failed for another reason than a missing Secret. -/
def SecretReadFailed (entry : ApiEntry) : Prop :=
  ∃ key err, entry = ⟨.getSecret key, .error err⟩ ∧ err.isNotFound = false

def RequestFailed (entry : ApiEntry) : Prop := ∃ err, entry.2 = .error err

/-- A request that failed for another reason than a missing object. -/
def Transient (entry : ApiEntry) : Prop :=
  ∃ err, entry.2 = .error err ∧ err.isNotFound = false

theorem Transient.answer {req : ApiReq} {answer : ApiResp req} (h : Transient ⟨req, answer⟩) :
    ∃ err, answer = .error err ∧ err.isNotFound = false := h

theorem SecretReadFailed.transient {entry : ApiEntry} (h : SecretReadFailed entry) :
    Transient entry := by
  obtain ⟨key, err, rfl, hnotFound⟩ := h
  exact ⟨err, rfl, hnotFound⟩

structure IsApiFailure (e : GoError) : Prop where
  not_aboutToExpire : e.isCertAboutToExpireError = false
  apiRequestFailed : e.asAPIRequestFailed ≠ none

def IsRead : ApiReq → Prop
  | .getSecret _ | .getConfigMap _ => True
  | _ => False

variable {log : ApiLog}

theorem requestOrFail_asks {Q : ApiReq → Prop} {text : String} (req : ApiReq) (h : Q req) :
    Asks Q (requestOrFail text req) := by
  refine .bind (.request h) fun answer => ?_
  cases answer with
  | error err => exact .throw _
  | ok result => exact .pure _

theorem getValue_failsOn (ref : SecretKeyRef) :
    FailsOn Transient IsApiFailure (SecretRef.getValue ref) := by
  refine FailsOn.bind (.liftExcept _) fun _ =>
    FailsOn.request_bind (fun answer hbad => ?_) fun answer => ?_
  · obtain ⟨err, rfl, hnotFound⟩ := hbad.answer
    cases err with
    | notFound => cases hnotFound
    | _ => exact ⟨_, rfl, rfl, by simp [GoError.asAPIRequestFailed]⟩
  · cases answer with
    | error err =>
      dsimp only
      split
      · exact .throw _
      · exact .throw _
    | ok secret =>
      dsimp only
      split
      · exact .pure _
      · exact .throw _

/-- Only a failed request, the last one, makes the read fail as an API failure. -/
theorem getValue_failsByLast (ref : SecretKeyRef) :
    FailsByLast RequestFailed (fun e => e.asAPIRequestFailed ≠ none) (SecretRef.getValue ref) := by
  have hplain : Throws (fun e => ¬ e.asAPIRequestFailed ≠ none)
      (liftExcept (SecretRef.checkForMissingFields ref) : Client Unit) := by
    refine .liftExcept (Fails.ite (.error ?_) (.ok _))
    simp [GoError.asAPIRequestFailed]
  refine FailsByLast.bind (.of_throws hplain) fun _ => FailsByLast.request_bind fun answer => ?_
  cases answer with
  | error err =>
    refine .inl ⟨⟨err, rfl⟩, ?_⟩
    cases err <;> exact ⟨_, rfl⟩
  | ok secret =>
    right
    dsimp only
    split
    · exact .pure _
    · exact .throw (by simp [GoError.asAPIRequestFailed])

theorem getValue_asks (ref : SecretKeyRef) : Asks IsRead (SecretRef.getValue ref) := by
  refine .bind (.liftExcept _) fun _ => .bind (.request trivial) fun answer => ?_
  cases answer with
  | error err =>
    dsimp only
    split
    · exact .throw _
    · exact .throw _
  | ok secret =>
    dsimp only
    split
    · exact .pure _
    · exact .throw _

/-- A read makes at most one request, and one if it succeeds. -/
theorem getValue_length {ref : SecretKeyRef} {res : Except GoError String}
    (h : ExecE (SecretRef.getValue ref) log res) :
    log.length ≤ 1 ∧ (∀ value, res = .ok value → log.length = 1) := by
  rcases execE_bind_iff.mp h with ⟨e, hcheck, rfl⟩ | ⟨_, l, l', rfl, hcheck, hread⟩
  · obtain ⟨rfl, -⟩ := execE_liftExcept_iff.mp hcheck
    exact ⟨by simp, nofun⟩
  · obtain ⟨rfl, -⟩ := execE_liftExcept_iff.mp hcheck
    obtain ⟨answer, rest, rfl, hrest⟩ := execE_request_bind_iff.mp hread
    have hnil : rest = [] := by
      cases answer with
      | error err =>
        dsimp only at hrest
        split at hrest
        · exact (execE_throw_iff.mp hrest).1
        · exact (execE_throw_iff.mp hrest).1
      | ok secret =>
        dsimp only at hrest
        split at hrest
        · exact (execE_pure_iff.mp hrest).1
        · exact (execE_throw_iff.mp hrest).1
    simp [hnil]

theorem secretRefs_failsOn (refs : List SecretKeyRef) :
    FailsOn Transient IsApiFailure (SecretRef.validate refs) :=
  .forM fun ref _ => (getValue_failsOn ref).bind fun _ => .pure _

theorem secretRefs_failsByLast (refs : List SecretKeyRef) :
    FailsByLast RequestFailed (fun e => e.asAPIRequestFailed ≠ none) (SecretRef.validate refs) :=
  .forM fun ref _ => (getValue_failsByLast ref).bind fun _ => .of_throws (.pure _)

theorem secretRefs_asks (refs : List SecretKeyRef) : Asks IsRead (SecretRef.validate refs) :=
  .forM fun ref _ => (getValue_asks ref).bind fun _ => .pure _

/-- A passed check has made one request for each reference. -/
theorem secretRefs_length {refs : List SecretKeyRef}
    {res : Except GoError Unit} (h : ExecE (SecretRef.validate refs) log res) :
    log.length ≤ refs.length ∧ (res = .ok () → log.length = refs.length) := by
  induction refs generalizing log with
  | nil =>
    obtain ⟨rfl, -⟩ := execE_pure_iff.mp h
    simp
  | cons ref refs ih =>
    unfold SecretRef.validate at h
    rw [List.forM_cons] at h
    have hread : ∀ {l r}, ExecE (discard (SecretRef.getValue ref)) l r →
        l.length ≤ 1 ∧ (r = .ok () → l.length = 1) := by
      intro l r hread
      rcases execE_bind_iff.mp hread with ⟨e, hvalue, rfl⟩ | ⟨value, l, l', rfl, hvalue, hpure⟩
      · exact ⟨(getValue_length hvalue).1, nofun⟩
      · obtain ⟨rfl, -⟩ := execE_pure_iff.mp hpure
        have hlen := (getValue_length hvalue).2 value rfl
        simp [hlen]
    rcases execE_bind_iff.mp h with ⟨e, hfirst, rfl⟩ | ⟨_, l, l', rfl, hfirst, hrest⟩
    · have hlen := (hread hfirst).1
      exact ⟨by rw [List.length_cons]; omega, nofun⟩
    · have hlen := (hread hfirst).2 rfl
      obtain ⟨hle, heq⟩ := ih hrest
      rw [List.length_append, List.length_cons]
      exact ⟨by omega, fun hok => by have := heq hok; omega⟩

theorem getValue_failsOn_read (ref : SecretKeyRef) :
    FailsOn SecretReadFailed IsApiFailure (SecretRef.getValue ref) :=
  (getValue_failsOn ref).mono (fun _ => SecretReadFailed.transient) fun _ => id

theorem getValue_failsOn_other (ref : SecretKeyRef) :
    FailsOn (fun entry => ¬ IsRead entry.1) (fun _ => False) (SecretRef.getValue ref) :=
  .of_asks (getValue_asks ref) fun _ => id

variable (v : Validator)

section Values

variable {Bad : ApiEntry → Prop} {P P' : GoError → Prop}
  (hget : ∀ ref, FailsOn Bad P (SecretRef.getValue ref))

include hget

theorem resolveOr_failsOn {failed : GoError} (hP : ∀ e, P e → P' failed) (value : ValueType) :
    FailsOn Bad P' (SecretRef.resolveOr failed value) := by
  unfold SecretRef.resolveOr
  split
  · exact .pure _
  · split
    · exact .throw _
    · next ref _ =>
      refine FailsOn.attempt_bind (hget ref) (fun e he => ⟨failed, rfl, hP e he⟩) ?_
      intro r
      cases r with
      | error e => exact .throw _
      | ok value => exact .pure _

variable (hplain : ∀ e failed : GoError, P e → failed.IsPlain → P' failed)

include hplain

theorem otlpEndpoint_failsOn (otlp : Option OTLPOutput) :
    FailsOn Bad P' (validateOTLPEndpoint v otlp) := by
  cases otlp with
  | none => exact .pure _
  | some otlp =>
    exact .bind (resolveOr_failsOn hget (fun e he => hplain e _ he ⟨rfl, rfl⟩) _) fun _ =>
      .liftExcept _

theorem tls_failsOn (tls : Option OutputTLS) : FailsOn Bad P' (validateTLS v tls) := by
  have hopt (value : Option ValueType) : FailsOn Bad P' (TlsCert.resolveOptional value) := by
    cases value with
    | none => exact .pure _
    | some value => exact resolveOr_failsOn hget (fun e he => hplain e _ he ⟨rfl, rfl⟩) value
  cases tls with
  | none => exact .pure _
  | some tls =>
    simp only [validateTLS, TlsCert.validate]
    split
    · split
      · exact .throw _
      · refine .bind ?_ fun _ => .liftExcept _
        exact (hopt _).bind fun _ => (hopt _).bind fun _ => (hopt _).bind fun _ => .pure _
    · exact .pure _

end Values

theorem tls_asks (tls : Option OutputTLS) : Asks IsRead (validateTLS v tls) :=
  (tls_failsOn v getValue_failsOn_other (fun _ _ h => h.elim) tls).asks

theorem isLockHolder_asks (c : ResourceLock.Checker) (owner : OwnerReference) :
    Asks (fun r => ∃ key, r = .getConfigMap key) (c.isLockHolder owner) := by
  refine .bind (.request ⟨c.lockName, rfl⟩) fun answer => ?_
  cases answer with
  | error err => exact .throw _
  | ok lock =>
    dsimp only
    split
    · exact .pure _
    · exact .throw _

theorem isLockHolder_failsByLast (c : ResourceLock.Checker) (owner : OwnerReference) :
    FailsByLast RequestFailed (fun e => e.asAPIRequestFailed ≠ none) (c.isLockHolder owner) := by
  refine FailsByLast.request_bind fun answer => ?_
  cases answer with
  | error err => exact .inl ⟨⟨err, rfl⟩, _, rfl⟩
  | ok lock =>
    right
    dsimp only
    split
    · exact .pure _
    · exact .throw (by simp [GoError.asAPIRequestFailed])

theorem otlp_checks_eq (p : OTLPPipeline) :
    checks v (.ofOTLP p) =
      ⟨.secretRefs, SecretRef.validate (secretRefs p)⟩ :: (checks v (.ofOTLP p)).tail := by
  cases p <;> rfl

inductive LaterCheck : Client Unit → Prop where
  | endpoint (otlp : Option OTLPOutput) : LaterCheck (validateOTLPEndpoint v otlp)
  | tls (tls : Option OutputTLS) : LaterCheck (validateTLS v tls)
  | lock (owner : OwnerReference) : LaterCheck (v.pipelineLock.isLockHolder owner)
  | spec {x : Except GoError Unit} (h : Fails GoError.IsPlain x) : LaterCheck (liftExcept x)

theorem otlp_laterChecks {p : OTLPPipeline} {c : Check} (hc : c ∈ (checks v (.ofOTLP p)).tail) :
    LaterCheck v c.run := by
  have hshared : ∀ {signal owner refs otlp transforms filters},
      c ∈ (otlpChecks v signal owner refs otlp transforms filters).tail → LaterCheck v c.run := by
    intro signal owner refs otlp transforms filters hc
    simp only [otlpChecks, List.tail_cons, List.mem_cons, List.not_mem_nil, or_false] at hc
    rcases hc with rfl | rfl | rfl | rfl | rfl
    · exact .endpoint _
    · exact .tls _
    · exact .lock _
    · exact .spec (SpecValidators.validateTransforms_fails v.ottl signal transforms)
    · exact .spec (SpecValidators.validateFilters_fails v.ottl signal filters)
  cases p with
  | trace tp | log lp => exact hshared hc
  | metric mp =>
    have hsplit : c ∈ (otlpChecks v .metric (metricPipelineOwner mp)
        (SecretRef.getSecretRefsMetricPipeline mp)
          (some mp.output) mp.transforms mp.filters).tail ++
        [⟨.runtimeAdditionalMetrics,
          liftExcept (SpecValidators.validateRuntimeAdditionalMetrics mp)⟩] := hc
    rcases List.mem_append.mp hsplit with hc | hc
    · exact hshared hc
    · rw [List.mem_singleton.mp hc]
      exact .spec (SpecValidators.validateRuntimeAdditionalMetrics_fails mp)

variable {v} {x : Client Unit}

theorem LaterCheck.failsOn (h : LaterCheck v x) :
    FailsOn SecretReadFailed GoError.IsPlain x := by
  cases h with
  | endpoint otlp => exact otlpEndpoint_failsOn v getValue_failsOn_read (fun _ _ _ h => h) otlp
  | tls tls => exact tls_failsOn v getValue_failsOn_read (fun _ _ _ h => h) tls
  | lock owner =>
    refine .of_asks (isLockHolder_asks v.pipelineLock owner) ?_
    rintro _ ⟨key, err, rfl, -⟩ ⟨key', hreq⟩
    cases hreq
  | spec h => exact .liftExcept _

theorem LaterCheck.asks (h : LaterCheck v x) : Asks IsRead x := by
  cases h with
  | endpoint otlp =>
    exact (otlpEndpoint_failsOn v getValue_failsOn_other (fun _ _ h => h.elim) otlp).asks
  | tls tls => exact tls_asks v tls
  | lock owner =>
    intro log res hexec entry hentry
    obtain ⟨key, hreq⟩ := isLockHolder_asks v.pipelineLock owner log res hexec entry hentry
    rw [hreq]
    trivial
  | spec h => exact .liftExcept _

theorem LaterCheck.failsByLast (h : LaterCheck v x) :
    FailsByLast RequestFailed (fun e => e.asAPIRequestFailed ≠ none) x := by
  cases h with
  | endpoint otlp =>
    refine .of_throws ?_
    cases otlp with
    | none => exact .pure _
    | some otlp =>
      refine Throws.mono (Endpoint.validate_throws v.url (otlpEndpointParams otlp)) ?_
      exact fun _ he hsome => hsome he.not_apiRequestFailed
  | tls tls =>
    refine .of_throws ?_
    cases tls with
    | none => exact .pure _
    | some tls =>
      simp only [validateTLS]
      split
      · exact (TlsCert.validate_throws v.x509 v.now _).mono fun _ he hsome => hsome he
      · exact .pure _
  | lock owner => exact isLockHolder_failsByLast _ owner
  | spec h =>
    exact .of_throws ((Throws.liftExcept h).mono fun _ he hsome => hsome he.not_apiRequestFailed)

/-- What the reconciler makes of the result of a validation. -/
def decision : Except GoError Unit → Except GoError Bool
  | .ok () => .ok true
  | .error err =>
    if err.isCertAboutToExpireError then .ok true
    else match err.asAPIRequestFailed with
      | some failure => .error failure
      | none => .ok false

theorem decision_of_isPlain {e : GoError} (h : e.IsPlain) : decision (.error e) = .ok false := by
  simp [decision, h.not_aboutToExpire, h.not_apiRequestFailed]

theorem decision_of_isApiFailure {e : GoError} (h : IsApiFailure e) :
    ∃ failure, decision (.error e) = .error failure := by
  obtain ⟨failure, hfailure⟩ := Option.ne_none_iff_exists'.mp h.apiRequestFailed
  exact ⟨failure, by simp [decision, h.not_aboutToExpire, hfailure]⟩

theorem apiRequestFailed_of_decision {r : Except GoError Unit} {failure : GoError}
    (h : decision r = .error failure) : ∃ e, r = .error e ∧ e.asAPIRequestFailed ≠ none := by
  cases r with
  | ok u => cases h
  | error e =>
    refine ⟨e, rfl, fun hnone => ?_⟩
    simp only [decision, hnone] at h
    split at h <;> cases h

theorem isReconcilableIf_eq (x : Client Unit) :
    isReconcilableIf x = attempt x >>= fun r => liftExcept (decision r) := by
  unfold isReconcilableIf
  congr 1
  funext r
  cases r with
  | ok u => rfl
  | error e =>
    cases hcert : e.isCertAboutToExpireError with
    | true =>
      simp only [decision, hcert, if_true]
      rfl
    | false =>
      simp only [decision, hcert]
      cases e.asAPIRequestFailed <;> rfl

variable (v) in
theorem isReconcilable_exec {operateInFIPSMode : Bool} {p : Pipeline}
    {d : Except GoError Bool} (h : ExecE (isReconcilable v operateInFIPSMode p) log d) :
    (log = [] ∧ d = .ok false) ∨ ∃ r, ExecE (validate v p) log r ∧ d = decision r := by
  unfold isReconcilable at h
  split at h
  · rw [isReconcilableIf_eq] at h
    obtain ⟨r, l, l', rfl, hvalidate, hd⟩ := execE_attempt_bind_iff.mp h
    obtain ⟨rfl, rfl⟩ := execE_liftExcept_iff.mp hd
    exact .inr ⟨r, by simpa using hvalidate, rfl⟩
  · exact .inl (execE_pure_iff.mp h)

section

variable {operateInFIPSMode : Bool} {p : OTLPPipeline} {log : ApiLog}
  {d : Except GoError Bool}

theorem validate_otlp_eq (p : OTLPPipeline) :
    validate v (.ofOTLP p) = SecretRef.validate (secretRefs p) >>= fun _ =>
      forM (checks v (.ofOTLP p)).tail (·.run) := by
  rw [validate_eq_checks, otlp_checks_eq, List.forM_cons]
  rfl

/-- A read that fails behind the check of the Secret references makes the pipeline look invalid. -/
theorem decision_of_late_failure (h : ExecE (isReconcilable v operateInFIPSMode (.ofOTLP p)) log d)
    (hfail : ∃ entry ∈ log.drop (secretRefs p).length, SecretReadFailed entry) : d = .ok false := by
  rcases isReconcilable_exec v h with ⟨-, hd⟩ | ⟨r, hvalidate, hd⟩
  · exact hd
  · rw [validate_otlp_eq] at hvalidate
    rcases execE_bind_iff.mp hvalidate with ⟨e, hrefs, -⟩ | ⟨_, l, l', rfl, hrefs, hlater⟩
    · -- the check of the references ended the validation, nothing is behind it
      obtain ⟨entry, hentry, -⟩ := hfail
      rw [List.drop_eq_nil_of_le (secretRefs_length hrefs).1] at hentry
      cases hentry
    · rw [← (secretRefs_length hrefs).2 rfl, List.drop_left] at hfail
      have hfails : FailsOn SecretReadFailed GoError.IsPlain
          (forM (checks v (.ofOTLP p)).tail (·.run)) :=
        .forM fun c hc => (otlp_laterChecks v hc).failsOn
      obtain ⟨e, rfl, hplain⟩ := hfails l' r hlater hfail
      rw [hd, decision_of_isPlain hplain]

/-- A read that fails in the check of the Secret references is reported. -/
theorem decision_of_early_failure (h : ExecE (isReconcilable v operateInFIPSMode (.ofOTLP p)) log d)
    (hfail : ∃ entry ∈ log, SecretReadFailed entry)
    (hlate : ¬ ∃ entry ∈ log.drop (secretRefs p).length, SecretReadFailed entry) :
    ∃ e, d = .error e := by
  rcases isReconcilable_exec v h with ⟨hlog, -⟩ | ⟨r, hvalidate, rfl⟩
  · obtain ⟨entry, hentry, -⟩ := hfail
    rw [hlog] at hentry
    cases hentry
  · rw [validate_otlp_eq] at hvalidate
    rcases execE_bind_iff.mp hvalidate with ⟨e, hrefs, rfl⟩ | ⟨_, l, l', rfl, hrefs, -⟩
    · obtain ⟨entry, hentry, hbad⟩ := hfail
      obtain ⟨e', he, hfailure⟩ :=
        secretRefs_failsOn _ log _ hrefs ⟨entry, hentry, hbad.transient⟩
      cases he
      exact decision_of_isApiFailure hfailure
    · -- the check passed, so the failed read is behind it
      rw [← (secretRefs_length hrefs).2 rfl, List.drop_left] at hlate
      obtain ⟨entry, hentry, hbad⟩ := hfail
      rcases List.mem_append.mp hentry with hl | hl'
      · obtain ⟨e, he, -⟩ := secretRefs_failsOn _ l _ hrefs ⟨entry, hl, hbad.transient⟩
        cases he
      · exact absurd ⟨entry, hl', hbad⟩ hlate

theorem validate_otlp_asks (p : OTLPPipeline) : Asks IsRead (validate v (.ofOTLP p)) := by
  rw [validate_otlp_eq]
  exact (secretRefs_asks _).bind fun _ => .forM fun c hc => (otlp_laterChecks v hc).asks

theorem isReconcilable_asks {Q : ApiReq → Prop} {p : Pipeline} (h : Asks Q (validate v p)) :
    Asks Q (isReconcilable v operateInFIPSMode p) := by
  intro log d hexec entry hentry
  rcases isReconcilable_exec v hexec with ⟨hlog, -⟩ | ⟨r, hvalidate, -⟩
  · rw [hlog] at hentry
    cases hentry
  · exact h log r hvalidate entry hentry

/-- A decision that is an error comes from a failure of the last request, if the validator reports
only such failures. -/
theorem isReconcilable_failsByLast {p : Pipeline}
    (h : FailsByLast RequestFailed (fun e => e.asAPIRequestFailed ≠ none) (validate v p)) :
    FailsByLast RequestFailed (fun _ => True) (isReconcilable v operateInFIPSMode p) := by
  intro log failure hexec _
  rcases isReconcilable_exec v hexec with ⟨-, hd⟩ | ⟨r, hvalidate, hd⟩
  · cases hd
  · obtain ⟨e, rfl, he⟩ := apiRequestFailed_of_decision hd.symm
    exact h log e hvalidate he

theorem validate_otlp_failsByLast (p : OTLPPipeline) :
    FailsByLast RequestFailed (fun e => e.asAPIRequestFailed ≠ none) (validate v (.ofOTLP p)) := by
  rw [validate_otlp_eq]
  exact (secretRefs_failsByLast _).bind fun _ =>
    .forM fun c hc => (otlp_laterChecks v hc).failsByLast

end
end TelemetryManager.Reconcilable
