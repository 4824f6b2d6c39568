import TelemetryManager.CoordinationConfig
import TelemetryManager.GatewayAdmission

/-! The Secrets that a pipeline's exporter is built from, against the references that are listed,
watched and recorded for the pipeline. -/
namespace TelemetryManager.Gateway

open Collector Coordination Interaction OtlpExporter Reconcilable SharedTypes

def ReadsListed (p : OTLPPipeline) (request : ApiReq) : Prop :=
  ∃ ref ∈ secretRefs p, request = .getSecret ⟨ref.namespace, ref.name⟩

/-- Whatever the API server answers, the exporter and the OAuth2 extension of the pipeline are
built from Secrets of listed references. -/
def BuiltFromListed (lib : ExporterLib) (p : OTLPPipeline) : Prop :=
  ∀ output, otlpOutput p = some output →
    (∀ sendingQueue, Asks (ReadsListed p)
      (otlpExporterWithEnvVars lib (pipelineRef p) output sendingQueue)) ∧
    ∀ oauth2, output.oauth2 = some oauth2 →
      Asks (ReadsListed p) (oauth2ExtensionWithEnvVars (pipelineRef p) oauth2)

/-- The Secrets of a cluster. Names and namespaces of objects have no slash. -/
structure SecretStore where
  secrets : ObjectKey → Option Secret
  names_valid : ∀ key secret, secrets key = some secret →
    '/' ∉ key.namespace.toList ∧ '/' ∉ key.name.toList

def SecretStore.answer (store : SecretStore) : ApiTable
  | .getSecret key =>
    match store.secrets key with
    | some secret => .ok secret
    | none => .error .notFound
  | _ => .error .notFound

theorem SecretStore.eval_getSecret (store : SecretStore) (key : ObjectKey) :
    (getSecret key).eval store.answer =
      match store.secrets key with
      | some secret => .ok secret
      | none => .error .notFound := rfl

/-- A changed Secret has a new resource version. -/
def VersionsChange (store store' : SecretStore) : Prop :=
  ∀ key secret secret', store.secrets key = some secret → store'.secrets key = some secret' →
    secret.resourceVersion = secret'.resourceVersion → secret = secret'

def versionKey (key : ObjectKey) : String := key.namespace ++ "/" ++ key.name

/-- The versions of exactly those Secrets that exist and have been seen are recorded. -/
def Recorded (store : SecretStore) (seen : List ObjectKey) (versions : List (String × String)) :
    Prop :=
  ∀ k version, versions.lookup k = some version ↔
    ∃ key ∈ seen, versionKey key = k ∧ (store.secrets key).map (·.resourceVersion) = some version

theorem versionKey_injective {store : SecretStore} {key key' : ObjectKey} {secret : Secret}
    (hsecret : store.secrets key = some secret) (h : versionKey key' = versionKey key) :
    key' = key := by
  obtain ⟨hns, hname⟩ := store.names_valid key secret hsecret
  have hlists : key.namespace.toList ++ '/' :: key.name.toList =
      key'.namespace.toList ++ '/' :: key'.name.toList := by
    simpa [versionKey, String.toList_append] using (congrArg String.toList h).symm
  obtain ⟨hns', -, hname'⟩ := (List.append_cons_inj_of_notMem hns hname).mp hlists
  cases key
  cases key'
  cases String.toList_injective hns'
  cases String.toList_injective hname'
  rfl

section Recorded

variable {store : SecretStore} {seen : List ObjectKey} {versions : List (String × String)}

theorem Recorded.missing (h : Recorded store seen versions) {key : ObjectKey}
    (hmissing : store.secrets key = none) : Recorded store (key :: seen) versions := by
  intro k version
  rw [h k version]
  simp [hmissing]

theorem Recorded.existing (h : Recorded store seen versions) {key : ObjectKey} {secret : Secret}
    (hsecret : store.secrets key = some secret) :
    Recorded store (key :: seen) (setData (versionKey key) secret.resourceVersion versions) := by
  intro k version
  simp only [lookup_setData, List.mem_cons, or_and_right, exists_or, exists_eq_left]
  by_cases hk : k = versionKey key
  · rw [if_pos hk]
    constructor
    · rintro hversion
      exact .inl ⟨hk.symm, by rw [hsecret]; exact hversion⟩
    · rintro (⟨-, hversion⟩ | ⟨key', -, hkey', hversion⟩)
      · rw [hsecret] at hversion
        exact hversion
      · rw [hk] at hkey'
        rw [versionKey_injective hsecret hkey', hsecret] at hversion
        exact hversion
  · rw [if_neg hk, h k version]
    exact ⟨.inr, fun h => h.resolve_left fun hkey => hk hkey.1.symm⟩

theorem collectSecretVersions_records (refs : List SecretKeyRef)
    (h : Recorded store seen versions) :
    ∃ versions' seen', evalE store.answer (collectSecretVersions refs seen versions) =
        .ok versions' ∧ Recorded store seen' versions' ∧ seen ⊆ seen' ∧
      ∀ ref ∈ refs, (⟨ref.namespace, ref.name⟩ : ObjectKey) ∈ seen' := by
  induction refs generalizing seen versions with
  | nil => exact ⟨versions, seen, rfl, h, fun _ h => h, nofun⟩
  | cons ref refs ih =>
    unfold collectSecretVersions
    by_cases hseen : (⟨ref.namespace, ref.name⟩ : ObjectKey) ∈ seen
    · simp only [hseen, if_true]
      obtain ⟨versions', seen', heval, hrecorded, hsub, hrefs⟩ := ih h
      exact ⟨versions', seen', heval, hrecorded, hsub, List.forall_mem_cons.mpr ⟨hsub hseen, hrefs⟩⟩
    · simp only [hseen, if_false]
      -- what the reference adds depends on whether its Secret exists
      cases hsecret : store.secrets ⟨ref.namespace, ref.name⟩ with
      | none =>
        obtain ⟨versions', seen', heval, hrecorded, hsub, hrefs⟩ := ih (h.missing hsecret)
        refine ⟨versions', seen', ?_, hrecorded, fun _ hmem => hsub (.tail _ hmem),
          List.forall_mem_cons.mpr ⟨hsub (.head _), hrefs⟩⟩
        rw [evalE_bind, evalE_lift, store.eval_getSecret, hsecret]
        exact heval
      | some secret =>
        obtain ⟨versions', seen', heval, hrecorded, hsub, hrefs⟩ := ih (h.existing hsecret)
        refine ⟨versions', seen', ?_, hrecorded, fun _ hmem => hsub (.tail _ hmem),
          List.forall_mem_cons.mpr ⟨hsub (.head _), hrefs⟩⟩
        rw [evalE_bind, evalE_lift, store.eval_getSecret, hsecret]
        exact heval

end Recorded

/-- Equal records and versions that change with their Secrets mean equal Secrets. -/
theorem answer_eq_of_recorded {store store' : SecretStore} {seen seen' : List ObjectKey}
    {versions versions' : List (String × String)} (h : Recorded store seen versions)
    (h' : Recorded store' seen' versions') (hchange : VersionsChange store store')
    (heq : ∀ k, versions.lookup k = versions'.lookup k) {key : ObjectKey} (hseen : key ∈ seen)
    (hseen' : key ∈ seen') : store.answer (.getSecret key) = store'.answer (.getSecret key) := by
  suffices hsecrets : store.secrets key = store'.secrets key by
    simp only [SecretStore.answer, hsecrets]
  cases hsecret : store.secrets key with
  | some secret =>
    have hlookup := (h (versionKey key) secret.resourceVersion).mpr
      ⟨key, hseen, rfl, by rw [hsecret]; rfl⟩
    rw [heq] at hlookup
    obtain ⟨key', -, hkey', hversion⟩ := (h' _ _).mp hlookup
    obtain ⟨secret', hsecret', hsame⟩ := Option.map_eq_some_iff.mp hversion
    rw [versionKey_injective hsecret hkey'] at hsecret'
    rw [hsecret', hchange key secret secret' hsecret hsecret' hsame.symm]
  | none =>
    cases hsecret' : store'.secrets key with
    | none => rfl
    | some secret' =>
      have hlookup := (h' (versionKey key) secret'.resourceVersion).mpr
        ⟨key, hseen', rfl, by rw [hsecret']; rfl⟩
      rw [← heq] at hlookup
      obtain ⟨key', -, hkey', hversion⟩ := (h _ _).mp hlookup
      rw [versionKey_injective hsecret' hkey', hsecret] at hversion
      cases hversion

/-- If the exporter or the OAuth2 extension of the pipeline differs between two stores, then so do
the recorded versions. -/
def VersionsDetermineBuild (lib : ExporterLib) (p : OTLPPipeline) : Prop :=
  ∀ store store', VersionsChange store store' → ∃ versions versions',
    evalE store.answer (collectSecretVersions (secretRefs p)) = .ok versions ∧
    evalE store'.answer (collectSecretVersions (secretRefs p)) = .ok versions' ∧
    ((∀ k, versions.lookup k = versions'.lookup k) → ∀ output, otlpOutput p = some output →
      (∀ sendingQueue,
        evalE store.answer (otlpExporterWithEnvVars lib (pipelineRef p) output sendingQueue) =
        evalE store'.answer (otlpExporterWithEnvVars lib (pipelineRef p) output sendingQueue)) ∧
      ∀ oauth2, output.oauth2 = some oauth2 →
        evalE store.answer (oauth2ExtensionWithEnvVars (pipelineRef p) oauth2) =
        evalE store'.answer (oauth2ExtensionWithEnvVars (pipelineRef p) oauth2))

theorem BuiltFromListed.versionsDetermineBuild {lib : ExporterLib} {p : OTLPPipeline}
    (h : BuiltFromListed lib p) : VersionsDetermineBuild lib p := by
  intro store store' hchange
  have hempty : ∀ store, Recorded store [] [] := by
    intro store k version
    simp
  obtain ⟨versions, seen, heval, hrecorded, -, hrefs⟩ :=
    collectSecretVersions_records (secretRefs p) (hempty store)
  obtain ⟨versions', seen', heval', hrecorded', -, hrefs'⟩ :=
    collectSecretVersions_records (secretRefs p) (hempty store')
  refine ⟨versions, versions', heval, heval', fun heq output houtput => ?_⟩
  have hagree : ∀ request, ReadsListed p request →
    store.answer request = store'.answer request := by
    rintro request ⟨ref, href, rfl⟩
    exact answer_eq_of_recorded hrecorded hrecorded' hchange heq (hrefs ref href) (hrefs' ref href)
  obtain ⟨hexporter, hextension⟩ := h output houtput
  exact ⟨fun sendingQueue => (hexporter sendingQueue).evalE_congr hagree,
    fun oauth2 hoauth2 => (hextension oauth2 hoauth2).evalE_congr hagree⟩

/-- The Secrets of the TLS values of an insecure output are listed for other values, unless the
build stops in front of them. -/
def InsecureTLSListed (lib : ExporterLib) (p : OTLPPipeline) : Prop :=
  ∀ output tls, otlpOutput p = some output → output.tls = some tls → tls.insecure →
    ReachesTLS lib output → ∀ value ∈ tlsValues output, ∀ ref,
      SecretRef.secretRefOf value = some ref →
        ReadsListed p (.getSecret ⟨ref.namespace, ref.name⟩)

section Coverage

variable {lib : ExporterLib} {p : OTLPPipeline} {output : OTLPOutput}

theorem readsListed_of_reading (houtput : otlpOutput p = some output) {values : List ValueType}
    (hlisted : ∀ value ∈ values, value ∈ SecretRef.listedValues output) {request : ApiReq}
    (h : Reading values request) : ReadsListed p request := by
  obtain ⟨value, hvalue, ref, href, rfl⟩ := h
  refine ⟨ref, ?_, rfl⟩
  rw [secretRefs_eq houtput, SecretRef.getSecretRefsInOTLPOutput_eq]
  exact List.mem_filterMap.mpr ⟨value, hlisted value hvalue, href⟩

theorem mem_listed_of_mem_connectionValues {value : ValueType}
    (h : value ∈ connectionValues output) : value ∈ SecretRef.listedValues output := by
  simp only [connectionValues, headerValues, List.mem_append, List.mem_singleton] at h
  rcases h with (h | rfl) | h
  · exact (mem_listed_of_mem_basicAuthValues h).1
  · simp [SecretRef.listedValues]
  · simp only [SecretRef.listedValues, List.mem_append]
    exact .inl (.inr h)

theorem mem_listed_of_mem_tlsValues {tls : OutputTLS} (htls : output.tls = some tls)
    (hsecure : tls.insecure = false) {value : ValueType} (h : value ∈ tlsValues output) :
    value ∈ SecretRef.listedValues output := by
  obtain ⟨-, tls', htls', hvalue⟩ := mem_tls_of_mem_tlsValues h
  rw [htls] at htls'
  cases htls'
  simp only [SecretRef.listedValues, htls, hsecure, Bool.false_eq_true, if_false, List.mem_append]
  exact .inr (by simpa only [List.mem_append] using hvalue)

theorem exporter_asks_listed (houtput : otlpOutput p = some output)
    (h : InsecureTLSListed lib p) (sendingQueue : SendingQueue) :
    Asks (ReadsListed p) (otlpExporterWithEnvVars lib (pipelineRef p) output sendingQueue) := by
  refine Asks.bind (Asks.mapErr ?_) fun _ => .pure _
  rw [makeOTLPExporterEnvVars_eq]
  have hconnection : Asks (ReadsListed p) (makeConnectionEnvVars lib (pipelineRef p) output) :=
    (makeConnectionEnvVars_asks lib (pipelineRef p) output).mono fun _ hread =>
      readsListed_of_reading houtput (fun _ => mem_listed_of_mem_connectionValues) hread
  intro log res hexec entry hentry
  rcases execE_bind_iff.mp hexec with ⟨e, hfail, -⟩ | ⟨data, l, l', rfl, hconn, htls⟩
  · exact hconnection log _ hfail entry hentry
  rcases List.mem_append.mp hentry with hentry | hentry
  · exact hconnection l _ hconn entry hentry
  -- the TLS values have been reached
  have hreaches := (reachesTLS_iff lib (pipelineRef p) output).mpr ⟨l, data, hconn⟩
  have hread := (makeTLSEnvVar_resolving (pipelineRef p) output data).asks l' res htls entry hentry
  obtain ⟨value, hvalue, ref, href, hentry⟩ := hread
  obtain ⟨-, tls, htlsOutput, -⟩ := mem_tls_of_mem_tlsValues hvalue
  rw [hentry]
  cases hinsecure : tls.insecure with
  | true => exact h output tls houtput htlsOutput hinsecure hreaches value hvalue ref href
  | false =>
    exact readsListed_of_reading houtput (fun _ => mem_listed_of_mem_tlsValues htlsOutput hinsecure)
      ⟨value, hvalue, ref, href, rfl⟩

theorem extension_asks_listed (houtput : otlpOutput p = some output) {oauth2 : OAuth2Options}
    (hoauth2 : output.oauth2 = some oauth2) :
    Asks (ReadsListed p) (oauth2ExtensionWithEnvVars (pipelineRef p) oauth2) :=
  (oauth2ExtensionWithEnvVars_resolving (pipelineRef p) oauth2).asks.mono fun _ hread =>
    readsListed_of_reading houtput (fun _ hv => (mem_listed_of_mem_oauth2Values hoauth2 hv).1) hread

end Coverage

/-- The exporter and the OAuth2 extension of a pipeline are built from listed Secrets, and a change
of one that changes them changes the recorded versions, exactly if the Secrets of the TLS values of
an insecure output are listed for other values. -/
theorem built_secrets_listed_iff (lib : ExporterLib) (p : OTLPPipeline) :
    (BuiltFromListed lib p ∧ VersionsDetermineBuild lib p) ↔ InsecureTLSListed lib p := by
  constructor
  · rintro ⟨hbuilt, -⟩ output tls houtput - - hreaches value hvalue ref href
    obtain ⟨l, data, hconn⟩ := (reachesTLS_iff lib (pipelineRef p) output).mp hreaches
    have hvalid : ∀ value ∈ tlsValues output, isValid (some value) :=
      fun _ hv => (mem_tls_of_mem_tlsValues hv).1
    have hresolving := makeTLSEnvVar_resolving (pipelineRef p) output data
    obtain ⟨l', envVars, htls⟩ := hresolving.reaches hvalid
    have hexec : ExecE (otlpExporterWithEnvVars lib (pipelineRef p) output (newSendingQueue 0))
        ((l ++ l') ++ []) (.ok (otlpExporter (pipelineRef p) output envVars (newSendingQueue 0),
          envVars)) := by
      refine execE_bind_iff.mpr (.inr ⟨envVars, l ++ l', [], rfl, execE_mapErr_ok_iff.mpr ?_,
        execE_pure_iff.mpr ⟨rfl, rfl⟩⟩)
      rw [makeOTLPExporterEnvVars_eq]
      exact execE_bind_iff.mpr (.inr ⟨data, l, l', rfl, hconn, htls⟩)
    obtain ⟨entry, hentry, hread⟩ := (hresolving.covers l' envVars htls value hvalue).2 ref href
    have hlisted := (hbuilt output houtput).1 (newSendingQueue 0) _ _ hexec entry (by simp [hentry])
    rwa [hread] at hlisted
  · intro h
    have hbuilt : BuiltFromListed lib p := fun output houtput =>
      ⟨exporter_asks_listed houtput h, fun _ => extension_asks_listed houtput⟩
    exact ⟨hbuilt, hbuilt.versionsDetermineBuild⟩

def caKey : ObjectKey := ⟨"default", "backend-ca"⟩

def caStore (resourceVersion ca : String) : SecretStore where
  secrets := fun key =>
    if key = caKey then some { resourceVersion := resourceVersion, data := [("ca.crt", ca)] }
    else none
  names_valid := by
    intro key secret h
    split at h
    · rename_i hkey
      subst hkey
      decide
    · cases h

def insecureCAOutput : OTLPOutput :=
  { sampleOutput with
    tls := some
      { insecure := true
        ca := some { valueFrom := some ⟨some ⟨"backend-ca", "default", "ca.crt"⟩⟩ } } }

def insecureCAPipeline : OTLPPipeline := .trace { name := "backend", output := insecureCAOutput }

def caVariable : Except GoError (OTLPExporterConfig × EnvVars) → Option String
  | .ok (_, envVars) => envVars.lookup "OTLP_TLS_CA_PEM_TRACEPIPELINE_BACKEND"
  | .error _ => none

/-- The CA of the pipeline changes, and with it the environment of the gateway, while no Secret is
listed and no version recorded. -/
theorem insecure_ca_not_recorded :
    secretRefs insecureCAPipeline = [] ∧ ¬ BuiltFromListed sampleExporterLib insecureCAPipeline ∧
      ¬ VersionsDetermineBuild sampleExporterLib insecureCAPipeline := by
  have hversions : ¬ VersionsDetermineBuild sampleExporterLib insecureCAPipeline := by
    intro h
    have hchange : VersionsChange (caStore "1" "old") (caStore "2" "new") := by
      intro key secret secret' hsecret hsecret' hversion
      dsimp only [caStore] at hsecret hsecret'
      split at hsecret
      · rename_i hkey
        rw [if_pos hkey] at hsecret'
        cases hsecret
        cases hsecret'
        cases (by decide : "1" ≠ "2") hversion
      · cases hsecret
    obtain ⟨versions, versions', hcollect, hcollect', hsame⟩ := h _ _ hchange
    cases hcollect
    cases hcollect'
    have hexporter := (hsame (fun _ => rfl) insecureCAOutput rfl).1 (newSendingQueue 256)
    have hca := congrArg caVariable hexporter
    have hold : caVariable (evalE (caStore "1" "old").answer (otlpExporterWithEnvVars
      sampleExporterLib (pipelineRef insecureCAPipeline) insecureCAOutput
        (newSendingQueue 256))) = some "old" := rfl
    have hnew : caVariable (evalE (caStore "2" "new").answer (otlpExporterWithEnvVars
      sampleExporterLib (pipelineRef insecureCAPipeline) insecureCAOutput
        (newSendingQueue 256))) = some "new" := rfl
    rw [hold, hnew] at hca
    cases (by decide : some "old" ≠ some "new") hca
  exact ⟨rfl, fun h => hversions h.versionsDetermineBuild, hversions⟩

end TelemetryManager.Gateway
