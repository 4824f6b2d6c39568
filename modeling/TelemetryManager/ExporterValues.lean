import TelemetryManager.OtlpExporter

/-! The values of an OTLP output that are resolved when its exporter is built. -/
namespace TelemetryManager.OtlpExporter

open Collector Interaction SharedTypes

def basicAuthValues (output : OTLPOutput) : List ValueType :=
  match basicAuthOf output.authentication with
  | some basic => [basic.user, basic.password]
  | none => []

def headerValues (output : OTLPOutput) : List ValueType := output.headers.map (·.toValueType)

def caValues (tls : OutputTLS) : List ValueType :=
  match tls.ca with
  | some ca => if isValid tls.ca then [ca] else []
  | none => []

def keyPairValues (tls : OutputTLS) : List ValueType :=
  match tls.cert, tls.key with
  | some cert, some key => if isValid tls.cert && isValid tls.key then [cert, key] else []
  | _, _ => []

/-- The TLS values are read whether the output is insecure or not. -/
def tlsValues (output : OTLPOutput) : List ValueType :=
  match output.tls with
  | some tls => caValues tls ++ keyPairValues tls
  | none => []

def connectionValues (output : OTLPOutput) : List ValueType :=
  basicAuthValues output ++ [output.endpoint] ++ headerValues output

def oauth2Value (value : ValueType) : List ValueType :=
  if isValid (some value) then [value] else []

def oauth2Values (oauth2 : OAuth2Options) : List ValueType :=
  oauth2Value oauth2.tokenURL ++ oauth2Value oauth2.clientID ++ oauth2Value oauth2.clientSecret

variable {output : OTLPOutput} {value : ValueType}

theorem mem_tls_of_mem_tlsValues (h : value ∈ tlsValues output) :
    isValid (some value) ∧ ∃ tls, output.tls = some tls ∧
      value ∈ tls.ca.toList ++ tls.cert.toList ++ tls.key.toList := by
  unfold tlsValues at h
  rcases htls : output.tls with _ | ⟨insecure, skip, ca, cert, key⟩
  · simp [htls] at h
  · rw [htls] at h
    rcases List.mem_append.mp h with h | h
    · unfold caValues at h
      cases ca with
      | none => simp at h
      | some ca =>
        dsimp only at h
        split at h
        · rename_i hvalid
          cases List.mem_singleton.mp h
          exact ⟨hvalid, _, rfl, by simp⟩
        · simp at h
    · unfold keyPairValues at h
      rcases cert with _ | cert
      · simp at h
      rcases key with _ | key
      · simp at h
      dsimp only at h
      split at h
      · rename_i hvalid
        rw [Bool.and_eq_true] at hvalid
        simp only [List.mem_cons, List.not_mem_nil, or_false] at h
        rcases h with rfl | rfl
        · exact ⟨hvalid.1, _, rfl, by simp⟩
        · exact ⟨hvalid.2, _, rfl, by simp⟩
      · simp at h

theorem mem_listed_of_mem_basicAuthValues (h : value ∈ basicAuthValues output) :
    value ∈ SecretRef.listedValues output ∧ isValid (some value) := by
  unfold basicAuthValues basicAuthOf at h
  cases hbasic : output.authentication.bind (·.basic) with
  | none => simp [hbasic] at h
  | some basic =>
    simp only [hbasic] at h
    by_cases hvalid : (isValid (some basic.user) && isValid (some basic.password)) = true
    · rw [if_pos hvalid] at h
      rw [Bool.and_eq_true] at hvalid
      simp only [List.mem_cons, List.not_mem_nil, or_false] at h
      rcases h with rfl | rfl
      · exact ⟨by simp [SecretRef.listedValues, hbasic], hvalid.1⟩
      · exact ⟨by simp [SecretRef.listedValues, hbasic], hvalid.2⟩
    · rw [if_neg hvalid] at h
      simp at h

theorem mem_listed_of_mem_oauth2Values {oauth2 : OAuth2Options}
    (hoauth2 : output.oauth2 = some oauth2)
    (h : value ∈ oauth2Values oauth2) :
    value ∈ SecretRef.listedValues output ∧ isValid (some value) := by
  have hone : ∀ candidate, value ∈ oauth2Value candidate →
      value = candidate ∧ isValid (some value) := by
    intro candidate hmem
    unfold oauth2Value at hmem
    split at hmem
    · rename_i hvalid
      cases List.mem_singleton.mp hmem
      exact ⟨rfl, hvalid⟩
    · simp at hmem
  simp only [oauth2Values, List.mem_append] at h
  rcases h with (h | h) | h <;> obtain ⟨rfl, hvalid⟩ := hone _ h <;>
    exact ⟨by simp [SecretRef.listedValues, hoauth2], hvalid⟩

section Resolving

variable (lib : ExporterLib) (r : PipelineRef) (output : OTLPOutput) (secretData : EnvVars)

theorem makeBasicAuthEnvVar_resolving :
    Resolving (basicAuthValues output) (makeBasicAuthEnvVar lib r output secretData) := by
  unfold makeBasicAuthEnvVar basicAuthValues
  cases basicAuthOf output.authentication with
  | none => exact .pure _
  | some basic =>
    exact (Resolving.resolveValue basic.user).bind fun _ =>
      (Resolving.resolveValue basic.password).bind fun _ => .pure _

theorem makeHeaderEnvVar_resolving (headers : List Header) :
    Resolving (headers.map (·.toValueType)) (makeHeaderEnvVar r headers secretData) := by
  induction headers generalizing secretData with
  | nil => exact .pure _
  | cons header headers ih => exact (Resolving.resolveValue header.toValueType).bind fun _ => ih _

theorem makeTLSEnvVar_resolving :
    Resolving (tlsValues output) (makeTLSEnvVar r output secretData) := by
  unfold makeTLSEnvVar tlsValues
  rcases output.tls with _ | ⟨insecure, insecureSkipVerify, ca, cert, key⟩
  · exact .pure _
  · have hpair : ∀ data : EnvVars, Resolving
        (keyPairValues ⟨insecure, insecureSkipVerify, ca, cert, key⟩)
        (match cert, key with
          | some certValue, some keyValue =>
            if isValid cert && isValid key then do
              let cert ← SharedTypes.resolveValue certValue
              let key ← SharedTypes.resolveValue keyValue
              pure ((data.insert (formatEnvVarKey tlsConfigCertVariablePrefix r)
                  (Text.replaceAll cert "\\n" "\n")).insert
                (formatEnvVarKey tlsConfigKeyVariablePrefix r) (Text.replaceAll key "\\n" "\n"))
            else pure data
          | _, _ => pure data : Client EnvVars) := by
      intro data
      unfold keyPairValues
      rcases cert with _ | cert
      · exact .pure _
      rcases key with _ | key
      · exact .pure _
      dsimp only
      split
      · exact (Resolving.resolveValue cert).bind fun _ =>
          (Resolving.resolveValue key).bind fun _ => .pure _
      · exact .pure _
    unfold caValues
    rcases ca with _ | ca
    · exact (Resolving.pure secretData).bind hpair
    · dsimp only
      split
      · exact (Resolving.resolveValue ca).bind fun _ => (Resolving.pure _).bind hpair
      · exact (Resolving.pure secretData).bind hpair

theorem makeOAuth2EnvVar_resolving (variablePrefix : String) (value : ValueType) :
    Resolving (oauth2Value value) (makeOAuth2EnvVar r variablePrefix value secretData) := by
  unfold makeOAuth2EnvVar oauth2Value
  split
  · exact (Resolving.resolveValue value).bind fun _ => .pure _
  · exact .pure _

theorem oauth2ExtensionWithEnvVars_resolving (oauth2 : OAuth2Options) :
    Resolving (oauth2Values oauth2) (oauth2ExtensionWithEnvVars r oauth2) := by
  have hvars : Resolving (oauth2Values oauth2) (makeOAuth2ExtensionEnvVars r oauth2) := by
    rw [oauth2Values, List.append_assoc]
    exact (makeOAuth2EnvVar_resolving r _ _ _).bind fun _ =>
      (makeOAuth2EnvVar_resolving r _ _ _).bind fun _ => makeOAuth2EnvVar_resolving r _ _ _
  rw [← List.append_nil (oauth2Values oauth2)]
  exact (hvars.mapErr _).bind fun _ => .pure _

/-- The endpoint and the path of the output are URLs, if there is a path. -/
def PathJoins (text : String) : Prop :=
  output.path ≠ "" → (∃ u, lib.parse text = .ok u) ∧ ∃ u, lib.parse output.path = .ok u

variable {log : ApiLog}

theorem resolveEndpointURL_exec {res : Except GoError String}
    (h : ExecE (resolveEndpointURL lib output) log res) :
    ∃ r', ExecE (resolveValue output.endpoint) log r' ∧
      ((∃ url, res = .ok url) ↔ ∃ text, r' = .ok text ∧ PathJoins lib output text) := by
  unfold resolveEndpointURL at h
  rcases execE_bind_iff.mp h with ⟨e, hx, rfl⟩ | ⟨text, l, l', rfl, hx, hrest⟩
  · exact ⟨_, hx, by simp⟩
  · have hend : l' = [] ∧ ((∃ url, res = .ok url) ↔ PathJoins lib output text) := by
      unfold PathJoins
      by_cases hpath : output.path = ""
      · rw [if_pos hpath] at hrest
        obtain ⟨rfl, rfl⟩ := execE_pure_iff.mp hrest
        simp [hpath]
      · rw [if_neg hpath] at hrest
        cases hparse : lib.parse text with
        | error err =>
          rw [hparse] at hrest
          obtain ⟨rfl, rfl⟩ := execE_throw_iff.mp hrest
          simp [hpath]
        | ok u =>
          rw [hparse] at hrest
          dsimp only at hrest
          cases hparse' : lib.parse output.path with
          | error err =>
            rw [hparse'] at hrest
            obtain ⟨rfl, rfl⟩ := execE_throw_iff.mp hrest
            simp [hpath]
          | ok pathRef =>
            rw [hparse'] at hrest
            obtain ⟨rfl, rfl⟩ := execE_pure_iff.mp hrest
            simp [hpath]
    refine ⟨.ok text, by simpa [hend.1] using hx, hend.2.trans ?_⟩
    simp

theorem exists_resolveEndpointURL_exec {text : String}
    (h : ExecE (resolveValue output.endpoint) log (.ok text)) (hjoins : PathJoins lib output text) :
    ∃ url, ExecE (resolveEndpointURL lib output) log (.ok url) := by
  by_cases hpath : output.path = ""
  · exact ⟨text, execE_bind_iff.mpr (.inr ⟨text, log, [], by simp, h, by simp [hpath]⟩)⟩
  · obtain ⟨⟨⟨u, query⟩, hu⟩, ⟨pathRef, rawQuery⟩, hpathRef⟩ := hjoins hpath
    refine ⟨lib.urlString { u with path := lib.pathJoin u.path pathRef.path } rawQuery,
      execE_bind_iff.mpr (.inr ⟨text, log, [], by simp, h, ?_⟩)⟩
    simp [hpath, hu, hpathRef]

theorem succeeds_resolveEndpointURL_iff (answer : ApiTable) :
    Succeeds answer (resolveEndpointURL lib output) ↔
      ∃ text, evalE answer (resolveValue output.endpoint) = .ok text ∧
        PathJoins lib output text := by
  obtain ⟨log, hexec, hlog⟩ := execE_evalE answer (resolveEndpointURL lib output)
  obtain ⟨r', hresolve, hiff⟩ := resolveEndpointURL_exec lib output hexec
  rw [hresolve.eq_evalE hlog] at hiff
  exact hiff

def makeConnectionEnvVars : Client EnvVars := do
  let secretData ← makeBasicAuthEnvVar lib r output ∅
  let secretData ← makeOTLPEndpointEnvVar lib r output secretData
  makeHeaderEnvVar r output.headers secretData

theorem makeOTLPExporterEnvVars_eq :
    makeOTLPExporterEnvVars lib r output =
      makeConnectionEnvVars lib r output >>= makeTLSEnvVar r output := by
  simp [makeOTLPExporterEnvVars, makeConnectionEnvVars]

theorem makeConnectionEnvVars_asks :
    Asks (Reading (connectionValues output)) (makeConnectionEnvVars lib r output) := by
  unfold connectionValues
  refine Asks.bind ((makeBasicAuthEnvVar_resolving lib r output _).asks.mono fun _ h =>
    h.mono fun _ hv => by simp [hv]) fun _ => ?_
  refine Asks.bind (Asks.bind ?_ fun _ => .pure _) fun _ =>
    (makeHeaderEnvVar_resolving r _ output.headers).asks.mono fun _ h =>
      h.mono fun _ hv => List.mem_append_right _ hv
  intro log res hexec entry hentry
  obtain ⟨r', hresolve, -⟩ := resolveEndpointURL_exec lib output hexec
  exact ((Resolving.resolveValue output.endpoint).asks log r' hresolve entry hentry).mono
    fun _ hv => by simp_all

/-- A successful execution has asked for all Secrets and parsed the path. -/
theorem makeConnectionEnvVars_covers {envVars : EnvVars}
    (h : ExecE (makeConnectionEnvVars lib r output) log (.ok envVars)) :
    Covers (connectionValues output) log ∧
      ∃ text l, ExecE (resolveValue output.endpoint) l (.ok text) ∧ PathJoins lib output text := by
  rcases execE_bind_iff.mp h with ⟨e, -, he⟩ | ⟨data, l, l', rfl, hbasic, hrest⟩
  · cases he
  rcases execE_bind_iff.mp hrest with ⟨e, -, he⟩ | ⟨data', m, m', rfl, hendpoint, hheaders⟩
  · cases he
  rcases execE_bind_iff.mp hendpoint with ⟨e, -, he⟩ | ⟨url, n, n', rfl, hurl, hinsert⟩
  · cases he
  obtain ⟨rfl, -⟩ := execE_pure_iff.mp hinsert
  obtain ⟨r', hresolve, hiff⟩ := resolveEndpointURL_exec lib output hurl
  obtain ⟨text, rfl, hjoins⟩ := hiff.mp ⟨url, rfl⟩
  have hcovers := ((makeBasicAuthEnvVar_resolving lib r output _).covers _ _ hbasic).append
    (((Resolving.resolveValue output.endpoint).covers _ _ hresolve).append
      ((makeHeaderEnvVar_resolving r _ output.headers).covers _ _ hheaders))
  refine ⟨?_, text, n, hresolve, hjoins⟩
  simpa [connectionValues, headerValues, List.append_assoc] using hcovers

/-- The build can get as far as the TLS values: the values in front of them are valid, and the
endpoint, or some text that its Secret may hold, goes with the path. -/

def ReachesTLS : Prop :=
  (∀ value ∈ connectionValues output, isValid (some value)) ∧
    ∃ text, (output.endpoint.value ≠ "" → text = output.endpoint.value) ∧ PathJoins lib output text

theorem reachesTLS_iff : ReachesTLS lib output ↔
    ∃ log envVars, ExecE (makeConnectionEnvVars lib r output) log (.ok envVars) := by
  constructor
  · rintro ⟨hvalid, text, htext, hjoins⟩
    simp only [connectionValues, List.forall_mem_append, List.forall_mem_singleton] at hvalid
    obtain ⟨l, data, hbasic⟩ := (makeBasicAuthEnvVar_resolving lib r output ∅).reaches hvalid.1.1
    obtain ⟨m, hresolve⟩ := exists_resolveValue_exec text hvalid.1.2 htext
    obtain ⟨url, hurl⟩ := exists_resolveEndpointURL_exec lib output hresolve hjoins
    obtain ⟨n, envVars, hheaders⟩ := (makeHeaderEnvVar_resolving r (data.insert
      (formatEnvVarKey otlpEndpointVariablePrefix r) url) output.headers).reaches hvalid.2
    refine ⟨l ++ ((m ++ []) ++ n), envVars, execE_bind_iff.mpr (.inr ⟨data, l, _, rfl, hbasic, ?_⟩)⟩
    refine execE_bind_iff.mpr (.inr ⟨_, m ++ [], n, rfl, ?_, hheaders⟩)
    exact execE_bind_iff.mpr (.inr ⟨url, m, [], rfl, hurl, execE_pure_iff.mpr ⟨rfl, rfl⟩⟩)
  · rintro ⟨log, envVars, hexec⟩
    obtain ⟨hcovers, text, l, hresolve, hjoins⟩ := makeConnectionEnvVars_covers lib r output hexec
    exact ⟨fun value hvalue => (hcovers value hvalue).1, text, resolveValue_exec_text hresolve,
      hjoins⟩

variable {answer : ApiTable}

theorem succeeds_makeConnectionEnvVars_iff :
    Succeeds answer (makeConnectionEnvVars lib r output) ↔
      (∀ value ∈ connectionValues output, Succeeds answer (resolveValue value)) ∧
      ∀ text, evalE answer (resolveValue output.endpoint) = .ok text →
        PathJoins lib output text := by
  have hendpoint : ∀ data, Succeeds answer (makeOTLPEndpointEnvVar lib r output data) ↔
      Succeeds answer (resolveValue output.endpoint) ∧
      ∀ text, evalE answer (resolveValue output.endpoint) = .ok text →
        PathJoins lib output text := by
    intro data
    rw [makeOTLPEndpointEnvVar, succeeds_bind_of (P := True) fun _ => by simp, and_true,
      succeeds_resolveEndpointURL_iff]
    constructor
    · rintro ⟨text, htext, hjoins⟩
      refine ⟨⟨text, htext⟩, fun text' htext' => ?_⟩
      rw [htext] at htext'
      cases htext'
      exact hjoins
    · rintro ⟨⟨text, htext⟩, hjoins⟩
      exact ⟨text, htext, hjoins text htext⟩
  have hrest : ∀ data, Succeeds answer
      (makeOTLPEndpointEnvVar lib r output data >>= makeHeaderEnvVar r output.headers) ↔ _ :=
    fun data => (succeeds_bind_of fun data' =>
      (makeHeaderEnvVar_resolving r data' output.headers).succeeds_iff answer).trans
        (and_congr_left' (hendpoint data))
  refine (succeeds_bind_of hrest).trans ?_
  rw [(makeBasicAuthEnvVar_resolving lib r output ∅).succeeds_iff answer]
  simp only [connectionValues, headerValues, List.forall_mem_append, List.forall_mem_singleton]
  tauto

theorem succeeds_otlpExporterWithEnvVars_iff {sendingQueue : SendingQueue} :
    Succeeds answer (otlpExporterWithEnvVars lib r output sendingQueue) ↔
      (∀ value ∈ connectionValues output ++ tlsValues output,
        Succeeds answer (resolveValue value)) ∧
      ∀ text, evalE answer (resolveValue output.endpoint) = .ok text →
        PathJoins lib output text := by
  rw [otlpExporterWithEnvVars, succeeds_bind_of (P := True) fun _ => by simp, and_true,
    succeeds_mapErr_iff, makeOTLPExporterEnvVars_eq,
    succeeds_bind_of fun data => (makeTLSEnvVar_resolving r output data).succeeds_iff answer,
    succeeds_makeConnectionEnvVars_iff, List.forall_mem_append]
  tauto

end Resolving
end TelemetryManager.OtlpExporter
