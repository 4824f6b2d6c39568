import TelemetryManager.GatewayAdmission
import TelemetryManager.GatewayEnvironment
import TelemetryManager.Library.Placeholder
import TelemetryManager.TlsMaterial

/-! The placeholders of exporters and OAuth2 extensions, and the variables set for them. -/
namespace TelemetryManager.Gateway

open Assignment Collector Interaction OtlpExporter Placeholder SharedTypes

theorem isVariableChar_envChar {c : Char} (h : c = '.' ∨ isNameChar c) :
    isVariableChar (envChar c) := by
  have hascii : ∀ n < 123, Char.ofNat n = '.' ∨ isNameChar (Char.ofNat n) →
      isVariableChar (envChar (Char.ofNat n)) := by
    decide +kernel
  have hval : c.toNat < 123 := by
    rcases h with rfl | h
    · decide
    · exact Nat.lt_succ_of_le (val_of_isNameChar h).2
  have hchar := hascii c.toNat hval
  rw [Char.ofNat_toNat] at hchar
  exact hchar h

theorem isVariableName_key {r : PipelineRef} (hname : isDNS1123Subdomain r.name) {f : Field}
    (hf : f.subject r = r.name) : isVariableName (f.key r).toList := by
  have hvariable : ∀ text ∈ variablePrefixes, isVariableName text.toList := by decide
  have htype : ∀ signal : SignalType,
      ((signal.text ++ "pipeline").toList.map envChar).all isVariableChar = true := by
    intro signal
    cases signal <;> decide
  have hsubject : ((f.subject r).toList.map envChar).all isVariableChar = true := by
    rw [hf, List.all_map, List.all_eq_true]
    exact fun c hc => isVariableChar_envChar (isNameChar_of_isDNS1123Subdomain hname c hc)
  rw [Field.toList_key]
  refine isVariableName_append (hvariable _ f.variablePrefix_mem) ?_
  rw [List.all_cons, List.all_append, List.all_cons, PipelineRef.typePrefix, htype, hsubject]
  decide

section Build

variable {lib : ExporterLib} {answer : ApiTable} {p : OTLPPipeline}
  {output : OTLPOutput} {exporter : OTLPExporterConfig} {extension : Option ExtensionConfig}
  {env : EnvVars} {r : PipelineRef} {f : Field}

inductive Built (lib : ExporterLib) (answer : ApiTable) (p : OTLPPipeline)
    (output : OTLPOutput) : OTLPExporterConfig → Option ExtensionConfig → EnvVars → Prop
  | plain {sendingQueue : SendingQueue} {exporter : OTLPExporterConfig} {env : EnvVars}
      (hoauth2 : output.oauth2 = none)
      (hexporter : evalE answer (otlpExporterWithEnvVars lib (pipelineRef p) output sendingQueue) =
        .ok (exporter, env)) :
      Built lib answer p output exporter none env
  | oauth2 {oauth2 : OAuth2Options} {sendingQueue : SendingQueue} {exporter : OTLPExporterConfig}
      {extension : ExtensionConfig} {env env' : EnvVars}
      (hoauth2 : output.oauth2 = some oauth2)
      (hextension : evalE answer (oauth2ExtensionWithEnvVars (pipelineRef p) oauth2) =
        .ok (extension, env))
      (hexporter : evalE answer (otlpExporterWithEnvVars lib (pipelineRef p) output sendingQueue) =
        .ok (exporter, env')) :
      Built lib answer p output exporter (some extension) (copy env env')

def setVariables (lib : ExporterLib) (r : PipelineRef) (output : OTLPOutput) : List String :=
  ((outputFields output).filter fun f => (f.program lib output).isSome).map (Field.key r)

theorem Built.mem_iff (houtput : otlpOutput p = some output)
    (h : Built lib answer p output exporter extension env) {k : String} :
    k ∈ env ↔ k ∈ setVariables lib (pipelineRef p) output := by
  have hkeys : k ∈ setVariables lib (pipelineRef p) output ↔
      ∃ x ∈ positions lib p output (outputFields output), x.key = k := by
    simp [setVariables, positions, Position.key]
  rw [hkeys]
  have hsplit : positions lib p output (outputFields output) =
      positions lib p output extensionFields ++ positions lib p output (exporterFields output) := by
    simp [positions, outputFields]
  rw [hsplit]
  cases h with
  | plain hoauth2 hexporter =>
    have hnone : positions lib p output extensionFields = [] := by
      simp [positions, extensionFields, Field.program, Field.oauth2Program, hoauth2]
    rw [hnone, List.nil_append]
    have hfilled := assignAll_filled houtput (Filled.empty _ _) (exporterWithEnvVars_ok hexporter)
    rw [List.nil_append] at hfilled
    exact hfilled.mem_iff
  | oauth2 hoauth2 hextension hexporter =>
    have hfirst := assignAll_filled houtput (Filled.empty _ _)
      (extensionWithEnvVars_ok lib hoauth2 hextension)
    have hsecond := assignAll_filled houtput (Filled.empty _ _) (exporterWithEnvVars_ok hexporter)
    rw [List.nil_append] at hfirst hsecond
    exact (hfirst.copy hsecond).mem_iff

theorem Built.exporter_eq (h : Built lib answer p output exporter extension env) :
    ∃ env' sendingQueue, exporter = otlpExporter (pipelineRef p) output env' sendingQueue := by
  have hone : ∀ {sendingQueue exporter env'},
      evalE answer (otlpExporterWithEnvVars lib (pipelineRef p) output sendingQueue) =
        .ok (exporter, env') →
      exporter = otlpExporter (pipelineRef p) output env' sendingQueue := by
    intro sendingQueue exporter env' heval
    obtain ⟨vars, -, hresult⟩ := evalE_bind_ok_iff.mp heval
    cases hresult
    rfl
  cases h with
  | plain hoauth2 hexporter | oauth2 hoauth2 hextension hexporter => exact ⟨_, _, hone hexporter⟩

theorem Built.extension_eq (h : Built lib answer p output exporter extension env) :
    extension = output.oauth2.map (oauth2Extension (pipelineRef p)) := by
  cases h with
  | plain hoauth2 hexporter => rw [hoauth2, Option.map_none]
  | oauth2 hoauth2 hextension hexporter =>
    obtain ⟨vars, -, hresult⟩ := evalE_bind_ok_iff.mp hextension
    cases hresult
    rw [hoauth2, Option.map_some]

/-- The variable of a field that is not a header is set for this field only. -/
theorem key_mem_setVariables_iff (hf : f.subject r = r.name) :
    f.key r ∈ setVariables lib r output ↔ (f.program lib output).isSome := by
  have hheader : ∀ header, f ≠ .header header := by
    rintro header rfl
    have hlength := congrArg String.length hf
    have hdash : "-".length = 1 := rfl
    simp [Field.subject] at hlength
    omega
  simp only [setVariables, List.mem_map, List.mem_filter]
  constructor
  · rintro ⟨g, ⟨-, hset⟩, hkey⟩
    rcases Field.same_kind (Field.key_eq_iff.mp hkey).1 with ⟨rfl, -⟩ | ⟨_, header, -, heq⟩
    · exact hset
    · exact absurd heq (hheader header)
  · intro hset
    refine ⟨f, ⟨?_, hset⟩, rfl⟩
    cases f with
    | header header => exact absurd rfl (hheader header)
    | _ => simp [outputFields, extensionFields, exporterFields]

end Build

/-- The texts of an exporter. Durations and the names of units have no placeholders. -/
def exporterTexts (config : OTLPExporterConfig) : List String :=
  [config.metricsEndpoint, config.tracesEndpoint, config.logsEndpoint, config.endpoint,
    config.tls.certPem, config.tls.keyPem, config.tls.caPem, config.compression,
    config.authenticator] ++ config.headers.entries.map (·.2)

def extensionTexts : ExtensionConfig → List String
  | .oauth2 tokenURL clientID clientSecret scopes params =>
    [tokenURL, clientID, clientSecret] ++ (scopes ++ params.map (·.2))
  | _ => []

/-- The texts that read the variables of the headers. The name of a header is part of its
variable. -/
def headerRefs (r : PipelineRef) (output : OTLPOutput) : List String :=
  output.headers.map fun header => Placeholder.ref (formatHeaderEnvVarKey header r)

def oauth2Texts (oauth2 : OAuth2Options) : List String :=
  oauth2.scopes ++ oauth2.params.map (·.2)

def Defined (e : Expansion) (variableNames : List String) (text : String) : Prop :=
  ∀ name ∈ e.names text, name ∈ variableNames

section Texts

variable {e : Expansion} {lib : ExporterLib} {answer : ApiTable}
  {p : OTLPPipeline} {output : OTLPOutput} {r : PipelineRef} {f : Field}

theorem defined_of_verbatim {variableNames : List String} {text : String}
    (h : '$' ∉ text.toList) : Defined e variableNames text := by
  rw [Defined, e.names_verbatim text h]
  simp

theorem defined_ref_iff (hname : isDNS1123Subdomain r.name) (hf : f.subject r = r.name) :
    Defined e (setVariables lib r output) (Placeholder.ref (f.key r)) ↔
      (f.program lib output).isSome := by
  have hnames : e.names (Placeholder.ref (f.key r)) = [f.key r] :=
    e.names_ref _ (isVariableName_key hname hf)
  rw [Defined, hnames, List.forall_mem_singleton, key_mem_setVariables_iff hf]

theorem pemRef_defined (hname : isDNS1123Subdomain r.name) (hf : f.subject r = r.name)
    {variableName : String} (hkey : formatEnvVarKey variableName r = f.key r)
    {value : Option ValueType}
    (h : isValid value → (f.program lib output).isSome) :
    Defined e (setVariables lib r output) (pemRef r value variableName) := by
  unfold pemRef
  by_cases hvalid : isValid value
  · rw [if_pos hvalid, hkey, defined_ref_iff hname hf]
    exact h hvalid
  · rw [if_neg hvalid]
    exact defined_of_verbatim (by simp)

/-- A header reads its own variable; the header of the basic authentication can be replaced by one
of the user. -/
theorem mem_headers_cases {text : String} (h : text ∈ (headers r output).entries.map (·.2)) :
    (isBasicAuthEnabled output.authentication ∧
      text = Placeholder.ref (Field.basicAuthHeader.key r)) ∨ text ∈ headerRefs r output := by
  obtain ⟨⟨k, value⟩, hentry, rfl⟩ := List.mem_map.mp h
  have hlookup : (headers r output).lookup k = some value := AList.mem_lookup_iff.mpr hentry
  rw [headers, ← fill, lookup_fill, Option.or_eq_some_iff] at hlookup
  rcases hlookup with hheader | ⟨-, hbasic⟩
  · obtain ⟨header, hlast, hvalue⟩ := Option.map_eq_some_iff.mp hheader
    exact .inr (List.mem_map.mpr ⟨header, (last_mem hlast).1, hvalue⟩)
  · by_cases henabled : isBasicAuthEnabled output.authentication
    · rw [if_pos henabled] at hbasic
      by_cases hk : k = "Authorization"
      · rw [hk, AList.lookup_insert] at hbasic
        cases hbasic
        exact .inl ⟨henabled, rfl⟩
      · rw [AList.lookup_insert_ne hk] at hbasic
        cases hbasic
    · rw [if_neg henabled] at hbasic
      cases hbasic

theorem headerRefs_subset : headerRefs r output ⊆ (headers r output).entries.map (·.2) := by
  intro text htext
  obtain ⟨header, hheader, rfl⟩ := List.mem_map.mp htext
  obtain ⟨other, hlast⟩ : ∃ other, last Header.name header.name output.headers = some other :=
    exists_last hheader
  have hlookup : (headers r output).lookup header.name =
      some (Placeholder.ref (formatHeaderEnvVarKey header r)) := by
    rw [headers, ← fill, lookup_fill, hlast]
    simp [formatHeaderEnvVarKey, (last_mem hlast).2]
  exact List.mem_map.mpr ⟨_, AList.mem_lookup_iff.mp hlookup, rfl⟩

theorem authenticator_verbatim (hname : isDNS1123Subdomain r.name) :
    '$' ∉ (componentIDOAuth2Extension r).toList := by
  have htype : ∀ signal : SignalType, '$' ∉ (signal.text ++ "pipeline").toList := by
    intro signal
    cases signal <;> decide
  have hnot : '$' ∉ r.name.toList := notMem_of_isDNS1123Subdomain hname (by decide)
  have hfixed : '$' ∉ "oauth2client/".toList := by decide
  have hdash : '$' ∉ "-".toList := by decide
  simp only [componentIDOAuth2Extension, PipelineRef.qualifiedName, PipelineRef.typePrefix,
    String.toList_append, List.mem_append, not_or] at htype ⊢
  exact ⟨hfixed, ⟨htype r.signalType, hdash⟩, hnot⟩

theorem program_tlsCa {tls : OutputTLS} (htls : output.tls = some tls)
    (h : isValid tls.ca) : (Field.tlsCa.program lib output).isSome := by
  obtain ⟨insecure, skip, ca, cert, key⟩ := tls
  cases ca with
  | none => cases h
  | some ca =>
    have hvalid : isValid (some ca) := h
    simp [Field.program, htls, hvalid]

theorem keyPairProgram_isSome {tls : OutputTLS} (htls : output.tls = some tls)
    (hcert : isValid tls.cert) (hkey : isValid tls.key)
    (select : ValueType → ValueType → ValueType) :
    (Field.keyPairProgram output select).isSome := by
  obtain ⟨insecure, skip, ca, cert, key⟩ := tls
  cases cert with
  | none => cases hcert
  | some cert =>
    cases key with
    | none => cases hkey
    | some key =>
      have hvalid : (isValid (some cert) && isValid (some key)) = true :=
        Bool.and_eq_true_iff.mpr ⟨hcert, hkey⟩
      simp [Field.keyPairProgram, htls, hvalid]

variable (e lib) in
theorem tls_defined (hname : isDNS1123Subdomain r.name)
    (hpair : ∀ tls, output.tls = some tls → isValid tls.cert = isValid tls.key)
    (endpoint : String) :
    ∀ text ∈ [(tls r output endpoint).certPem, (tls r output endpoint).keyPem,
      (tls r output endpoint).caPem], Defined e (setVariables lib r output) text := by
  unfold tls
  cases htls : output.tls with
  | none => simp [defined_of_verbatim]
  | some tls =>
    have hsame := hpair tls htls
    simp only [List.forall_mem_cons, List.not_mem_nil, false_implies, implies_true, and_true]
    refine ⟨?_, ?_, ?_⟩
    · exact pemRef_defined (f := .tlsCert) hname rfl rfl fun h =>
        keyPairProgram_isSome htls h (hsame ▸ h) _
    · exact pemRef_defined (f := .tlsKey) hname rfl rfl fun h =>
        keyPairProgram_isSome htls (hsame.trans h) h _
    · exact pemRef_defined (f := .tlsCa) hname rfl rfl fun h => program_tlsCa htls h

theorem basicAuth_defined (hname : isDNS1123Subdomain r.name)
    (h : isBasicAuthEnabled output.authentication) :
    Defined e (setVariables lib r output) (Placeholder.ref (Field.basicAuthHeader.key r)) := by
  rw [defined_ref_iff hname rfl]
  obtain ⟨basic, hbasic⟩ := Option.isSome_iff_exists.mp h
  simp [Field.program, hbasic]

variable (e lib) in
/-- In the exporter, only the names of headers can make up placeholders without variable. -/
theorem exporter_defined_iff (hname : isDNS1123Subdomain r.name)
    (hpair : ∀ tls, output.tls = some tls → isValid tls.cert = isValid tls.key)
    (env : EnvVars) (sendingQueue : SendingQueue) :
    (∀ text ∈ exporterTexts (otlpExporter r output env sendingQueue),
      Defined e (setVariables lib r output) text) ↔
    ∀ text ∈ headerRefs r output, Defined e (setVariables lib r output) text := by
  have hempty : Defined e (setVariables lib r output) "" := defined_of_verbatim (by simp)
  have hendpoint : ∀ (c : Prop) [Decidable c], Defined e (setVariables lib r output)
      (if c then Placeholder.ref (formatEnvVarKey otlpEndpointVariablePrefix r) else "") := by
    intro c hc
    split
    · exact (defined_ref_iff (f := .endpoint) hname rfl).mpr rfl
    · exact hempty
  have hcompression : ∀ compression, '$' ∉ (compressionText compression).toList := by
    rintro (_ | _ | _ | _ | _) <;> decide
  constructor
  · intro h text htext
    exact h text (List.mem_append_right _ (headerRefs_subset htext))
  · intro h text htext
    rcases List.mem_append.mp htext with htext | htext
    · have htls := tls_defined e lib hname hpair
        ((env.lookup (formatEnvVarKey otlpEndpointVariablePrefix r)).getD "")
      simp only [List.forall_mem_cons] at htls
      simp only [otlpExporter, List.mem_cons, List.not_mem_nil, or_false] at htext
      rcases htext with rfl | rfl | rfl | rfl | rfl | rfl | rfl | rfl | rfl
      · exact hendpoint _
      · exact hendpoint _
      · exact hendpoint _
      · rw [← ite_not]
        exact hendpoint _
      · exact htls.1
      · exact htls.2.1
      · exact htls.2.2.1
      · exact defined_of_verbatim (hcompression _)
      · split
        · exact defined_of_verbatim (authenticator_verbatim hname)
        · exact hempty
    · rcases mem_headers_cases htext with ⟨henabled, rfl⟩ | hheader
      · exact basicAuth_defined hname henabled
      · exact h text hheader

/-- In the extension, the placeholders of invalid fields have no variable either. -/
theorem extension_defined_iff (hname : isDNS1123Subdomain r.name) {oauth2 : OAuth2Options}
    (hoauth2 : output.oauth2 = some oauth2) :
    (∀ text ∈ extensionTexts (oauth2Extension r oauth2),
      Defined e (setVariables lib r output) text) ↔
    (isValid (some oauth2.tokenURL) ∧ isValid (some oauth2.clientID) ∧
      isValid (some oauth2.clientSecret)) ∧
    ∀ text ∈ oauth2Texts oauth2, Defined e (setVariables lib r output) text := by
  have hfield : ∀ (f : Field) (select : OAuth2Options → ValueType), f.subject r = r.name →
      f.program lib output = Field.oauth2Program output select →
      (Defined e (setVariables lib r output) (Placeholder.ref (f.key r)) ↔
        isValid (some (select oauth2))) := by
    intro f select hf hprogram
    rw [defined_ref_iff hname hf, hprogram, Field.oauth2Program, hoauth2]
    by_cases hvalid : isValid (some (select oauth2)) = true <;> simp [hvalid]
  rw [← hfield .tokenURL (·.tokenURL) rfl rfl, ← hfield .clientID (·.clientID) rfl rfl,
    ← hfield .clientSecret (·.clientSecret) rfl rfl]
  simp only [oauth2Extension, extensionTexts, List.cons_append, List.nil_append,
    List.forall_mem_cons, oauth2Texts, and_assoc]
  rfl

/-- Certificate and key of a validated pipeline are given together, and both can be read. -/
theorem Validated.keyPair {v : Reconcilable.Validator} (hrules : PipelineRules p)
    (hvalid : Validated v answer p) (houtput : otlpOutput p = some output) {tls : OutputTLS}
    (htls : output.tls = some tls) : isValid tls.cert = isValid tls.key := by
  have htogether := ((outputRules_of hrules houtput).tls tls htls).1
  have hresolves := hvalid.tls_resolves houtput htls
  obtain ⟨insecure, skip, ca, cert, key⟩ := tls
  cases cert with
  | none =>
    cases key with
    | none => rfl
    | some key => cases htogether
  | some cert =>
    cases key with
    | none => cases htogether
    | some key =>
      obtain ⟨certText, hcert⟩ := hresolves cert (by simp)
      obtain ⟨keyText, hkey⟩ := hresolves key (by simp)
      exact (TlsMaterial.isValid_of_resolved hcert).trans
        (TlsMaterial.isValid_of_resolved hkey).symm

end Texts

/-- The texts of the configurations that depend on texts of the user. -/
def userTexts (r : PipelineRef) (output : OTLPOutput) : List String :=
  headerRefs r output ++ output.oauth2.toList.flatMap oauth2Texts

/-- All placeholders of the exporter and of the extension of an accepted pipeline are among its
variables exactly if no OAuth2 field has an empty text, and the texts of the user contain no other
placeholders. -/
theorem placeholders_defined_iff (e : Expansion) (lib : ExporterLib) (v : Reconcilable.Validator)
    (answer : ApiTable) (p : OTLPPipeline) (output : OTLPOutput)
    (exporter : OTLPExporterConfig) (extension : Option ExtensionConfig) (env : EnvVars)
    (hname : isDNS1123Subdomain (pipelineRef p).name) (hrules : PipelineRules p)
    (hvalid : Validated v answer p) (houtput : otlpOutput p = some output)
    (hbuilt : Built lib answer p output exporter extension env) :
    (∀ text ∈ exporterTexts exporter ++ extension.toList.flatMap extensionTexts,
      ∀ name ∈ e.names text, name ∈ env) ↔
    (∀ oauth2, output.oauth2 = some oauth2 →
      ∀ value ∈ [oauth2.tokenURL, oauth2.clientID, oauth2.clientSecret],
        value.value ≠ "" ∨ value.valueFrom.isSome) ∧
    ∀ text ∈ userTexts (pipelineRef p) output,
      Defined e (setVariables lib (pipelineRef p) output) text := by
  obtain ⟨env', sendingQueue, rfl⟩ := hbuilt.exporter_eq
  have hdefined : ∀ text, (∀ name ∈ e.names text, name ∈ env) ↔
      Defined e (setVariables lib (pipelineRef p) output) text :=
    fun text => forall₂_congr fun name _ => hbuilt.mem_iff houtput
  have hexporter := exporter_defined_iff e lib hname
    (fun tls htls => hvalid.keyPair hrules houtput htls) env' sendingQueue
  simp only [hdefined, hbuilt.extension_eq, List.forall_mem_append, userTexts]
  rw [hexporter]
  cases hoauth2 : output.oauth2 with
  | none => simp
  | some oauth2 =>
    obtain ⟨auth, hauth, hoptions⟩ := Option.bind_eq_some_iff.mp hoauth2
    obtain ⟨htoken, hid, hsecret⟩ :=
      (outputRules_of hrules houtput).oauth2 auth oauth2 hauth hoptions
    simp only [Option.map_some, Option.toList_some, List.flatMap_singleton, Option.some.injEq,
      forall_eq', List.forall_mem_cons, List.not_mem_nil, false_implies, implies_true, and_true]
    rw [extension_defined_iff hname hoauth2, htoken.isValid_iff, hid.isValid_iff,
      hsecret.isValid_iff]
    exact and_left_comm

def sampleOAuth2 (clientID : String) : OAuth2Options where
  tokenURL := { value := Reconcilable.sampleURL }
  clientID := { value := clientID }
  clientSecret := { value := "secret" }

def oauth2Output (clientID : String) : OTLPOutput :=
  { httpOutput with authentication := some { oauth2 := some (sampleOAuth2 clientID) } }

def oauth2Pipeline (clientID : String) : OTLPPipeline :=
  .trace { name := "backend", output := oauth2Output clientID }

theorem oauth2Pipeline_rules (clientID : String) : PipelineRules (oauth2Pipeline clientID) :=
  { httpOutput_rules with
    grpcOAuth2 := by
      intro auth tls _ _ hprotocol
      cases hprotocol
    authentication := by
      rintro auth ⟨⟩ ⟨hbasic, -⟩
      cases hbasic
    basic := by
      rintro auth basic ⟨⟩ hbasic
      cases hbasic
    oauth2 := by
      rintro auth oauth2 ⟨⟩ ⟨⟩
      exact ⟨inlineValue_required _, inlineValue_required _, inlineValue_required _⟩ }

/-- The rules and the validation accept a client ID with an empty text, but its variable is not
set. -/
theorem emptyClientID_not_defined :
    PipelineRules (oauth2Pipeline "") ∧ Validated urlValidator noObjects (oauth2Pipeline "") ∧
      ∃ exporter extension env, Built urlExporterLib noObjects (oauth2Pipeline "")
        (oauth2Output "") exporter (some extension) env ∧
      ∃ text ∈ extensionTexts extension,
        lastOpening.names text = ["OAUTH2_CLIENT_ID_TRACEPIPELINE_BACKEND"] ∧
        "OAUTH2_CLIENT_ID_TRACEPIPELINE_BACKEND" ∉ env := by
  refine ⟨oauth2Pipeline_rules "", ⟨rfl, rfl, rfl⟩, _, _, _,
    @Built.oauth2 _ _ _ _ _ (newSendingQueue 0) _ _ _ _ rfl rfl rfl, ?_⟩
  exact ⟨_, .tail _ (.head _), by decide +kernel, by decide +kernel⟩

/-- With a client ID, all placeholders are defined. -/
theorem clientID_defined :
    ∃ exporter extension env, Built urlExporterLib noObjects (oauth2Pipeline "app")
      (oauth2Output "app") exporter (some extension) env ∧
    ∀ text ∈ exporterTexts exporter ++ extensionTexts extension,
      ∀ name ∈ lastOpening.names text, name ∈ env := by
  obtain ⟨exporter, extension, env, hbuilt⟩ : ∃ exporter extension env,
      Built urlExporterLib noObjects (oauth2Pipeline "app") (oauth2Output "app") exporter
        (some extension) env :=
    ⟨_, _, _, @Built.oauth2 _ _ _ _ _ (newSendingQueue 0) _ _ _ _ rfl rfl rfl⟩
  have hdefined := placeholders_defined_iff lastOpening urlExporterLib urlValidator noObjects
    (oauth2Pipeline "app") (oauth2Output "app") exporter (some extension) env rfl
    (oauth2Pipeline_rules "app") ⟨rfl, rfl, rfl⟩ rfl hbuilt
  rw [Option.toList_some, List.flatMap_singleton] at hdefined
  refine ⟨exporter, extension, env, hbuilt, hdefined.mpr ⟨?_, ?_⟩⟩
  · rintro oauth2 ⟨⟩
    decide
  · rintro text ⟨⟩

end TelemetryManager.Gateway
