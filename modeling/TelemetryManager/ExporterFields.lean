import TelemetryManager.Library.Assignment
import TelemetryManager.OtlpExporter

/-! The fields of an OTLP output that are passed to the collector by environment variables.
Every variable is set from one field, so building the variables is a chain of assignments. -/
namespace TelemetryManager.OtlpExporter

open Collector Interaction SharedTypes

inductive Field where
  | basicAuthHeader
  | endpoint
  | tlsCa
  | tlsCert
  | tlsKey
  | tokenURL
  | clientID
  | clientSecret
  | header (header : Header)

namespace Field

def key (r : PipelineRef) : Field → String
  | basicAuthHeader => formatEnvVarKey basicAuthHeaderVariablePrefix r
  | endpoint => formatEnvVarKey otlpEndpointVariablePrefix r
  | tlsCa => formatEnvVarKey tlsConfigCaVariablePrefix r
  | tlsCert => formatEnvVarKey tlsConfigCertVariablePrefix r
  | tlsKey => formatEnvVarKey tlsConfigKeyVariablePrefix r
  | tokenURL => formatEnvVarKey oauth2TokenURLVariablePrefix r
  | clientID => formatEnvVarKey oauth2ClientIDVariablePrefix r
  | clientSecret => formatEnvVarKey oauth2ClientSecretVariablePrefix r
  | header h => formatHeaderEnvVarKey h r

def variablePrefix : Field → String
  | basicAuthHeader => basicAuthHeaderVariablePrefix
  | endpoint => otlpEndpointVariablePrefix
  | tlsCa => tlsConfigCaVariablePrefix
  | tlsCert => tlsConfigCertVariablePrefix
  | tlsKey => tlsConfigKeyVariablePrefix
  | tokenURL => oauth2TokenURLVariablePrefix
  | clientID => oauth2ClientIDVariablePrefix
  | clientSecret => oauth2ClientSecretVariablePrefix
  | header _ => "HEADER"

def subject (r : PipelineRef) : Field → String
  | header h => r.name ++ "-" ++ h.name
  | _ => r.name

end Field

def envChar (c : Char) : Char :=
  let upper := Text.toUpperChar c
  if upper = '.' ∨ upper = '-' then '_' else upper

/-- The texts differ at most in the case of letters and in which of `.`, `-` and `_` they have. -/
def EnvEquivalent (s t : String) : Prop := s.toList.map envChar = t.toList.map envChar

instance (s t : String) : Decidable (EnvEquivalent s t) :=
  inferInstanceAs (Decidable (_ = _))

theorem toList_sanitizeEnvVarName (s : String) :
    (sanitizeEnvVarName s).toList = s.toList.map envChar := by
  rw [sanitizeEnvVarName, Text.toList_replaceAll_char (a := '-') (b := '_') rfl rfl,
    Text.toList_replaceAll_char (a := '.') (b := '_') rfl rfl, Text.toUpper, String.toList_ofList,
    List.map_map, List.map_map]
  refine List.map_congr_left fun c _ => ?_
  simp only [Function.comp_apply, envChar]
  by_cases hdot : Text.toUpperChar c = '.'
  · simp [hdot]
  · by_cases hdash : Text.toUpperChar c = '-' <;> simp [hdot, hdash]

theorem Field.toList_key (r : PipelineRef) (f : Field) :
    (f.key r).toList = f.variablePrefix.toList ++ '_' ::
      (r.typePrefix.toList.map envChar ++ '_' :: (f.subject r).toList.map envChar) := by
  have hdash : envChar '-' = '_' := by decide
  cases f <;>
    simp [Field.key, Field.variablePrefix, Field.subject, formatEnvVarKey, formatHeaderEnvVarKey,
      toList_sanitizeEnvVarName, String.toList_append, hdash]

def variablePrefixes : List String :=
  [basicAuthHeaderVariablePrefix, otlpEndpointVariablePrefix, tlsConfigCaVariablePrefix,
    tlsConfigCertVariablePrefix, tlsConfigKeyVariablePrefix, oauth2TokenURLVariablePrefix,
    oauth2ClientIDVariablePrefix, oauth2ClientSecretVariablePrefix, "HEADER"]

theorem Field.variablePrefix_mem (f : Field) : f.variablePrefix ∈ variablePrefixes := by
  cases f <;> simp [Field.variablePrefix, variablePrefixes]

theorem Field.variablePrefix_inj {f f' : Field}
    (h : f.variablePrefix.toList <+: f'.variablePrefix.toList) :
    f.variablePrefix = f'.variablePrefix := by
  have hfree : ∀ a ∈ variablePrefixes, ∀ b ∈ variablePrefixes, a.toList <+: b.toList → a = b := by
    decide
  exact hfree _ f.variablePrefix_mem _ f'.variablePrefix_mem h

theorem typePrefix_inj {r r' : PipelineRef}
    (h : r.typePrefix.toList.map envChar <+: r'.typePrefix.toList.map envChar) :
    r.signalType = r'.signalType := by
  obtain ⟨name, signal⟩ := r
  obtain ⟨name', signal'⟩ := r'
  have hfree : ∀ a b : SignalType, ((a.text ++ "pipeline").toList.map envChar <+:
      (b.text ++ "pipeline").toList.map envChar) → a = b := by
    intro a b
    cases a <;> cases b <;> decide
  exact hfree signal signal' h

/-- Of two beginnings of one text, neither of which begins the other one, both are the same. -/
theorem append_inj_of_prefix_free {α : Type} {a b x y : List α} (hab : a <+: b → a = b)
    (hba : b <+: a → b = a) (h : a ++ x = b ++ y) : a = b ∧ x = y := by
  have heq : a = b := by
    rcases List.prefix_or_prefix_of_prefix (List.prefix_append a x) (h ▸ List.prefix_append b y)
      with hpre | hpre
    · exact hab hpre
    · exact (hba hpre).symm
  subst heq
  exact ⟨rfl, List.append_cancel_left h⟩

/-- Two keys are the same if they stand for the same kind of field of pipelines of one signal, and
what they say about pipeline and header is equivalent. -/
theorem Field.key_eq_iff {r r' : PipelineRef} {f f' : Field} :
    f.key r = f'.key r' ↔ f.variablePrefix = f'.variablePrefix ∧ r.signalType = r'.signalType ∧
      EnvEquivalent (f.subject r) (f'.subject r') := by
  rw [← String.toList_inj, Field.toList_key, Field.toList_key]
  constructor
  · intro h
    obtain ⟨hpre, hrest⟩ := append_inj_of_prefix_free
      (fun hpre => congrArg String.toList (Field.variablePrefix_inj hpre))
      (fun hpre => congrArg String.toList (Field.variablePrefix_inj hpre)) h
    have hsignal : ∀ r r' : PipelineRef, r.signalType = r'.signalType →
        r.typePrefix.toList.map envChar = r'.typePrefix.toList.map envChar := by
      intro r r' h
      rw [PipelineRef.typePrefix, PipelineRef.typePrefix, h]
    obtain ⟨htype, hsubject⟩ := append_inj_of_prefix_free
      (fun hpre => hsignal _ _ (typePrefix_inj hpre))
      (fun hpre => hsignal _ _ (typePrefix_inj hpre)) (List.cons.inj hrest).2
    exact ⟨String.toList_injective hpre, typePrefix_inj (htype ▸ List.prefix_rfl),
      (List.cons.inj hsubject).2⟩
  · rintro ⟨hpre, hsignal, hsubject⟩
    rw [hpre, PipelineRef.typePrefix, PipelineRef.typePrefix, hsignal, hsubject]

theorem Field.same_kind {f g : Field} (h : f.variablePrefix = g.variablePrefix) :
    (f = g ∧ ∀ r, f.subject r = r.name) ∨ ∃ header header', f = .header header ∧
      g = .header header' := by
  cases f with
  | header header =>
    cases g with
    | header header' => exact .inr ⟨header, header', rfl, rfl⟩
    | _ => exact absurd h (by simp only [Field.variablePrefix]; decide)
  | _ =>
    cases g <;>
      first
      | exact .inl ⟨rfl, fun _ => rfl⟩
      | exact absurd h (by simp only [Field.variablePrefix]; decide)

namespace Field

variable (lib : ExporterLib) (output : OTLPOutput)

def keyPairProgram (select : ValueType → ValueType → ValueType) : Option (Client String) :=
  match output.tls with
  | some ⟨_, _, _, some cert, some key⟩ =>
    if isValid (some cert) && isValid (some key) then
      some do
        let text ← resolveValue (select cert key)
        pure (Text.replaceAll text "\\n" "\n")
    else none
  | _ => none

def oauth2Program (select : OAuth2Options → ValueType) : Option (Client String) :=
  match output.oauth2 with
  | some oauth2 =>
    if isValid (some (select oauth2)) then
      some (resolveValue (select oauth2))
    else none
  | none => none

def program : Field → Option (Client String)
  | basicAuthHeader =>
    match basicAuthOf output.authentication with
    | some basic => some do
        let username ← resolveValue basic.user
        let password ← resolveValue basic.password
        pure (formatBasicAuthHeader lib username password)
    | none => none
  | endpoint => some (resolveEndpointURL lib output)
  | tlsCa =>
    match output.tls with
    | some ⟨_, _, some ca, _, _⟩ =>
      if isValid (some ca) then some (resolveValue ca) else none
    | _ => none
  | tlsCert => keyPairProgram output fun cert _ => cert
  | tlsKey => keyPairProgram output fun _ key => key
  | tokenURL => oauth2Program output (·.tokenURL)
  | clientID => oauth2Program output (·.clientID)
  | clientSecret => oauth2Program output (·.clientSecret)
  | header h => some do
      let value ← resolveValue h.toValueType
      pure (prefixHeaderValue h value)

def assign (r : PipelineRef) (f : Field) (env : EnvVars) : Client EnvVars :=
  match f.program lib output with
  | some program => do
    let value ← program
    pure (env.insert (f.key r) value)
  | none => pure env

end Field

def assignAll (lib : ExporterLib) (r : PipelineRef) (output : OTLPOutput) :
    List Field → EnvVars → Client EnvVars
  | [], env => pure env
  | f :: fields, env => do
    let env ← f.assign lib output r env
    assignAll lib r output fields env

section Assignments

variable (lib : ExporterLib) (r : PipelineRef) (output : OTLPOutput)

theorem assignAll_append (fields fields' : List Field) (env : EnvVars) :
    assignAll lib r output (fields ++ fields') env =
      assignAll lib r output fields env >>= assignAll lib r output fields' := by
  induction fields generalizing env with
  | nil => simp [assignAll]
  | cons f fields ih => simp [assignAll, ih]

theorem makeHeaderEnvVar_eq (headers : List Header) (env : EnvVars) :
    makeHeaderEnvVar r headers env = assignAll lib r output (headers.map .header) env := by
  induction headers generalizing env with
  | nil => rfl
  | cons header headers ih =>
    simp [makeHeaderEnvVar, assignAll, Field.assign, Field.program, Field.key, ih]

theorem assignKeyPair_eq (insecure insecureSkipVerify : Bool) (ca cert key : Option ValueType)
    (env : EnvVars) :
    output.tls = some ⟨insecure, insecureSkipVerify, ca, cert, key⟩ →
    (match cert, key with
      | some certValue, some keyValue =>
        if isValid cert && isValid key then do
          let cert ← resolveValue certValue
          let key ← resolveValue keyValue
          pure ((env.insert (formatEnvVarKey tlsConfigCertVariablePrefix r)
              (Text.replaceAll cert "\\n" "\n")).insert
            (formatEnvVarKey tlsConfigKeyVariablePrefix r) (Text.replaceAll key "\\n" "\n"))
        else pure env
      | _, _ => pure env : Client EnvVars) =
    assignAll lib r output [.tlsCert, .tlsKey] env := by
  intro htls
  simp only [assignAll, Field.assign, Field.program, Field.keyPairProgram, Field.key, htls]
  rcases cert with _ | cert
  · simp
  rcases key with _ | key
  · simp
  by_cases hvalid : (isValid (some cert) && isValid (some key)) = true
  · simp [hvalid]
  · simp [hvalid]

theorem makeTLSEnvVar_eq (env : EnvVars) :
    makeTLSEnvVar r output env =
      assignAll lib r output [.tlsCa, .tlsCert, .tlsKey] env := by
  rcases htls : output.tls with _ | ⟨insecure, skip, ca, cert, key⟩
  · simp [makeTLSEnvVar, htls, assignAll, Field.assign, Field.program, Field.keyPairProgram]
  · have hsplit : assignAll lib r output [.tlsCa, .tlsCert, .tlsKey] env =
        Field.tlsCa.assign lib output r env >>= assignAll lib r output [.tlsCert, .tlsKey] := rfl
    rw [hsplit, makeTLSEnvVar, htls,
      ← funext fun env => assignKeyPair_eq lib r output insecure skip ca cert key env htls]
    rcases ca with _ | ca
    · have hassign : Field.tlsCa.assign lib output r env = pure env := by
        simp only [Field.assign, Field.program, htls]
      exact (congrArg (· >>= _) hassign).symm
    · dsimp only
      by_cases hvalid : isValid (some ca)
      · have hassign : Field.tlsCa.assign lib output r env = (do
            let value ← resolveValue ca
            pure (env.insert (formatEnvVarKey tlsConfigCaVariablePrefix r) value)) := by
          simp [Field.assign, Field.program, Field.key, htls, hvalid]
        rw [if_pos hvalid]
        refine Eq.trans ?_ (congrArg (· >>= _) hassign).symm
        exact (bind_assoc _ _ _).symm
      · have hassign : Field.tlsCa.assign lib output r env = pure env := by
          simp [Field.assign, Field.program, htls, hvalid]
        rw [if_neg hvalid]
        exact (congrArg (· >>= _) hassign).symm

def exporterFields : List Field :=
  [.basicAuthHeader, .endpoint] ++ output.headers.map .header ++ [.tlsCa, .tlsCert, .tlsKey]

def extensionFields : List Field := [.tokenURL, .clientID, .clientSecret]

theorem makeOTLPExporterEnvVars_eq_assignAll :
    makeOTLPExporterEnvVars lib r output = assignAll lib r output (exporterFields output) ∅ := by
  have hbasic : ∀ env, makeBasicAuthEnvVar lib r output env =
      Field.basicAuthHeader.assign lib output r env := by
    intro env
    unfold makeBasicAuthEnvVar Field.assign Field.program
    cases basicAuthOf output.authentication <;> simp [Field.key]
  have hendpoint : ∀ env, makeOTLPEndpointEnvVar lib r output env =
      Field.endpoint.assign lib output r env := fun env => rfl
  rw [exporterFields, assignAll_append, assignAll_append]
  simp [makeOTLPExporterEnvVars, makeHeaderEnvVar_eq lib r output, makeTLSEnvVar_eq lib, hbasic,
    hendpoint, assignAll]

theorem makeOAuth2ExtensionEnvVars_eq_assignAll {oauth2 : OAuth2Options}
    (h : output.oauth2 = some oauth2) :
    makeOAuth2ExtensionEnvVars r oauth2 = assignAll lib r output extensionFields ∅ := by
  have hassign : ∀ (f : Field) (select : OAuth2Options → ValueType) (env : EnvVars),
      f.program lib output = Field.oauth2Program output select →
      f.key r = formatEnvVarKey f.variablePrefix r →
      makeOAuth2EnvVar r f.variablePrefix (select oauth2) env = f.assign lib output r env := by
    intro f select env hprogram hkey
    unfold makeOAuth2EnvVar Field.assign
    rw [hprogram, Field.oauth2Program, h]
    by_cases hvalid : isValid (some (select oauth2))
    · simp [hvalid, hkey]
    · simp [hvalid]
  have htoken := fun env => hassign .tokenURL (·.tokenURL) env rfl rfl
  have hid := fun env => hassign .clientID (·.clientID) env rfl rfl
  have hsecret := fun env => hassign .clientSecret (·.clientSecret) env rfl rfl
  simp only [Field.variablePrefix] at htoken hid hsecret
  simp [makeOAuth2ExtensionEnvVars, makeTokenURLEnvVar, makeClientIDEnvVar, makeClientSecretEnvVar,
    extensionFields, assignAll, htoken, hid, hsecret]

end Assignments
end TelemetryManager.OtlpExporter
