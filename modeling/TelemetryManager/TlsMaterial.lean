import TelemetryManager.ExporterFields
import TelemetryManager.FluentBitBuild
import TelemetryManager.Library.PrefixCode
import TelemetryManager.TlsFindings

/-! The TLS material that collectors and Fluent Bit get, compared with the validated material.
The validation turns line breaks that were written as two characters into real ones, in all three
values. The builders do so in the certificate and in the key, but not in the CA. -/
namespace TelemetryManager.TlsMaterial

open Assignment Interaction TlsCert Reconcilable

section Resolved

variable {answer : ApiTable}

theorem evalE_getValue_ok_iff {ref : SecretKeyRef} {text : String} :
    evalE answer (SecretRef.getValue ref) = .ok text ↔ SecretRef.missingAttributes ref = [] ∧
      FluentBitBuilder.secretValue answer ref = some text := by
  have hread : (getSecret ⟨ref.namespace, ref.name⟩).eval answer =
      answer (.getSecret ⟨ref.namespace, ref.name⟩) := rfl
  unfold SecretRef.getValue FluentBitBuilder.secretValue
  rw [evalE_bind, evalE_liftExcept, SecretRef.checkForMissingFields]
  by_cases hmissing : SecretRef.missingAttributes ref = []
  · rw [if_neg (not_not.mpr hmissing)]
    simp only [Except.bind, evalE_bind, evalE_lift, hread, hmissing, true_and]
    cases (answer (.getSecret ⟨ref.namespace, ref.name⟩) : Except ApiError Secret) with
    | error err => cases hnotFound : err.isNotFound <;> simp [hnotFound]
    | ok secret => cases hlookup : secret.data.lookup ref.key <;> simp [hlookup]
  · rw [if_pos hmissing]
    simp [Except.bind, hmissing]

theorem isValid_of_resolved {value : ValueType} {text : String}
    (h : evalE answer (SharedTypes.resolveValue value) = .ok text) :
    SharedTypes.isValid (some value) = true := by
  rw [SharedTypes.isValid_iff]
  rcases SharedTypes.resolveValue_cases value with ⟨hinline, -, -⟩ | ⟨-, ref, href, hread⟩ |
    ⟨-, -, err, hthrow⟩
  · exact .inl hinline
  · rw [hread, evalE_getValue_ok_iff] at h
    exact .inr ⟨ref, href, h.1⟩
  · rw [hthrow] at h
    cases h

theorem tlsEntry_data_ok {e : FluentBitBuilder.TLSEntry} {text : String}
    (h : evalE answer (SharedTypes.resolveValue e.value) = .ok text) :
    evalE answer e.data = .ok text := by
  unfold FluentBitBuilder.TLSEntry.data
  rcases SharedTypes.resolveValue_cases e.value with ⟨hinline, -, hread⟩ |
    ⟨hinline, ref, href, hread⟩ | ⟨-, -, err, hthrow⟩
  · rw [if_pos hinline]
    exact hread ▸ h
  · have hsource : e.value.valueFrom.bind (·.secretKeyRef) = some ref := by
      simpa [SecretRef.secretRefOf, hinline] using href
    rw [hread, evalE_getValue_ok_iff] at h
    rw [if_neg (not_not.mpr hinline), hsource]
    exact evalE_mapErr_ok_iff.mpr (FluentBitBuilder.evalE_getSecretData_ok_iff.mpr h.2)
  · rw [hthrow] at h
    cases h

structure Readable (answer : ApiTable) (tls : OutputTLS) : Prop where
  pair : tls.cert.isNone = tls.key.isNone
  resolved : ∀ value, tls.ca = some value ∨ tls.cert = some value ∨ tls.key = some value →
    ∃ text, evalE answer (SharedTypes.resolveValue value) = .ok text

theorem readable_of_tolerated {v : Validator} {tls : OutputTLS}
    (h : Tolerated (evalE answer (validateTLS v (some tls)))) : Readable answer tls := by
  unfold validateTLS at h
  by_cases hrequired : tlsValidationRequired tls
  · simp only [if_pos hrequired] at h
    obtain ⟨cs, hread, -⟩ := (tolerated_iff v.x509 answer v.now _).mp h
    obtain ⟨certPEM, keyPEM, caPEM, -, -, hpair, hcert, hkey, hca, -⟩ :=
      readCertificates_ok v.x509 answer hread
    refine ⟨hpair, ?_⟩
    rintro value (hvalue | hvalue | hvalue)
    · simp only [hvalue, resolveOptional] at hca
      exact ⟨caPEM, SharedTypes.resolveOr_ok_iff.mp hca⟩
    · simp only [hvalue, resolveOptional] at hcert
      exact ⟨certPEM, SharedTypes.resolveOr_ok_iff.mp hcert⟩
    · simp only [hvalue, resolveOptional] at hkey
      exact ⟨keyPEM, SharedTypes.resolveOr_ok_iff.mp hkey⟩
  · simp only [tlsValidationRequired, Bool.or_eq_true, not_or, Option.isSome_iff_ne_none,
      not_not] at hrequired
    obtain ⟨⟨hcert, hkey⟩, hca⟩ := hrequired
    constructor
    · rw [hcert, hkey]
    · simp [hcert, hkey, hca]

end Resolved

section Written

variable (answer : ApiTable)

/-- What is written for a value is what the validation parses. -/
def WrittenAsValidated (value : Option ValueType) (written : Option String) : Prop :=
  ∀ v text, value = some v → evalE answer (resolveValue v) = .ok text →
    written = some (sanitizeValue text)

structure MaterialAsValidated (tls : OutputTLS) (ca cert key : Option String) : Prop where
  ca : WrittenAsValidated answer tls.ca ca
  cert : WrittenAsValidated answer tls.cert cert
  key : WrittenAsValidated answer tls.key key

def RealLineBreaks (value : Option ValueType) : Prop :=
  ∀ v text, value = some v → evalE answer (resolveValue v) = .ok text →
    Text.contains text "\\n" = false

def textOf (value : ValueType) : String :=
  match evalE answer (SharedTypes.resolveValue value) with
  | .ok text => text
  | .error _ => ""

variable {answer}

theorem textOf_eq {value : ValueType} {text : String}
    (h : evalE answer (SharedTypes.resolveValue value) = .ok text) :
    textOf answer value = text := by
  rw [textOf, h]

theorem writtenAsValidated_of_sanitized {value : Option ValueType} {written : Option String}
    (h : ∀ v, value = some v → written = some (sanitizeValue (textOf answer v))) :
    WrittenAsValidated answer value written := by
  intro v text hv htext
  rw [h v hv, textOf_eq (SharedTypes.resolveOr_ok_iff.mp htext)]

/-- A text that is written as it is, is the validated one if it has real line breaks only. -/
theorem writtenAsValidated_iff {value : Option ValueType} {written : Option String}
    (h : ∀ v, value = some v → written = some (textOf answer v)) :
    WrittenAsValidated answer value written ↔ RealLineBreaks answer value := by
  have hsame {text : String} : sanitizeValue text = text ↔ Text.contains text "\\n" = false :=
    Text.replaceAll_eq_self_iff (by decide)
  constructor
  · intro hwritten v text hv htext
    have heq := (hwritten v text hv htext).symm.trans (h v hv)
    rw [textOf_eq (SharedTypes.resolveOr_ok_iff.mp htext)] at heq
    exact hsame.mp (Option.some.inj heq)
  · intro hreal v text hv htext
    rw [h v hv, textOf_eq (SharedTypes.resolveOr_ok_iff.mp htext),
      hsame.mpr (hreal v text hv htext)]

/-- Certificate and key are written sanitized and the CA is written as it is. -/
theorem materialAsValidated_iff {tls : OutputTLS} {ca cert key : Option String}
    (hca : ∀ v, tls.ca = some v → ca = some (textOf answer v))
    (hcert : ∀ v, tls.cert = some v → cert = some (sanitizeValue (textOf answer v)))
    (hkey : ∀ v, tls.key = some v → key = some (sanitizeValue (textOf answer v))) :
    MaterialAsValidated answer tls ca cert key ↔ RealLineBreaks answer tls.ca := by
  rw [← writtenAsValidated_iff hca]
  constructor
  · intro h
    exact h.ca
  · intro h
    exact ⟨h, writtenAsValidated_of_sanitized hcert, writtenAsValidated_of_sanitized hkey⟩

end Written

section Environment

open OtlpExporter

variable {answer : ApiTable}

def tlsFields (tls : OutputTLS) : List Field :=
  (if tls.ca.isSome then [.tlsCa] else []) ++
    if tls.cert.isSome && tls.key.isSome then [.tlsCert, .tlsKey] else []

variable {tls : OutputTLS}

theorem tlsFields_unique {r : Collector.PipelineRef} {f g : Field}
    (hf : f ∈ tlsFields tls) (h : g.key r = f.key r) : g = f := by
  rcases Field.same_kind (Field.key_eq_iff.mp h).1 with ⟨heq, -⟩ | ⟨-, header, -, rfl⟩
  · exact heq
  · simp only [tlsFields, List.mem_append, List.mem_ite_nil_right] at hf
    simp at hf

def tlsText (answer : ApiTable) (tls : OutputTLS) : Field → String
  | .tlsCa => (tls.ca.map (textOf answer)).getD ""
  | .tlsCert => (tls.cert.map fun v => sanitizeValue (textOf answer v)).getD ""
  | .tlsKey => (tls.key.map fun v => sanitizeValue (textOf answer v)).getD ""
  | _ => ""

theorem evalE_makeTLSEnvVar {output : OTLPOutput} (htls : output.tls = some tls)
    (h : Readable answer tls) (r : Collector.PipelineRef) (env : Collector.EnvVars) :
    evalE answer (makeTLSEnvVar r output env) =
      .ok (fill (Field.key r) (tlsText answer tls) (tlsFields tls) env) := by
  obtain ⟨insecure, skip, ca, cert, key⟩ := tls
  obtain ⟨hpair, hresolved⟩ := h
  have hca : ∀ v, ca = some v → ∃ text, evalE answer (SharedTypes.resolveValue v) = .ok text :=
    fun v hv => hresolved v (.inl hv)
  have hcert : ∀ v, cert = some v → ∃ text, evalE answer (SharedTypes.resolveValue v) = .ok text :=
    fun v hv => hresolved v (.inr (.inl hv))
  have hkey : ∀ v, key = some v → ∃ text, evalE answer (SharedTypes.resolveValue v) = .ok text :=
    fun v hv => hresolved v (.inr (.inr hv))
  unfold makeTLSEnvVar
  rw [htls]
  rcases ca with _ | ca
  · rcases cert with _ | cert
    · rcases key with _ | key
      · rfl
      · cases hpair
    · rcases key with _ | key
      · cases hpair
      · obtain ⟨certText, hcertText⟩ := hcert cert rfl
        obtain ⟨keyText, hkeyText⟩ := hkey key rfl
        simp [-bind_pure_comp, isValid_of_resolved hcertText, isValid_of_resolved hkeyText,
          hcertText, hkeyText, Except.bind, fill, tlsText, tlsFields, textOf_eq hcertText,
          textOf_eq hkeyText, Field.key,
          sanitizeValue]
  · obtain ⟨text, htext⟩ := hca ca rfl
    rcases cert with _ | cert
    · rcases key with _ | key
      · simp [-bind_pure_comp, isValid_of_resolved htext, htext, Except.bind, fill, tlsText,
          tlsFields, textOf_eq htext, Field.key]
      · cases hpair
    · rcases key with _ | key
      · cases hpair
      · obtain ⟨certText, hcertText⟩ := hcert cert rfl
        obtain ⟨keyText, hkeyText⟩ := hkey key rfl
        simp [-bind_pure_comp, isValid_of_resolved htext, isValid_of_resolved hcertText,
          isValid_of_resolved hkeyText, htext, hcertText, hkeyText, Except.bind, fill, tlsText,
          tlsFields, textOf_eq htext, textOf_eq hcertText, textOf_eq hkeyText, Field.key,
          sanitizeValue]

/-- The variables are set, and they have the validated texts. -/
def EnvironmentAsValidated (answer : ApiTable) (r : Collector.PipelineRef)
    (output : OTLPOutput) (tls : OutputTLS) (env : Collector.EnvVars) : Prop :=
  ∃ env', evalE answer (makeTLSEnvVar r output env) = .ok env' ∧
    MaterialAsValidated answer tls (env'.lookup (formatEnvVarKey tlsConfigCaVariablePrefix r))
      (env'.lookup (formatEnvVarKey tlsConfigCertVariablePrefix r))
      (env'.lookup (formatEnvVarKey tlsConfigKeyVariablePrefix r))

theorem environmentAsValidated_iff {output : OTLPOutput}
    (htls : output.tls = some tls) (h : Readable answer tls) (r : Collector.PipelineRef)
    (env : Collector.EnvVars) :
    EnvironmentAsValidated answer r output tls env ↔ RealLineBreaks answer tls.ca := by
  have hlookup : ∀ f ∈ tlsFields tls, (fill (Field.key r) (tlsText answer tls) (tlsFields tls)
      env).lookup (f.key r) = some (tlsText answer tls f) := fun f hf =>
    lookup_fill_unique _ hf fun g _ hkey => tlsFields_unique hf hkey
  have hpair : ∀ v, tls.cert = some v ∨ tls.key = some v →
      tls.cert.isSome ∧ tls.key.isSome := by
    have hnone := h.pair
    rintro v (hv | hv)
    · rw [hv] at hnone ⊢
      exact ⟨rfl, by simpa using hnone.symm⟩
    · rw [hv] at hnone ⊢
      exact ⟨by simpa using hnone, rfl⟩
  rw [EnvironmentAsValidated, evalE_makeTLSEnvVar htls h]
  simp only [Except.ok.injEq, exists_eq_left']
  apply materialAsValidated_iff
  · intro v hv
    refine (hlookup .tlsCa (by simp [tlsFields, hv])).trans ?_
    simp [tlsText, hv]
  · intro v hv
    refine (hlookup .tlsCert (by simp [tlsFields, hpair v (.inl hv)])).trans ?_
    simp [tlsText, hv]
  · intro v hv
    refine (hlookup .tlsKey (by simp [tlsFields, hpair v (.inr hv)])).trans ?_
    simp [tlsText, hv]

end Environment

section Files

open FluentBit FluentBitBuilder

variable {answer : ApiTable}

def fileText (answer : ApiTable) (e : TLSEntry) : String :=
  if e.unescape then sanitizeValue (textOf answer e.value) else textOf answer e.value

theorem evalE_copyEntries {entries : List TLSEntry}
    (h : ∀ e ∈ entries, ∃ text, evalE answer (SharedTypes.resolveValue e.value) = .ok text)
    (files : TextMap) : evalE answer (entries.foldlM TLSEntry.copy files) =
      .ok (fill TLSEntry.key (fileText answer) entries files) := by
  induction entries generalizing files with
  | nil => rfl
  | cons e entries ih =>
    obtain ⟨text, htext⟩ := h e List.mem_cons_self
    have hcopy : evalE answer (TLSEntry.copy files e) =
        .ok (files.insert e.key (fileText answer e)) := by
      rw [TLSEntry.copy, evalE_bind, tlsEntry_data_ok htext, fileText, textOf_eq htext]
      rfl
    rw [List.foldlM_cons, evalE_bind, hcopy]
    exact ih (fun e' he' => h e' (List.mem_cons_of_mem e he')) _

inductive TLSFile where
  | ca
  | cert
  | key

namespace TLSFile

def value (tls : OutputTLS) : TLSFile → Option ValueType
  | ca => tls.ca
  | cert => tls.cert
  | key => tls.key

def ending : TLSFile → String
  | ca => "-ca.crt"
  | cert => "-cert.crt"
  | key => "-key.key"

def entry (lp : LogPipeline) (v : ValueType) : TLSFile → TLSEntry
  | ca => ⟨lp.name ++ "-ca.crt", v, "failed to get CA secret data: ", false⟩
  | cert => ⟨lp.name ++ "-cert.crt", v, "failed to get cert secret data: ", true⟩
  | key => ⟨lp.name ++ "-key.key", v, "failed to get key secret data: ", true⟩

theorem entry_key (lp : LogPipeline) (v : ValueType) (file : TLSFile) :
    (file.entry lp v).key = lp.name ++ file.ending := by
  cases file <;> rfl

theorem entry_value (lp : LogPipeline) (v : ValueType) (file : TLSFile) :
    (file.entry lp v).value = v := by
  cases file <;> rfl

/-- The name of a file tells the pipeline and what the file is for. -/
theorem ending_inj {name name' : String} {file file' : TLSFile}
    (h : name ++ file.ending = name' ++ file'.ending) : name = name' ∧ file = file' := by
  have hfree : PrefixCode.SuffixFree
      (["-ca.crt", "-cert.crt", "-key.key"].map PrefixCode.bytes) := by decide
  have hmem : ∀ file : TLSFile, file.ending ∈ ["-ca.crt", "-cert.crt", "-key.key"] := by
    intro file
    cases file <;> simp [ending]
  obtain ⟨hname, hending⟩ := hfree.text_inj (hmem file) (hmem file') h
  refine ⟨hname, ?_⟩
  cases file <;> cases file' <;> first | rfl | exact absurd hending (by decide)

end TLSFile

theorem Readable.file {tls : OutputTLS} (h : Readable answer tls) {file : TLSFile} {v : ValueType}
    (hv : file.value tls = some v) :
    ∃ text, evalE answer (SharedTypes.resolveValue v) = .ok text := by
  apply h.resolved
  cases file with
  | ca => exact .inl hv
  | cert => exact .inr (.inl hv)
  | key => exact .inr (.inr hv)

variable {lp : LogPipeline} {http : FluentBitHTTPOutput}

theorem mem_tlsEntries {e : TLSEntry} (h : e ∈ tlsEntries lp) :
    ∃ http file v, lp.output.fluentBitHTTP = some http ∧ TLSFile.value http.tls file = some v ∧
      e = file.entry lp v := by
  have hentry : ∀ {key text : String} {unescape : Bool} {value : Option ValueType},
      e ∈ tlsEntry key text unescape value →
        ∃ v, value = some v ∧ e = ⟨key, v, text, unescape⟩ := by
    intro key text unescape value hmem
    obtain ⟨v, hv, rfl⟩ := List.mem_map.mp hmem
    rw [Option.mem_toList, Option.filter_eq_some_iff] at hv
    exact ⟨v, hv.1, rfl⟩
  unfold tlsEntries at h
  cases hhttp : lp.output.fluentBitHTTP with
  | none =>
    rw [hhttp] at h
    cases h
  | some http =>
    rw [hhttp] at h
    obtain ⟨-, h⟩ := List.mem_ite_nil_right.mp h
    rcases List.mem_append.mp h with h | h
    · obtain ⟨v, hv, rfl⟩ := hentry h
      exact ⟨http, .ca, v, rfl, hv, rfl⟩
    · obtain ⟨-, h⟩ := List.mem_ite_nil_right.mp h
      rcases List.mem_append.mp h with h | h
      · obtain ⟨v, hv, rfl⟩ := hentry h
        exact ⟨http, .cert, v, rfl, hv, rfl⟩
      · obtain ⟨v, hv, rfl⟩ := hentry h
        exact ⟨http, .key, v, rfl, hv, rfl⟩

theorem entry_mem_tlsEntries (hhttp : lp.output.fluentBitHTTP = some http)
    (hdefined : isHTTPOutputDefined lp.output) (h : Readable answer http.tls)
    {file : TLSFile} {v : ValueType} (hv : file.value http.tls = some v) :
    file.entry lp v ∈ tlsEntries lp := by
  have hvalid : ∀ (file : TLSFile) (v : ValueType), file.value http.tls = some v →
      SharedTypes.isValid (some v) := by
    intro file v hv
    obtain ⟨text, htext⟩ := h.file hv
    exact isValid_of_resolved htext
  have hentry : ∀ {key text : String} {unescape : Bool} {value : Option ValueType} {v : ValueType},
      value = some v → SharedTypes.isValid (some v) →
      ⟨key, v, text, unescape⟩ ∈ tlsEntry key text unescape value := by
    rintro key text unescape _ v rfl hvalid
    simp [tlsEntry, Option.filter, hvalid]
  have hboth : file ≠ .ca →
      (SharedTypes.isValid http.tls.cert && SharedTypes.isValid http.tls.key) := by
    intro hne
    obtain ⟨cert, key, hcert, hkey⟩ : ∃ cert key, http.tls.cert = some cert ∧
        http.tls.key = some key := by
      have hpair := h.pair
      cases hcert : http.tls.cert <;> cases hkey : http.tls.key <;> cases file <;>
        simp_all [TLSFile.value]
    rw [hcert, hkey, hvalid .cert cert hcert, hvalid .key key hkey]
    rfl
  simp only [tlsEntries, hhttp, if_pos hdefined, List.mem_append]
  cases file with
  | ca => exact .inl (hentry hv (hvalid .ca v hv))
  | cert =>
    rw [if_pos (hboth (by simp)), List.mem_append]
    exact .inr (.inl (hentry hv (hvalid .cert v hv)))
  | key =>
    rw [if_pos (hboth (by simp)), List.mem_append]
    exact .inr (.inr (hentry hv (hvalid .key v hv)))

theorem tlsEntries_unique {pipelines : List LogPipeline} (hnames : (pipelines.map (·.name)).Nodup)
    {e e' : TLSEntry} (he : e ∈ pipelines.flatMap tlsEntries)
    (he' : e' ∈ pipelines.flatMap tlsEntries) (hkey : e'.key = e.key) : e' = e := by
  obtain ⟨lp, hlp, he⟩ := List.mem_flatMap.mp he
  obtain ⟨lp', hlp', he'⟩ := List.mem_flatMap.mp he'
  obtain ⟨http, file, v, hhttp, hv, rfl⟩ := mem_tlsEntries he
  obtain ⟨http', file', v', hhttp', hv', rfl⟩ := mem_tlsEntries he'
  rw [TLSFile.entry_key, TLSFile.entry_key] at hkey
  obtain ⟨hname, rfl⟩ := TLSFile.ending_inj hkey
  obtain rfl := List.inj_on_of_nodup_map hnames hlp' hlp hname
  cases hhttp.symm.trans hhttp'
  cases hv.symm.trans hv'
  rfl

/-- The files of all pipelines are written, and those of the pipeline have the validated texts. -/
def FilesAsValidated (answer : ApiTable) (pipelines : List LogPipeline)
    (lp : LogPipeline) (http : FluentBitHTTPOutput) : Prop :=
  ∃ files, evalE answer (FluentBitBuilder.buildTLSFileConfigSecret pipelines) = .ok files ∧
    MaterialAsValidated answer http.tls (files.lookup (lp.name ++ "-ca.crt"))
      (files.lookup (lp.name ++ "-cert.crt")) (files.lookup (lp.name ++ "-key.key"))

theorem filesAsValidated_iff {pipelines : List LogPipeline}
    (hnames : (pipelines.map (·.name)).Nodup) (hlp : lp ∈ pipelines)
    (hhttp : lp.output.fluentBitHTTP = some http) (hdefined : isHTTPOutputDefined lp.output)
    (h : ∀ p ∈ pipelines, ∀ http, p.output.fluentBitHTTP = some http → Readable answer http.tls) :
    FilesAsValidated answer pipelines lp http ↔ RealLineBreaks answer http.tls.ca := by
  have hresolved : ∀ e ∈ pipelines.flatMap tlsEntries,
      ∃ text, evalE answer (SharedTypes.resolveValue e.value) = .ok text := by
    intro e he
    obtain ⟨p, hp, he⟩ := List.mem_flatMap.mp he
    obtain ⟨http', file, v, hhttp', hv, rfl⟩ := mem_tlsEntries he
    rw [TLSFile.entry_value]
    exact (h p hp http' hhttp').file hv
  have hlookup : ∀ (file : TLSFile) (v : ValueType), file.value http.tls = some v →
      (fill TLSEntry.key (fileText answer) (pipelines.flatMap tlsEntries) ∅).lookup
        (lp.name ++ file.ending) = some (fileText answer (file.entry lp v)) := by
    intro file v hv
    have hmem : file.entry lp v ∈ pipelines.flatMap tlsEntries :=
      List.mem_flatMap.mpr ⟨lp, hlp, entry_mem_tlsEntries hhttp hdefined (h lp hlp http hhttp) hv⟩
    rw [← file.entry_key lp v]
    exact lookup_fill_unique _ hmem fun e' he' hkey => tlsEntries_unique hnames hmem he' hkey
  rw [FilesAsValidated, FluentBitBuilder.buildTLSFileConfigSecret, evalE_copyEntries hresolved]
  simp only [Except.ok.injEq, exists_eq_left']
  exact materialAsValidated_iff (hlookup .ca) (hlookup .cert) (hlookup .key)

end Files

/-- For accepted settings the builders write what was validated, if and only if the CA has no line
break that is written as two characters. -/
theorem material_as_validated_iff (v : Validator) (answer : ApiTable) :
    (∀ (output : OTLPOutput) (tls : OutputTLS) (r : Collector.PipelineRef)
      (env : Collector.EnvVars), output.tls = some tls →
      Tolerated (evalE answer (validateTLS v output.tls)) →
      (EnvironmentAsValidated answer r output tls env ↔ RealLineBreaks answer tls.ca)) ∧
    ∀ (pipelines : List LogPipeline) (lp : LogPipeline) (http : FluentBitHTTPOutput),
      (pipelines.map (·.name)).Nodup → lp ∈ pipelines → lp.output.fluentBitHTTP = some http →
      FluentBit.isHTTPOutputDefined lp.output →
      (∀ p ∈ pipelines,
        Tolerated (evalE answer (validateTLS v (p.output.fluentBitHTTP.map (·.tls))))) →
      (FilesAsValidated answer pipelines lp http ↔ RealLineBreaks answer http.tls.ca) := by
  constructor
  · intro output tls r env htls haccepted
    rw [htls] at haccepted
    exact environmentAsValidated_iff htls (readable_of_tolerated haccepted) r env
  · intro pipelines lp http hnames hlp hhttp hdefined haccepted
    refine filesAsValidated_iff hnames hlp hhttp hdefined fun p hp http' hhttp' => ?_
    have hp' := haccepted p hp
    rw [hhttp'] at hp'
    exact readable_of_tolerated hp'

/-- The root certificate with its line breaks written as two characters. -/
def oneLineRootPEM : String :=
  "-----BEGIN CERTIFICATE-----\\nMIIC\\n-----END CERTIFICATE-----\\n"

def rootValidator : Validator :=
  { sampleValidator ⟨"kyma-system", "telemetry-tracepipeline"⟩ (83 * day) with x509 := sampleX509 }

def caTLS (ca : String) : OutputTLS := { ca := some { value := ca } }

def caOutput (ca : String) : OTLPOutput :=
  { endpoint := { value := "https://backend:4317" }, tls := some (caTLS ca) }

def caHTTPOutput (ca : String) : FluentBitHTTPOutput :=
  { host := { value := "backend" }, tls := caTLS ca }

def caPipeline (ca : String) : LogPipeline :=
  { name := "backend", output := { fluentBitHTTP := some (caHTTPOutput ca) } }

theorem root_accepted {ca : String} (hne : ca ≠ "") (h : sanitizeValue ca = rootPEM) :
    Tolerated (evalE noSecrets (validateTLS rootValidator (some (caTLS ca)))) := by
  have htext : evalE noSecrets (resolveValue { value := ca }) = .ok ca := by
    simp [resolveValue, SecretRef.resolveOr, hne]
  have hdecode : sampleX509.pemDecode rootPEM = some ("root", "") := by decide +kernel
  have hblocks : PemBlocks sampleX509 (sanitizeValue ca) ["root"] := by
    rw [h]
    exact .cons hdecode (.nil decode_empty)
  have hok : evalE noSecrets (validate sampleX509 (83 * day) ⟨none, none, some { value := ca }⟩) =
      .ok () := by
    rw [validate_bundle_ok_iff sampleX509 noSecrets htext]
    refine ⟨[{ notAfter := 900 * day, isCA := true }],
      (parseCA_ok_iff sampleX509 decode_empty hblocks).mpr rfl, ?_⟩
    intro c hc
    cases List.mem_singleton.mp hc
    exact ⟨rfl, by decide⟩
  intro e he
  cases hok.symm.trans he

theorem realLineBreaks_iff {ca : String} (hne : ca ≠ "") :
    RealLineBreaks noSecrets (caTLS ca).ca ↔ Text.contains ca "\\n" = false := by
  have htext : evalE noSecrets (resolveValue { value := ca }) = .ok ca := by
    simp [resolveValue, SecretRef.resolveOr, hne]
  constructor
  · intro h
    exact h _ ca rfl htext
  · intro h v text hv hresolved
    cases hv
    cases htext.symm.trans hresolved
    exact h

def rootRef : Collector.PipelineRef := ⟨"backend", .trace⟩

/-- A CA in one line is accepted, and is written as it is, which is not what was validated. -/
theorem one_line_ca_not_as_validated :
    Tolerated (evalE noSecrets (validateTLS rootValidator (some (caTLS oneLineRootPEM)))) ∧
      ¬ EnvironmentAsValidated noSecrets rootRef (caOutput oneLineRootPEM)
        (caTLS oneLineRootPEM) ∅ ∧
      ¬ FilesAsValidated noSecrets [caPipeline oneLineRootPEM] (caPipeline oneLineRootPEM)
        (caHTTPOutput oneLineRootPEM) := by
  have hne : oneLineRootPEM ≠ "" := by decide +kernel
  have haccepted := root_accepted hne (by decide +kernel)
  have hreadable := readable_of_tolerated haccepted
  have hreal : ¬ RealLineBreaks noSecrets (caTLS oneLineRootPEM).ca := by
    rw [realLineBreaks_iff hne]
    decide +kernel
  refine ⟨haccepted, ?_, ?_⟩
  · rw [environmentAsValidated_iff rfl hreadable]
    exact hreal
  · have hnames : ([caPipeline oneLineRootPEM].map (·.name)).Nodup := List.nodup_singleton _
    rw [filesAsValidated_iff hnames List.mem_cons_self rfl rfl]
    · exact hreal
    · intro p hp http hhttp
      cases List.mem_singleton.mp hp
      cases hhttp
      exact hreadable

/-- A CA with real line breaks is written as it was validated. -/
theorem root_ca_as_validated :
    EnvironmentAsValidated noSecrets rootRef (caOutput rootPEM) (caTLS rootPEM) ∅ ∧
      FilesAsValidated noSecrets [caPipeline rootPEM] (caPipeline rootPEM)
        (caHTTPOutput rootPEM) := by
  have hne : rootPEM ≠ "" := by decide +kernel
  have haccepted := root_accepted hne (by decide +kernel)
  have hreal : RealLineBreaks noSecrets (caTLS rootPEM).ca := by
    rw [realLineBreaks_iff hne]
    decide +kernel
  obtain ⟨henv, hfiles⟩ := material_as_validated_iff rootValidator noSecrets
  refine ⟨(henv _ _ _ _ rfl haccepted).mpr hreal, (hfiles [caPipeline rootPEM] _ _
    (List.nodup_singleton "backend") List.mem_cons_self rfl rfl ?_).mpr hreal⟩
  intro p hp
  cases List.mem_singleton.mp hp
  exact haccepted

end TelemetryManager.TlsMaterial
