import TelemetryManager.FluentBitAcceptance
import TelemetryManager.Library.Assignment
import TelemetryManager.ObjectNames

/-! The Fluent Bit configuration of all pipelines.
The sections of a pipeline are under its own name. Files and environment variables of all pipelines
are merged into one map each, and the last write of a name wins. -/
namespace TelemetryManager.FluentBitBuilder

open Assignment Interaction Registry SpecValidators FluentBit SharedTypes

abbrev TextMap := Map String String

structure FluentBitConfig where
  sectionsConfig : TextMap := ∅
  filesConfig : TextMap := ∅
  envConfigSecret : TextMap := ∅
  tlsConfigSecret : TextMap := ∅

def buildFluentBitFilesConfig (lp : LogPipeline) : TextMap :=
  fill FluentBitFile.name FluentBitFile.content lp.fluentBitFiles ∅

structure EnvEntry where
  key : String
  read : SecretRead

def EnvEntry.copy (env : TextMap) (e : EnvEntry) : Client TextMap := do
  let value ← mapErr e.read.wrap (getSecretData e.read.ref)
  pure (env.insert e.key value)

def httpEntries (lp : LogPipeline) : List EnvEntry :=
  (FluentBit.extractHTTPSecrets lp).map fun read => ⟨envVarName lp.name read.ref, read⟩

def variableEntry (declared : FluentBitVariable) : Option EnvEntry :=
  declared.valueFrom.secretKeyRef.map fun ref =>
    ⟨declared.name, ref, fun err => .errorf "failed to get variable secret: " err ""⟩

def variableEntries (lp : LogPipeline) : List EnvEntry :=
  lp.fluentBitVariables.filterMap variableEntry

def envEntries (lp : LogPipeline) : List EnvEntry := httpEntries lp ++ variableEntries lp

def buildEnvConfigSecret (pipelines : List LogPipeline) : Client TextMap :=
  (pipelines.flatMap envEntries).foldlM EnvEntry.copy ∅

structure TLSEntry where
  key : String
  value : ValueType
  text : String
  unescape : Bool

open TLSEntry

def TLSEntry.data (e : TLSEntry) : Client String :=
  if e.value.value ≠ "" then pure e.value.value
  else match e.value.valueFrom.bind (·.secretKeyRef) with
    | some ref =>
      mapErr (fun err => .errorf e.text (.errorf "unable to get secret data: " err "") "")
        (getSecretData ref)
    | none => throw (.panic "invalid memory address or nil pointer dereference")

def TLSEntry.copy (tls : TextMap) (e : TLSEntry) : Client TextMap := do
  let data ← e.data
  -- line breaks that were written as two characters are made real ones
  pure (tls.insert e.key (if e.unescape then Text.replaceAll data "\\n" "\n" else data))

def tlsEntry (key text : String) (unescape : Bool) (value : Option ValueType) : List TLSEntry :=
  (value.filter fun v => isValid (some v)).toList.map fun v => ⟨key, v, text, unescape⟩

def tlsEntries (lp : LogPipeline) : List TLSEntry :=
  match lp.output.fluentBitHTTP with
  | none => []
  | some http =>
    if isHTTPOutputDefined lp.output then
      tlsEntry (lp.name ++ "-ca.crt") "failed to get CA secret data: " false http.tls.ca ++
      (if isValid http.tls.cert && isValid http.tls.key then
        tlsEntry (lp.name ++ "-cert.crt") "failed to get cert secret data: " true http.tls.cert ++
        tlsEntry (lp.name ++ "-key.key") "failed to get key secret data: " true http.tls.key
      else [])
    else []

def buildTLSFileConfigSecret (pipelines : List LogPipeline) : Client TextMap :=
  (pipelines.flatMap tlsEntries).foldlM copy ∅

/-- One turn of the loop over the pipelines; it reads the Secrets of all of them. -/
def buildPipeline (allPipelines : List LogPipeline) (clusterName : String) (cfg : FluentBitConfig)
    (lp : LogPipeline) : Client FluentBitConfig := do
  let sections ← liftExcept ((buildFluentBitSectionsConfig lp {} clusterName).mapError
    fun err => GoError.errorf "unable to build section: " err "")
  let env ← mapErr (fun err => .errorf "unable to build env config: " err "")
    (buildEnvConfigSecret allPipelines)
  let tls ← mapErr (fun err => .errorf "unable to build tls secret: " err "")
    (buildTLSFileConfigSecret allPipelines)
  pure {
    sectionsConfig := cfg.sectionsConfig.insert (lp.name ++ ".conf") sections
    filesConfig := copy cfg.filesConfig (buildFluentBitFilesConfig lp)
    envConfigSecret := copy cfg.envConfigSecret env
    tlsConfigSecret := copy cfg.tlsConfigSecret tls }

def build (allPipelines : List LogPipeline) (clusterName : String) : Client FluentBitConfig :=
  allPipelines.foldlM (buildPipeline allPipelines clusterName) {}

section Refinement

variable {m : Type → Type} [Monad m] [LawfulMonad m] {α β ι : Type}

theorem discard_eq_bind (x : m α) : discard x = x >>= fun _ => pure () := by
  rw [Functor.discard, map_const, bind_pure_comp]
  rfl

theorem discard_foldlM {f : β → ι → m β} {g : ι → m Unit} {l : List ι}
    (h : ∀ b, ∀ i ∈ l, discard (f b i) = g i) (b : β) : discard (l.foldlM f b) = forM l g := by
  induction l generalizing b with
  | nil => simp [discard_eq_bind]
  | cons i l ih =>
    rw [List.foldlM_cons, List.forM_cons, ← h b i List.mem_cons_self, discard_eq_bind,
      discard_eq_bind, bind_assoc, bind_assoc]
    refine bind_congr fun b' => ?_
    rw [pure_bind, ← ih (fun b j hj => h b j (List.mem_cons_of_mem i hj)) b', discard_eq_bind]

theorem forM_flatMap {g : ι → List β} {f : β → m Unit} (l : List ι) :
    forM l (fun i => forM (g i) f) = forM (l.flatMap g) f := by
  induction l with
  | nil => rfl
  | cons i l ih => rw [List.flatMap_cons, List.forM_cons, List.forM_append, ih]

end Refinement

theorem mapErr_discard (f : GoError → GoError) {α : Type} (x : Client α) :
    mapErr f (discard x) = discard (mapErr f x) := by
  rw [discard_eq_bind, discard_eq_bind]
  apply ExceptT.ext
  simp only [mapErr, ExceptT.run_bind, ExceptT.run_mk, map_bind, bind_map_left]
  refine bind_congr fun res => ?_
  cases res <;> rfl

theorem EnvEntry.discard_copy (env : TextMap) (e : EnvEntry) :
    discard (EnvEntry.copy env e) = e.read.run := by
  rw [SecretRead.run, mapErr_discard, discard_eq_bind, discard_eq_bind, EnvEntry.copy, bind_assoc]
  rfl

theorem reads_envEntries (lp : LogPipeline) :
    (envEntries lp).map (·.read) =
      FluentBit.extractHTTPSecrets lp ++ FluentBit.extractVariableSecrets lp := by
  have hhttp : (httpEntries lp).map (·.read) = FluentBit.extractHTTPSecrets lp := by
    rw [httpEntries, List.map_map]
    exact List.map_id _
  have hvariables : (variableEntries lp).map (·.read) = FluentBit.extractVariableSecrets lp := by
    rw [variableEntries, FluentBit.extractVariableSecrets, List.map_filterMap, List.map_filterMap]
    refine List.filterMap_congr fun declared _ => ?_
    cases hsource : declared.valueFrom.secretKeyRef <;> simp [variableEntry, hsource]
  rw [envEntries, List.map_append, hhttp, hvariables]

theorem discard_buildEnvConfigSecret (pipelines : List LogPipeline) :
    discard (buildEnvConfigSecret pipelines) = FluentBit.buildEnvConfigSecret pipelines := by
  rw [buildEnvConfigSecret, discard_foldlM fun env e _ => EnvEntry.discard_copy env e,
    ← List.forM_map, List.map_flatMap]
  simp only [reads_envEntries]
  rfl

def TLSEntry.reads (e : TLSEntry) : List SecretRead := getFromValueOrSecret e.text (some e.value)

theorem TLSEntry.discard_copy (tls : TextMap) {e : TLSEntry} (hvalid : isValid (some e.value)) :
    discard (copy tls e) = forM e.reads SecretRead.run := by
  have hcopy : discard (copy tls e) = discard e.data := by
    rw [discard_eq_bind, discard_eq_bind, copy, bind_assoc]
    rfl
  rw [hcopy]
  obtain ⟨key, ⟨inline, source⟩, text, unescape⟩ := e
  by_cases hinline : inline = ""
  · subst hinline
    rcases source with _ | ⟨_ | ref⟩
    · simp [isValid] at hvalid
    · simp [isValid] at hvalid
    · simp [data, reads, getFromValueOrSecret, shouldCopySecret, SecretRead.run,
        mapErr_discard]
  · have hcopied : shouldCopySecret (some ⟨inline, source⟩) = none := by
      unfold shouldCopySecret
      split <;> simp_all
    simp [data, reads, getFromValueOrSecret, hcopied, hinline, discard_eq_bind]

variable {lp : LogPipeline}

theorem isValid_of_mem_tlsEntries {e : TLSEntry} (h : e ∈ tlsEntries lp) :
    isValid (some e.value) := by
  have hentry : ∀ {key text : String} {unescape : Bool} {value : Option ValueType},
      e ∈ tlsEntry key text unescape value → isValid (some e.value) := by
    intro key text unescape value hmem
    obtain ⟨v, hv, rfl⟩ := List.mem_map.mp hmem
    rw [Option.mem_toList, Option.filter_eq_some_iff] at hv
    exact hv.2
  unfold tlsEntries at h
  split at h
  · cases h
  · obtain ⟨-, h⟩ := List.mem_ite_nil_right.mp h
    rcases List.mem_append.mp h with h | h
    · exact hentry h
    · obtain ⟨-, h⟩ := List.mem_ite_nil_right.mp h
      rcases List.mem_append.mp h with h | h <;> exact hentry h

theorem reads_tlsEntry (key text : String) (unescape : Bool) (value : Option ValueType) :
    (tlsEntry key text unescape value).flatMap reads =
      if isValid value then getFromValueOrSecret text value else [] := by
  cases value with
  | none => rfl
  | some v => cases hvalid : isValid (some v) <;>
      simp [tlsEntry, Option.filter, hvalid, reads]

theorem reads_tlsEntries (lp : LogPipeline) :
    (tlsEntries lp).flatMap reads = FluentBit.extractTLSSecrets lp := by
  unfold tlsEntries FluentBit.extractTLSSecrets
  cases lp.output.fluentBitHTTP with
  | none => rfl
  | some http =>
    by_cases hhttp : isHTTPOutputDefined lp.output
    · simp only [if_pos hhttp, List.flatMap_append, reads_tlsEntry]
      by_cases hpair : isValid http.tls.cert ∧ isValid http.tls.key
      · simp [hpair, reads_tlsEntry]
      · simp [hpair]
    · simp [hhttp]

theorem discard_buildTLSFileConfigSecret (pipelines : List LogPipeline) :
    discard (buildTLSFileConfigSecret pipelines) =
      FluentBit.buildTLSFileConfigSecret pipelines := by
  have hentries : ∀ tls, ∀ e ∈ pipelines.flatMap tlsEntries,
      discard (copy tls e) = forM e.reads SecretRead.run := by
    intro tls e he
    obtain ⟨lp, -, he⟩ := List.mem_flatMap.mp he
    exact discard_copy tls (isValid_of_mem_tlsEntries he)
  rw [buildTLSFileConfigSecret, discard_foldlM hentries, forM_flatMap,
    FluentBit.buildTLSFileConfigSecret, FluentBit.tlsReads, List.flatMap_assoc]
  simp only [reads_tlsEntries]

/-- The builder of the reconcile function is this builder with its result dropped. -/
theorem discard_build (allPipelines : List LogPipeline) (clusterName : String) :
    discard (build allPipelines clusterName) = FluentBit.build allPipelines := by
  refine discard_foldlM (fun cfg lp _ => ?_) _
  have hsections : discard (liftExcept ((buildFluentBitSectionsConfig lp {} clusterName).mapError
      fun err => GoError.errorf "unable to build section: " err "") : Client String) =
      liftExcept ((FluentBit.buildFluentBitSectionsConfig lp).mapError
        fun err => GoError.errorf "unable to build section: " err "") := by
    unfold buildFluentBitSectionsConfig
    cases FluentBit.buildFluentBitSectionsConfig lp <;> rfl
  rw [FluentBit.buildPipeline, ← hsections, ← discard_buildEnvConfigSecret,
    ← discard_buildTLSFileConfigSecret, mapErr_discard, mapErr_discard, buildPipeline]
  simp [discard_eq_bind]

section Content

variable (answer : ApiTable)

def secretValue (ref : SecretKeyRef) : Option String :=
  match (answer (.getSecret ⟨ref.namespace, ref.name⟩) : Except ApiError Secret) with
  | .error _ => none
  | .ok source => source.data.lookup ref.key

def EnvEntry.value (e : EnvEntry) : String := (secretValue answer e.read.ref).getD ""

def allEntries (pipelines : List LogPipeline) : List EnvEntry := pipelines.flatMap envEntries

def allFiles (pipelines : List LogPipeline) : List FluentBitFile :=
  pipelines.flatMap (·.fluentBitFiles)

def sectionsKey (lp : LogPipeline) : String := lp.name ++ ".conf"

variable {answer}

theorem evalE_getSecretData_ok_iff {ref : SecretKeyRef} {value : String} :
    evalE answer (getSecretData ref) = .ok value ↔ secretValue answer ref = some value := by
  have hread : (getSecret ⟨ref.namespace, ref.name⟩).eval answer =
      answer (.getSecret ⟨ref.namespace, ref.name⟩) := rfl
  rw [getSecretData, evalE_bind, evalE_lift, hread, secretValue]
  cases (answer (.getSecret ⟨ref.namespace, ref.name⟩) : Except ApiError Secret) with
  | error err => simp [Except.bind]
  | ok source =>
    cases hlookup : source.data.lookup ref.key <;> simp [Except.bind, hlookup]

theorem evalE_copyEntries_ok {entries : List EnvEntry} {env env' : TextMap}
    (h : evalE answer (entries.foldlM EnvEntry.copy env) = .ok env') :
    (∀ e ∈ entries, secretValue answer e.read.ref = some (e.value answer)) ∧
      env' = fill EnvEntry.key (EnvEntry.value answer) entries env := by
  induction entries generalizing env with
  | nil =>
    cases h
    exact ⟨nofun, rfl⟩
  | cons e entries ih =>
    rw [List.foldlM_cons] at h
    obtain ⟨next, hcopy, hrest⟩ := evalE_bind_ok_iff.mp h
    obtain ⟨value, hread, hnext⟩ := evalE_bind_ok_iff.mp hcopy
    cases hnext
    have hvalue := evalE_getSecretData_ok_iff.mp (evalE_mapErr_ok_iff.mp hread)
    have hown : e.value answer = value := by rw [EnvEntry.value, hvalue, Option.getD_some]
    obtain ⟨hvalues, hfill⟩ := ih hrest
    refine ⟨List.forall_mem_cons.mpr ⟨by rw [hown, hvalue], hvalues⟩, ?_⟩
    rw [hfill, ← hown]
    rfl

structure Adds (answer : ApiTable) (allPipelines : List LogPipeline)
    (clusterName : String) (pipelines : List LogPipeline) (cfg cfg' : FluentBitConfig) : Prop where
  built : ∀ lp ∈ pipelines, buildFluentBitSectionsConfig lp {} clusterName =
    .ok (sectionsText lp {} clusterName)
  sections : ∀ k, cfg'.sectionsConfig.lookup k =
    ((last sectionsKey k pipelines).map (sectionsText · {} clusterName)).or
      (cfg.sectionsConfig.lookup k)
  files : ∀ k, cfg'.filesConfig.lookup k =
    ((last FluentBitFile.name k (allFiles pipelines)).map FluentBitFile.content).or
      (cfg.filesConfig.lookup k)
  values : pipelines ≠ [] →
    ∀ e ∈ allEntries allPipelines, secretValue answer e.read.ref = some (e.value answer)
  env : ∀ k, cfg'.envConfigSecret.lookup k =
    (if pipelines = [] then none
      else (last EnvEntry.key k (allEntries allPipelines)).map (EnvEntry.value answer)).or
      (cfg.envConfigSecret.lookup k)

namespace Adds

variable {allPipelines pipelines pipelines' : List LogPipeline} {clusterName : String}
  {cfg cfg' cfg'' : FluentBitConfig}

theorem nil : Adds answer allPipelines clusterName [] cfg cfg where
  built := by simp
  sections := fun k => by simp [last]
  files := fun k => by simp [last, allFiles]
  values := fun h => absurd rfl h
  env := fun k => by simp

theorem append (h : Adds answer allPipelines clusterName pipelines cfg cfg')
    (h' : Adds answer allPipelines clusterName pipelines' cfg' cfg'') :
    Adds answer allPipelines clusterName (pipelines ++ pipelines') cfg cfg'' where
  built := List.forall_mem_append.mpr ⟨h.built, h'.built⟩
  sections := by
    intro k
    rw [h'.sections, h.sections, last_append, Option.map_or, Option.or_assoc]
  files := by
    intro k
    have hfiles : allFiles (pipelines ++ pipelines') = allFiles pipelines ++ allFiles pipelines' :=
      List.flatMap_append
    rw [h'.files, h.files, hfiles, last_append, Option.map_or, Option.or_assoc]
  values := by
    intro hne
    by_cases hnil : pipelines = []
    · exact h'.values fun hnil' => hne (by rw [hnil, hnil']; rfl)
    · exact h.values hnil
  env := by
    intro k
    rw [h'.env, h.env]
    by_cases hnil : pipelines = [] <;> by_cases hnil' : pipelines' = [] <;>
      cases last EnvEntry.key k (allEntries allPipelines) <;> simp [hnil, hnil']

theorem single {lp : LogPipeline}
    (h : evalE answer (buildPipeline allPipelines clusterName cfg lp) = .ok cfg') :
    Adds answer allPipelines clusterName [lp] cfg cfg' := by
  obtain ⟨text, hsections, hrest⟩ := evalE_bind_ok_iff.mp h
  obtain ⟨env, henv, hrest⟩ := evalE_bind_ok_iff.mp hrest
  obtain ⟨tls, -, hcfg⟩ := evalE_bind_ok_iff.mp hrest
  cases hcfg
  rw [evalE_liftExcept] at hsections
  obtain ⟨hvalues, hfill⟩ := evalE_copyEntries_ok (evalE_mapErr_ok_iff.mp henv)
  have hbuilt : buildFluentBitSectionsConfig lp {} clusterName = .ok text := by
    cases hbuild : buildFluentBitSectionsConfig lp {} clusterName with
    | error err =>
      rw [hbuild] at hsections
      cases hsections
    | ok text' =>
      rw [hbuild] at hsections
      exact hsections
  have htext := eq_sectionsText hbuilt
  subst htext
  constructor
  · simpa using hbuilt
  · intro k
    rw [last_singleton]
    by_cases hk : sectionsKey lp = k
    · subst hk
      simp [sectionsKey]
    · rw [if_neg hk, Option.map_none, Option.none_or]
      exact AList.lookup_insert_ne (Ne.symm hk)
  · intro k
    rw [lookup_copy, buildFluentBitFilesConfig, lookup_fill]
    simp [allFiles]
  · exact fun _ => hvalues
  · intro k
    rw [lookup_copy, hfill, lookup_fill]
    simp [allEntries]

end Adds

theorem build_adds {pipelines : List LogPipeline} {clusterName : String} {cfg : FluentBitConfig}
    (h : evalE answer (build pipelines clusterName) = .ok cfg) :
    Adds answer pipelines clusterName pipelines {} cfg := by
  -- the loop runs over a list that its body has to know as a whole
  have hloop : ∀ (l : List LogPipeline) (start cfg' : FluentBitConfig),
      evalE answer (l.foldlM (buildPipeline pipelines clusterName) start) = .ok cfg' →
        Adds answer pipelines clusterName l start cfg' := by
    intro l
    induction l with
    | nil =>
      intro start cfg' heval
      cases heval
      exact .nil
    | cons lp l ih =>
      intro start cfg' heval
      rw [List.foldlM_cons] at heval
      obtain ⟨next, hstep, hrest⟩ := evalE_bind_ok_iff.mp heval
      exact (Adds.single hstep).append (ih next cfg' hrest)
  exact hloop pipelines {} cfg h

theorem evalE_read_ok_iff {read : SecretRead} :
    evalE answer read.run = .ok () ↔ (secretValue answer read.ref).isSome := by
  rw [SecretRead.run, evalE_mapErr_ok_iff, discard_eq_bind, evalE_bind_ok_iff,
    Option.isSome_iff_exists]
  simp [evalE_getSecretData_ok_iff]

end Content

/-- Fluent Bit gets a configuration for all pipelines or for none: it takes one custom section that
cannot be parsed, or one Secret key that is missing, to keep it from all of them. -/
theorem config_built_iff (answer : ApiTable) (pipelines : List LogPipeline) (clusterName : String) :
    Succeeds answer (build pipelines clusterName) ↔
      ∀ lp ∈ pipelines, FluentBit.buildFluentBitSectionsConfig lp = .ok () ∧
        ∀ read ∈ FluentBit.extractHTTPSecrets lp ++ FluentBit.extractVariableSecrets lp ++
          FluentBit.extractTLSSecrets lp, (secretValue answer read.ref).isSome := by
  have hdiscard : Succeeds answer (build pipelines clusterName) ↔
      evalE answer (discard (build pipelines clusterName)) = .ok () := by
    rw [discard_eq_bind, evalE_bind_ok_iff]
    simp [Succeeds]
  have hreads : ∀ reads : List SecretRead, evalE answer (forM reads SecretRead.run) = .ok () ↔
      ∀ read ∈ reads, (secretValue answer read.ref).isSome := fun reads =>
    evalE_forM_ok.trans (forall₂_congr fun _ _ => evalE_read_ok_iff)
  rw [hdiscard, discard_build, FluentBit.build, evalE_forM_ok]
  simp only [FluentBit.buildPipeline, evalE_bind_ok_iff, evalE_liftExcept, evalE_mapErr_ok_iff,
    FluentBit.buildEnvConfigSecret, FluentBit.buildTLSFileConfigSecret, hreads]
  have hsections : ∀ {f : GoError → GoError} {x : Except GoError Unit},
      x.mapError f = .ok () ↔ x = .ok () := fun {f x} => by cases x <;> simp [Except.mapError]
  simp only [hsections, envReads, tlsReads, List.mem_append, List.mem_flatMap]
  grind

/-- The reference behind a value that is rendered as a placeholder. -/
def placeholderRef (value : Option ValueType) : Option SecretKeyRef :=
  if isValid value then shouldCopySecret value else none

def placeholderRefs (lp : LogPipeline) : List SecretKeyRef :=
  if isCustomOutputDefined lp.output then []
  else match lp.output.fluentBitHTTP with
    | some http =>
      if isHTTPOutputDefined lp.output then
        [some http.host, http.password, http.user].filterMap placeholderRef
      else []
    | none => []

variable {ref : SecretKeyRef}

theorem shouldCopySecret_eq_some_iff {value : Option ValueType} :
    shouldCopySecret value = some ref ↔ value = some ⟨"", some ⟨some ref⟩⟩ := by
  constructor
  · intro h
    unfold shouldCopySecret at h
    split at h
    · cases h
      rfl
    · cases h
  · rintro rfl
    rfl

theorem resolveOptional_of_placeholderRef {value : Option ValueType}
    (h : placeholderRef value = some ref) (name : String) :
    isValid value ∧
      resolveOptional value name = Placeholder.ref (envVarName name ref) := by
  obtain ⟨hvalid, hcopy⟩ := Option.ite_none_right_eq_some.mp h
  refine ⟨hvalid, ?_⟩
  rw [shouldCopySecret_eq_some_iff] at hcopy
  subst hcopy
  simp [resolveOptional, resolveValue, hvalid]

theorem mem_placeholderRefs (h : ref ∈ placeholderRefs lp) :
    isCustomOutputDefined lp.output = false ∧ isHTTPOutputDefined lp.output ∧
      ∃ http, lp.output.fluentBitHTTP = some http ∧
        ∃ value ∈ [some http.host, http.password, http.user], placeholderRef value = some ref := by
  unfold placeholderRefs at h
  obtain ⟨hcustom, h⟩ := List.mem_ite_nil_left.mp h
  cases hhttp : lp.output.fluentBitHTTP with
  | none =>
    rw [hhttp] at h
    cases h
  | some http =>
    rw [hhttp] at h
    obtain ⟨hdefined, h⟩ := List.mem_ite_nil_right.mp h
    exact ⟨by simpa using hcustom, hdefined, http, rfl, List.mem_filterMap.mp h⟩

theorem placeholder_mem_sections (h : ref ∈ placeholderRefs lp) (clusterName : String) :
    ∃ s ∈ sections lp {} clusterName, ∃ p ∈ s.content.params,
      p.value = Placeholder.ref (envVarName lp.name ref) := by
  obtain ⟨hcustom, hdefined, http, hhttp, value, hvalue, hplaceholder⟩ := mem_placeholderRefs h
  have houtput : createOutputSection lp {} = some (generateHTTPOutput http "1G" lp.name) := by
    unfold createOutputSection
    rw [hcustom, hhttp, if_neg Bool.false_ne_true]
    exact if_pos hdefined
  refine ⟨⟨.builder, generateHTTPOutput http "1G" lp.name⟩, by simp [sections, houtput], ?_⟩
  obtain ⟨hvalid, hresolve⟩ := resolveOptional_of_placeholderRef hplaceholder lp.name
  simp only [List.mem_cons, List.not_mem_nil, or_false] at hvalue
  rcases hvalue with rfl | rfl | rfl
  · have hhost : resolveValue http.host lp.name = Placeholder.ref (envVarName lp.name ref) :=
      hresolve
    exact ⟨⟨Text.toLower "host", resolveValue http.host lp.name⟩,
      by simp [generateHTTPOutput, hvalid], hhost⟩
  · exact ⟨⟨Text.toLower "http_passwd", resolveOptional http.password lp.name⟩,
      by simp [generateHTTPOutput, hvalid], hresolve⟩
  · exact ⟨⟨Text.toLower "http_user", resolveOptional http.user lp.name⟩,
      by simp [generateHTTPOutput, hvalid], hresolve⟩

theorem entry_of_mem_placeholderRefs (h : ref ∈ placeholderRefs lp) :
    ∃ e ∈ envEntries lp, e.key = envVarName lp.name ref ∧ e.read.ref = ref := by
  obtain ⟨-, -, http, hhttp, value, hvalue, hplaceholder⟩ := mem_placeholderRefs h
  obtain ⟨-, hcopy⟩ := Option.ite_none_right_eq_some.mp hplaceholder
  have hread : ∀ text, ∃ read ∈ copySecret text value, read.ref = ref := fun text =>
    ⟨_, List.mem_map.mpr ⟨ref, by simp [hcopy], rfl⟩, rfl⟩
  have hmem : ∃ read ∈ FluentBit.extractHTTPSecrets lp, read.ref = ref := by
    simp only [FluentBit.extractHTTPSecrets, hhttp, List.mem_append]
    simp only [List.mem_cons, List.not_mem_nil, or_false] at hvalue
    rcases hvalue with rfl | rfl | rfl
    · obtain ⟨read, hmem, href⟩ := hread "failed to get host secret: "
      exact ⟨read, .inl (.inl hmem), href⟩
    · obtain ⟨read, hmem, href⟩ := hread "failed to get password secret: "
      exact ⟨read, .inr hmem, href⟩
    · obtain ⟨read, hmem, href⟩ := hread "failed to get user secret: "
      exact ⟨read, .inl (.inr hmem), href⟩
  obtain ⟨read, hextract, rfl⟩ := hmem
  exact ⟨⟨envVarName lp.name read.ref, read⟩,
    List.mem_append_left _ (List.mem_map_of_mem hextract), rfl, rfl⟩

theorem entry_of_variable {declared : FluentBitVariable}
    (h : declared ∈ lp.fluentBitVariables) (href : declared.valueFrom.secretKeyRef = some ref) :
    ∃ e ∈ envEntries lp, e.key = declared.name ∧ e.read.ref = ref :=
  ⟨⟨declared.name, ref, fun err => .errorf "failed to get variable secret: " err ""⟩,
    List.mem_append_right _ (List.mem_filterMap.mpr ⟨declared, h, by simp [variableEntry, href]⟩),
    rfl, rfl⟩

section Resolves

variable (answer : ApiTable)

def Holds (cfg : FluentBitConfig) (name : String) (ref : SecretKeyRef) : Prop :=
  ∃ value, secretValue answer ref = some value ∧ cfg.envConfigSecret.lookup name = some value

structure Resolves (clusterName : String) (cfg : FluentBitConfig) (lp : LogPipeline) : Prop where
  sections : cfg.sectionsConfig.lookup (sectionsKey lp) = some (sectionsText lp {} clusterName)
  written : ∀ ref ∈ placeholderRefs lp, ∃ s ∈ FluentBitBuilder.sections lp {} clusterName,
    ∃ p ∈ s.content.params, p.value = Placeholder.ref (envVarName lp.name ref)
  placeholders : ∀ ref ∈ placeholderRefs lp, Holds answer cfg (envVarName lp.name ref) ref
  declared : ∀ declared ∈ lp.fluentBitVariables, ∀ ref,
    declared.valueFrom.secretKeyRef = some ref → Holds answer cfg declared.name ref
  files : ∀ file ∈ lp.fluentBitFiles, cfg.filesConfig.lookup file.name = some file.content

/-- The last reference that is copied under the name has the same value. -/
def LastAgrees (pipelines : List LogPipeline) (name : String) (ref : SecretKeyRef) : Prop :=
  ∀ e, last EnvEntry.key name (allEntries pipelines) = some e →
    secretValue answer e.read.ref = secretValue answer ref

structure NotOverwritten (pipelines : List LogPipeline) (lp : LogPipeline) : Prop where
  placeholders : ∀ ref ∈ placeholderRefs lp,
    LastAgrees answer pipelines (envVarName lp.name ref) ref
  declared : ∀ declared ∈ lp.fluentBitVariables, ∀ ref,
    declared.valueFrom.secretKeyRef = some ref → LastAgrees answer pipelines declared.name ref
  files : ∀ file ∈ lp.fluentBitFiles, ∀ file',
    last FluentBitFile.name file.name (allFiles pipelines) = some file' →
      file'.content = file.content

variable {answer} {pipelines : List LogPipeline} {clusterName : String} {cfg : FluentBitConfig}
  {lp : LogPipeline} (hbuild : evalE answer (build pipelines clusterName) = .ok cfg)
  (hlp : lp ∈ pipelines)
include hbuild hlp

theorem holds_iff {e : EnvEntry} (he : e ∈ envEntries lp) :
    Holds answer cfg e.key e.read.ref ↔ LastAgrees answer pipelines e.key e.read.ref := by
  have hadds := build_adds hbuild
  have hne : pipelines ≠ [] := List.ne_nil_of_mem hlp
  have hmem : e ∈ allEntries pipelines := List.mem_flatMap.mpr ⟨lp, hlp, he⟩
  obtain ⟨e', hlast⟩ : ∃ e', last EnvEntry.key e.key (allEntries pipelines) = some e' :=
    exists_last hmem
  have hvalue' := hadds.values hne e' (last_mem hlast).1
  have hlookup : cfg.envConfigSecret.lookup e.key = some (e'.value answer) := by
    rw [hadds.env, if_neg hne, hlast]
    rfl
  constructor
  · rintro ⟨value, hvalue, hfound⟩ e'' hlast''
    cases hlast.symm.trans hlast''
    rw [hvalue', hvalue, ← hfound, hlookup]
  · intro hagrees
    refine ⟨e'.value answer, ?_, hlookup⟩
    rw [← hagrees e' hlast, hvalue']

theorem placeholders_hold_iff {ref : SecretKeyRef} (href : ref ∈ placeholderRefs lp) :
    Holds answer cfg (envVarName lp.name ref) ref ↔
      LastAgrees answer pipelines (envVarName lp.name ref) ref := by
  obtain ⟨e, he, hkey, rfl⟩ := entry_of_mem_placeholderRefs href
  rw [← hkey]
  exact holds_iff hbuild hlp he

theorem variable_holds_iff {declared : FluentBitVariable} {ref : SecretKeyRef}
    (hdeclared : declared ∈ lp.fluentBitVariables)
    (href : declared.valueFrom.secretKeyRef = some ref) :
    Holds answer cfg declared.name ref ↔ LastAgrees answer pipelines declared.name ref := by
  obtain ⟨e, he, hkey, rfl⟩ := entry_of_variable hdeclared href
  rw [← hkey]
  exact holds_iff hbuild hlp he

theorem file_found_iff {file : FluentBitFile} (hfile : file ∈ lp.fluentBitFiles) :
    cfg.filesConfig.lookup file.name = some file.content ↔
      ∀ file', last FluentBitFile.name file.name (allFiles pipelines) = some file' →
        file'.content = file.content := by
  have hmem : file ∈ allFiles pipelines := List.mem_flatMap.mpr ⟨lp, hlp, hfile⟩
  obtain ⟨file', hlast⟩ : ∃ file', last FluentBitFile.name file.name (allFiles pipelines) =
      some file' := exists_last hmem
  have hlookup : cfg.filesConfig.lookup file.name = some file'.content := by
    rw [(build_adds hbuild).files, hlast]
    rfl
  rw [hlookup, hlast, Option.some.injEq]
  simp

theorem sections_found (hnames : (pipelines.map (·.name)).Nodup) :
    cfg.sectionsConfig.lookup (sectionsKey lp) = some (sectionsText lp {} clusterName) := by
  obtain ⟨lp', hlast⟩ : ∃ lp', last sectionsKey (sectionsKey lp) pipelines = some lp' :=
    exists_last hlp
  have hlp' : lp' = lp := by
    obtain ⟨hmem, hkey⟩ := last_mem hlast
    have hname : lp'.name = lp.name := by
      have := congrArg String.toList hkey
      simpa [sectionsKey, String.toList_inj] using this
    exact List.inj_on_of_nodup_map hnames hmem hlp hname
  rw [(build_adds hbuild).sections, hlast, hlp']
  rfl

end Resolves

/-- In a configuration that was built, every pipeline finds its own sections, values and files if
and only if none of its values and files is overwritten by another one. -/
theorem configuration_resolves_iff (answer : ApiTable)
    (pipelines : List LogPipeline) (clusterName : String) (cfg : FluentBitConfig)
    (hnames : (pipelines.map (·.name)).Nodup)
    (hbuild : evalE answer (build pipelines clusterName) = .ok cfg) :
    (∀ lp ∈ pipelines, Resolves answer clusterName cfg lp) ↔
      ∀ lp ∈ pipelines, NotOverwritten answer pipelines lp := by
  refine forall₂_congr fun lp hlp => ?_
  constructor
  · rintro ⟨-, -, hplaceholders, hvariables, hfiles⟩
    refine ⟨fun ref href => ?_, fun declared hdeclared ref href => ?_, fun file hfile => ?_⟩
    · exact (placeholders_hold_iff hbuild hlp href).mp (hplaceholders ref href)
    · exact (variable_holds_iff hbuild hlp hdeclared href).mp
        (hvariables declared hdeclared ref href)
    · exact (file_found_iff hbuild hlp hfile).mp (hfiles file hfile)
  · rintro ⟨hplaceholders, hvariables, hfiles⟩
    refine ⟨sections_found hbuild hlp hnames,
      fun ref href => placeholder_mem_sections href clusterName, fun ref href => ?_,
      fun declared hdeclared ref href => ?_, fun file hfile => ?_⟩
    · exact (placeholders_hold_iff hbuild hlp href).mpr (hplaceholders ref href)
    · exact (variable_holds_iff hbuild hlp hdeclared href).mpr
        (hvariables declared hdeclared ref href)
    · exact (file_found_iff hbuild hlp hfile).mpr (hfiles file hfile)

def credentialCluster : ApiTable
  | .getSecret key =>
    if key = ⟨"default", "credentials"⟩ then
      .ok { data := [("user.name", "alice"), ("user_name", "bob"), ("password", "1234")] }
    else .error .notFound
  | r => freeLock r

def credential (key : String) : SecretKeyRef := ⟨"credentials", "default", key⟩

def hostValidator : Reconcilable.Validator where
  __ := logValidator
  url :=
    { parse := fun s =>
        if s = "backend" then .ok { path := "backend" }
        else if s = "plhd://backend" then .ok { scheme := "plhd", host := "backend" }
        else .error "parse error"
      splitHostPort := fun _ => .error "address backend: missing port in address"
      atoi := fun _ => none }

def credentialPipeline (user password : String) : LogPipeline where
  name := "audit"
  uid := "b2"
  output := { fluentBitHTTP := some {
    host := { value := "backend" }
    user := some { valueFrom := some ⟨some (credential user)⟩ }
    password := some { valueFrom := some ⟨some (credential password)⟩ } } }
  fluentBitFiles := [{ name := "labels.json", content := "a" }]

def credentialEntry (text key : String) : EnvEntry :=
  ⟨envVarName "audit" (credential key), credential key, fun err => .errorf text err ""⟩

theorem allEntries_credentialPipeline (user password : String) :
    allEntries [credentialPipeline user password] =
      [credentialEntry "failed to get user secret: " user,
       credentialEntry "failed to get password secret: " password] := rfl

theorem plain_credentials_resolve :
    ∃ cfg, evalE credentialCluster (build [credentialPipeline "user_name" "password"] "cluster") =
        .ok cfg ∧
      ∀ lp ∈ [credentialPipeline "user_name" "password"],
        Resolves credentialCluster "cluster" cfg lp := by
  cases hbuild : evalE credentialCluster
      (build [credentialPipeline "user_name" "password"] "cluster") with
  | error err =>
    have hok : (evalE credentialCluster
        (build [credentialPipeline "user_name" "password"] "cluster")).isOk := by rfl
    rw [hbuild] at hok
    cases hok
  | ok cfg =>
    refine ⟨cfg, rfl, (configuration_resolves_iff credentialCluster
      [credentialPipeline "user_name" "password"] "cluster" cfg (by simp) hbuild).mpr ?_⟩
    intro lp hlp
    rw [List.mem_singleton.mp hlp]
    refine ⟨fun ref href e hlast => ?_, nofun, ?_⟩
    · obtain ⟨hmem, hkey⟩ := last_mem hlast
      have href : ref = credential "password" ∨ ref = credential "user_name" := by
        simpa [placeholderRefs, credentialPipeline, isCustomOutputDefined, isHTTPOutputDefined,
          placeholderRef, shouldCopySecret, isValid, credential] using href
      rw [allEntries_credentialPipeline, List.mem_cons, List.mem_singleton] at hmem
      rcases hmem with rfl | rfl <;> rcases href with rfl | rfl
      · exact absurd hkey (by decide)
      · rfl
      · rfl
      · exact absurd hkey (by decide)
    · intro file hfile file' hlast
      have hmem := (last_mem hlast).1
      rw [List.mem_singleton.mp hfile, List.mem_singleton.mp hmem]

/-- Two keys that differ in a dot and an underscore get one variable, so the user name that is sent
is the one of the other key. -/
theorem similar_keys_share_variable :
    isDNS1123Subdomain (credentialPipeline "user.name" "user_name").name ∧
      Accepted hostValidator credentialCluster (credentialPipeline "user.name" "user_name") ∧
      ∃ cfg, evalE credentialCluster
          (build [credentialPipeline "user.name" "user_name"] "cluster") = .ok cfg ∧
        ¬ ∀ lp ∈ [credentialPipeline "user.name" "user_name"],
          Resolves credentialCluster "cluster" cfg lp := by
  refine ⟨by decide, by rfl, ?_⟩
  cases hbuild : evalE credentialCluster
      (build [credentialPipeline "user.name" "user_name"] "cluster") with
  | error err =>
    have hok : (evalE credentialCluster
        (build [credentialPipeline "user.name" "user_name"] "cluster")).isOk := by rfl
    rw [hbuild] at hok
    cases hok
  | ok cfg =>
    refine ⟨cfg, rfl, fun h => ?_⟩
    have hresolves := h _ List.mem_cons_self
    have href : credential "user.name" ∈ placeholderRefs
      (credentialPipeline "user.name" "user_name") :=
      by decide
    have hagrees := (placeholders_hold_iff hbuild List.mem_cons_self href).mp
      (hresolves.placeholders _ href)
    -- the entry of the password has the same key and comes last
    have hkey : (credentialEntry "failed to get password secret: " "user_name").key =
        envVarName "audit" (credential "user.name") := by
      unfold credentialEntry envVarName formatEnvVarName Text.replaceAll
      simp only [Text.toUpper, String.toList_ofList, String.toList_append]
      decide +kernel
    have hlast : last EnvEntry.key (envVarName "audit" (credential "user.name"))
        (allEntries [credentialPipeline "user.name" "user_name"]) =
          some (credentialEntry "failed to get password secret: " "user_name") := by
      rw [allEntries_credentialPipeline, ← List.singleton_append, last_append, last_singleton,
        if_pos hkey, Option.some_or]
    exact absurd (hagrees _ hlast) (by decide)

end TelemetryManager.FluentBitBuilder
