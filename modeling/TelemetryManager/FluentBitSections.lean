import Mathlib.Data.Char
import Mathlib.Data.List.Lex
import Mathlib.Data.List.Sort
import Mathlib.Data.Prod.Lex
import TelemetryManager.FluentBitReconciler
import TelemetryManager.Library.Placeholder

/-! The sections that the Fluent Bit configuration has for a pipeline.
A section is collected parameter by parameter and then rendered, `name` and `match` first. The
functions of the source return rendered text; here they return the collected section, and the parts
are rendered where they are put together. -/
namespace TelemetryManager.FluentBitBuilder

open SpecValidators FluentBit

inductive SectionKind where
  | input
  | filter
  | output
  deriving DecidableEq

def SectionKind.header : SectionKind → String
  | .input => "[INPUT]"
  | .filter => "[FILTER]"
  | .output => "[OUTPUT]"

structure SectionBuilder where
  kind : SectionKind
  params : ParameterList := []
  keyLen : Nat := 0

def newInputSectionBuilder : SectionBuilder := { kind := .input }

def newFilterSectionBuilder : SectionBuilder := { kind := .filter }

def newOutputSectionBuilder : SectionBuilder := { kind := .output }

/-- The order of the parameters in a rendered section; the byte order of texts is the order of
their characters. -/
def less (p q : Parameter) : Bool :=
  if p.key ≠ q.key then
    if p.key = "name" then true
    else if q.key = "name" then false
    else if p.key = "match" then true
    else if q.key = "match" then false
    else p.key.toList < q.key.toList
  else p.value.toList < q.value.toList

def sortParams (params : ParameterList) : ParameterList :=
  params.insertionSort fun p q => less q p = false

def paramValues (params : ParameterList) (key : String) : List String :=
  params.filterMap fun p => if p.key = key then some p.value else none

namespace SectionBuilder

variable (sb : SectionBuilder)

def addConfigParam (key value : String) : SectionBuilder where
  kind := sb.kind
  params := sb.params ++ [⟨Text.toLower key, value⟩]
  keyLen := if sb.keyLen < key.utf8ByteSize then key.utf8ByteSize else sb.keyLen

def addIf (condition : Bool) (key value : String) : SectionBuilder :=
  if condition then sb.addConfigParam key value else sb

def addIfNotEmpty (key value : String) : SectionBuilder := sb.addIf (value ≠ "") key value

def addIfNotEmptyOrDefault (key value defaultValue : String) : SectionBuilder :=
  if value = "" then sb.addConfigParam key defaultValue else sb.addConfigParam key value

def addParams (params : ParameterList) : SectionBuilder :=
  params.foldl (fun sb p => sb.addConfigParam p.key p.value) sb

/-- The line of a parameter. The values of a section start in one column; a value with line breaks
takes up several lines. -/
def line (p : Parameter) : String :=
  "    " ++ p.key ++ String.ofList (List.replicate (sb.keyLen - p.key.utf8ByteSize + 1) ' ') ++
    p.value

def values (key : String) : List String := paramValues sb.params key

def build : String :=
  sb.kind.header ++ "\n" ++ String.join ((sortParams sb.params).map fun p => sb.line p ++ "\n") ++
    "\n"

end SectionBuilder

/-- The parameters of a custom section; lines without a space are skipped. -/
def parseMultiline (content : String) : ParameterList :=
  (Text.split content '\n').filterMap fun line =>
    match parseLine line with
    | .ok param => param
    | .error _ => none

def formatEnvVarName (pre ns name key : String) : String :=
  let result := pre ++ "_" ++ ns ++ "_" ++ name ++ "_" ++ key
  let result := Text.toUpper result
  let result := Text.replaceAll result "." "_"
  Text.replaceAll result "-" "_"

def envVarName (logPipeline : String) (ref : SecretKeyRef) : String :=
  formatEnvVarName logPipeline ref.namespace ref.name ref.key

/-- The text of a value in a section: a value of a Secret is taken from the environment. -/
def resolveValue (value : ValueType) (logPipeline : String) : String :=
  if value.value ≠ "" then value.value
  else match value.valueFrom.bind (·.secretKeyRef) with
    | some ref =>
      if SharedTypes.isValid (some value) then Placeholder.ref (envVarName logPipeline ref) else ""
    | none => ""

def makeLogPath (ns pod container : String) : String :=
  "/var/log/pods/" ++ ns ++ "_" ++ pod ++ "/" ++ container ++ "/*.log"

def orAny (selected : List String) : List String := if selected = [] then ["*"] else selected

def createIncludePath (lp : LogPipeline) : String :=
  let includeNamespaces := orAny
    (((lp.input.runtime.bind (·.namespaces)).map (·.include)).getD [])
  let includeContainers := orAny
    (((lp.input.runtime.bind (·.containers)).map (·.include)).getD [])
  ",".intercalate (includeNamespaces.flatMap fun ns =>
    includeContainers.map fun container => makeLogPath ns "*" container)

def systemNamespaces : List String := ["kyma-system", "kube-system", "istio-system"]

def createExcludePath (lp : LogPipeline) (collectAgentLogs : Bool) : String :=
  let excludeNamespaces :=
    ((lp.input.runtime.bind (·.namespaces)).map (·.exclude)).getD systemNamespaces
  let excludeContainers := ((lp.input.runtime.bind (·.containers)).map (·.exclude)).getD []
  ",".intercalate
    ((if collectAgentLogs then []
      else [makeLogPath "kyma-system" "telemetry-fluent-bit-*" "fluent-bit"]) ++
    [makeLogPath "kyma-system" "*system-logs-agent-*" "collector",
     makeLogPath "kyma-system" "*system-logs-collector-*" "collector",
     makeLogPath "kyma-system" "telemetry-log-agent-*" "collector"] ++
    excludeNamespaces.map (fun ns => makeLogPath ns "*" "*") ++
    excludeContainers.map (fun container => makeLogPath "*" "*" container))

def createInputSection (lp : LogPipeline) (includePath excludePath : String) : SectionBuilder :=
  newInputSectionBuilder
    |>.addConfigParam "name" "tail"
    |>.addConfigParam "alias" lp.name
    |>.addConfigParam "path" includePath
    |>.addIfNotEmpty "exclude_path" excludePath
    |>.addConfigParam "multiline.parser" "cri"
    |>.addConfigParam "tag" (lp.name ++ ".*")
    |>.addConfigParam "skip_long_lines" "on"
    |>.addConfigParam "db" ("/data/flb_" ++ lp.name ++ ".db")
    |>.addConfigParam "db.compare_filename" "on"
    |>.addConfigParam "storage.type" "filesystem"
    |>.addConfigParam "read_from_head" "true"
    |>.addConfigParam "mem_buf_limit" "5MB"

def matchPattern (name : String) : String := name ++ ".*"

inductive FilterType where
  | multiline
  | nonMultiline

def isMultilineFilter (filter : ParameterList) : Bool :=
  containsKey filter "name" && pluginName filter == "multiline"

def customFilterSection (lp : LogPipeline) (filter : FluentBitFilter) : SectionBuilder :=
  newFilterSectionBuilder
    |>.addParams (parseMultiline filter.custom)
    |>.addConfigParam "match" (matchPattern lp.name)

def ofType (filterType : FilterType) (filter : FluentBitFilter) : Bool :=
  match filterType with
  | .multiline => isMultilineFilter (parseMultiline filter.custom)
  | .nonMultiline => !isMultilineFilter (parseMultiline filter.custom)

def createCustomFilters (lp : LogPipeline) (filterType : FilterType) : List SectionBuilder :=
  (lp.fluentBitFilters.filter (ofType filterType)).map (customFilterSection lp)

def createRecordModifierFilter (lp : LogPipeline) (clusterName : String) : SectionBuilder :=
  newFilterSectionBuilder
    |>.addConfigParam "name" "record_modifier"
    |>.addConfigParam "match" (matchPattern lp.name)
    |>.addConfigParam "record" ("cluster_identifier " ++ clusterName)

def fluentBitBool (b : Bool) : String := if b then "on" else "off"

def createKubernetesFilter (lp : LogPipeline) : SectionBuilder :=
  let runtimeInput := lp.input.runtime.getD {}
  let keepAnnotations := runtimeInput.fluentBitKeepAnnotations.getD false
  let keepLabels := (runtimeInput.fluentBitDropLabels.map (!·)).getD true
  let keepOriginalBody := runtimeInput.keepOriginalBody.getD true
  newFilterSectionBuilder
    |>.addConfigParam "name" "kubernetes"
    |>.addConfigParam "match" (matchPattern lp.name)
    |>.addConfigParam "merge_log" "on"
    |>.addConfigParam "k8s-logging.parser" "on"
    |>.addConfigParam "k8s-logging.exclude" "off"
    |>.addConfigParam "kube_tag_prefix" (lp.name ++ ".var.log.pods.")
    |>.addConfigParam "regex_parser" "k8s-pods"
    |>.addConfigParam "annotations" (fluentBitBool keepAnnotations)
    |>.addConfigParam "labels" (fluentBitBool keepLabels)
    |>.addConfigParam "buffer_size" "1MB"
    |>.addConfigParam "keep_log" (fluentBitBool keepOriginalBody)

def createTimestampModifyFilter (lp : LogPipeline) : Option SectionBuilder :=
  if isHTTPOutputDefined lp.output then
    some (newFilterSectionBuilder
      |>.addConfigParam "name" "modify"
      |>.addConfigParam "match" (matchPattern lp.name)
      |>.addConfigParam "copy" "time @timestamp")
  else none

def createLuaFilter (lp : LogPipeline) : Option SectionBuilder :=
  if isHTTPOutputDefined lp.output then
    some (newFilterSectionBuilder
      |>.addConfigParam "name" "lua"
      |>.addConfigParam "match" (matchPattern lp.name)
      |>.addConfigParam "script" "/fluent-bit/scripts/filter-script.lua"
      |>.addConfigParam "call" (if lp.output.fluentBitHTTP.any (·.dedot) then
          "dedot_and_enrich_app_name" else "enrich_app_name"))
  else none

def retryLimit : String := "300"

def isCustomOutputDefined (output : LogPipelineOutput) : Bool := output.fluentBitCustom ≠ ""

def generateCustomOutput (output : LogPipelineOutput) (fsBufferLimit name : String) :
    SectionBuilder :=
  let customOutputParams := parseMultiline output.fluentBitCustom
  newOutputSectionBuilder
    |>.addParams customOutputParams
    |>.addIf (!containsKey customOutputParams "alias") "alias" name
    |>.addConfigParam "match" (matchPattern name)
    |>.addConfigParam "storage.total_limit_size" fsBufferLimit
    |>.addConfigParam "retry_limit" retryLimit

def resolveOptional (value : Option ValueType) (logPipeline : String) : String :=
  (value.map (resolveValue · logPipeline)).getD ""

def generateHTTPOutput (http : FluentBitHTTPOutput) (fsBufferLimit name : String) :
    SectionBuilder :=
  newOutputSectionBuilder
    |>.addConfigParam "name" "http"
    |>.addConfigParam "allow_duplicated_headers" "true"
    |>.addConfigParam "match" (matchPattern name)
    |>.addConfigParam "alias" name
    |>.addConfigParam "storage.total_limit_size" fsBufferLimit
    |>.addConfigParam "retry_limit" retryLimit
    |>.addIfNotEmpty "uri" http.uri
    |>.addIfNotEmpty "compress" http.compress
    |>.addIfNotEmptyOrDefault "port" http.port "443"
    |>.addIfNotEmptyOrDefault "format" http.format "json"
    |>.addConfigParam "json_date_format" "iso8601"
    |>.addIf (SharedTypes.isValid (some http.host)) "host" (resolveValue http.host name)
    |>.addIf (SharedTypes.isValid http.password) "http_passwd" (resolveOptional http.password name)
    |>.addIf (SharedTypes.isValid http.user) "http_user" (resolveOptional http.user name)
    |>.addConfigParam "tls" (if http.tls.insecure then "off" else "on")
    |>.addConfigParam "tls.verify" (if http.tls.insecureSkipVerify then "off" else "on")
    |>.addIf (SharedTypes.isValid http.tls.ca) "tls.ca_file"
      ("/fluent-bit/etc/output-tls-config/" ++ name ++ "-ca.crt")
    |>.addIf (SharedTypes.isValid http.tls.cert) "tls.crt_file"
      ("/fluent-bit/etc/output-tls-config/" ++ name ++ "-cert.crt")
    |>.addIf (SharedTypes.isValid http.tls.key) "tls.key_file"
      ("/fluent-bit/etc/output-tls-config/" ++ name ++ "-key.key")

structure BuilderConfig where
  fsBufferLimit : String := "1G"
  collectAgentLogs : Bool := false

def createOutputSection (lp : LogPipeline) (cfg : BuilderConfig) : Option SectionBuilder :=
  if isCustomOutputDefined lp.output then
    some (generateCustomOutput lp.output cfg.fsBufferLimit lp.name)
  else match lp.output.fluentBitHTTP with
    | some http =>
      if isHTTPOutputDefined lp.output then
        some (generateHTTPOutput http cfg.fsBufferLimit lp.name)
      else none
    | none => none

inductive Origin where
  | builder
  | userFilter

structure Section where
  origin : Origin := .builder
  content : SectionBuilder

def sections (lp : LogPipeline) (cfg : BuilderConfig) (clusterName : String) : List Section :=
  [⟨.builder, createInputSection lp (createIncludePath lp)
    (createExcludePath lp cfg.collectAgentLogs)⟩] ++
  (createCustomFilters lp .multiline).map (⟨.userFilter, ·⟩) ++
  [⟨.builder, createRecordModifierFilter lp clusterName⟩, ⟨.builder, createKubernetesFilter lp⟩] ++
  (createTimestampModifyFilter lp).toList.map (⟨.builder, ·⟩) ++
  (createCustomFilters lp .nonMultiline).map (⟨.userFilter, ·⟩) ++
  (createLuaFilter lp).toList.map (⟨.builder, ·⟩) ++
  (createOutputSection lp cfg).toList.map (⟨.builder, ·⟩)

def joinFilters (filters : List SectionBuilder) : String :=
  "\n".intercalate (filters.map (·.build))

def buildOptional (part : Option SectionBuilder) : String := (part.map (·.build)).getD ""

def sectionsText (lp : LogPipeline) (cfg : BuilderConfig) (clusterName : String) : String :=
  (createInputSection lp (createIncludePath lp)
    (createExcludePath lp cfg.collectAgentLogs)).build ++
  joinFilters (createCustomFilters lp .multiline) ++
  (createRecordModifierFilter lp clusterName).build ++
  (createKubernetesFilter lp).build ++
  buildOptional (createTimestampModifyFilter lp) ++
  joinFilters (createCustomFilters lp .nonMultiline) ++
  buildOptional (createLuaFilter lp) ++
  buildOptional (createOutputSection lp cfg)

def buildFluentBitSectionsConfig (lp : LogPipeline) (cfg : BuilderConfig) (clusterName : String) :
    Except GoError String := do
  FluentBit.buildFluentBitSectionsConfig lp
  pure (sectionsText lp cfg clusterName)

theorem eq_sectionsText {lp : LogPipeline} {cfg : BuilderConfig} {clusterName text : String}
    (hbuild : buildFluentBitSectionsConfig lp cfg clusterName = .ok text) :
    text = sectionsText lp cfg clusterName := by
  unfold buildFluentBitSectionsConfig at hbuild
  cases hsections : FluentBit.buildFluentBitSectionsConfig lp with
  | error err =>
    rw [hsections] at hbuild
    cases hbuild
  | ok u =>
    rw [hsections] at hbuild
    exact (Except.ok.inj hbuild).symm

namespace SectionBuilder

variable (sb : SectionBuilder)

@[simp] theorem kind_addConfigParam (key value : String) :
    (sb.addConfigParam key value).kind = sb.kind := rfl

@[simp] theorem params_addConfigParam (key value : String) :
    (sb.addConfigParam key value).params = sb.params ++ [⟨Text.toLower key, value⟩] := rfl

@[simp] theorem kind_addIf (condition : Bool) (key value : String) :
    (sb.addIf condition key value).kind = sb.kind := by
  cases condition <;> rfl

@[simp] theorem params_addIf (condition : Bool) (key value : String) :
    (sb.addIf condition key value).params =
      sb.params ++ if condition then [⟨Text.toLower key, value⟩] else [] := by
  cases condition <;> simp [addIf]

@[simp] theorem kind_addIfNotEmpty (key value : String) :
    (sb.addIfNotEmpty key value).kind = sb.kind :=
  sb.kind_addIf _ _ _

@[simp] theorem params_addIfNotEmpty (key value : String) :
    (sb.addIfNotEmpty key value).params =
      sb.params ++ if value ≠ "" then [⟨Text.toLower key, value⟩] else [] := by
  simp [addIfNotEmpty]

@[simp] theorem addIfNotEmptyOrDefault_eq (key value defaultValue : String) :
    sb.addIfNotEmptyOrDefault key value defaultValue =
      sb.addConfigParam key (if value = "" then defaultValue else value) := by
  unfold addIfNotEmptyOrDefault
  split <;> rfl

@[simp] theorem kind_addParams (params : ParameterList) : (sb.addParams params).kind = sb.kind := by
  induction params generalizing sb with
  | nil => rfl
  | cons p params ih => exact ih (sb.addConfigParam p.key p.value)

@[simp] theorem params_addParams (params : ParameterList) :
    (sb.addParams params).params =
      sb.params ++ params.map fun p => ⟨Text.toLower p.key, p.value⟩ := by
  induction params generalizing sb with
  | nil => simp [addParams]
  | cons p params ih =>
    have hstep := ih (sb.addConfigParam p.key p.value)
    simpa [addParams] using hstep

variable {k key : String}

theorem values_add_self (h : Text.toLower key = k) (value : String) :
    (sb.addConfigParam key value).values k = sb.values k ++ [value] := by
  simp [values, paramValues, h]

theorem values_add_ne (h : Text.toLower key ≠ k) (value : String) :
    (sb.addConfigParam key value).values k = sb.values k := by
  simp [values, paramValues, h]

theorem values_addIf_ne (h : Text.toLower key ≠ k) (condition : Bool) (value : String) :
    (sb.addIf condition key value).values k = sb.values k := by
  cases condition <;> simp [values, paramValues, h]

theorem values_addIfNotEmpty_ne (h : Text.toLower key ≠ k) (value : String) :
    (sb.addIfNotEmpty key value).values k = sb.values k :=
  sb.values_addIf_ne h _ value

theorem values_addParams {params : ParameterList}
    (hlower : ∀ p ∈ params, Text.toLower p.key = p.key) (k : String) :
    (sb.addParams params).values k = sb.values k ++ paramValues params k := by
  have hmap : params.map (fun p => (⟨Text.toLower p.key, p.value⟩ : Parameter)) = params := by
    rw [List.map_congr_left fun p hp => congrArg (Parameter.mk · p.value) (hlower p hp)]
    exact List.map_id params
  rw [values, params_addParams, hmap, paramValues, List.filterMap_append]
  rfl

end SectionBuilder

theorem mem_parseMultiline {content : String} {p : Parameter} :
    p ∈ parseMultiline content ↔
      ∃ line ∈ Text.split content '\n', parseLine line = .ok (some p) := by
  rw [parseMultiline, List.mem_filterMap]
  refine exists_congr fun line => and_congr_right fun _ => ?_
  cases parseLine line with
  | error err | ok param => simp

theorem toLower_key_parseMultiline (content : String) :
    ∀ p ∈ parseMultiline content, Text.toLower p.key = p.key := by
  intro p hp
  obtain ⟨line, -, hline⟩ := mem_parseMultiline.mp hp
  obtain ⟨key, value, -, -, rfl⟩ := parseLine_eq_some hline
  exact Text.toLower_toLower _

section Values

open SectionBuilder

variable (lp : LogPipeline) (cfg : BuilderConfig) (clusterName : String)

structure Selects (name plugin : String) (sb : SectionBuilder) : Prop where
  plugin : sb.values "name" = [plugin]
  pattern : sb.values "match" = [matchPattern name]

theorem createRecordModifierFilter_selects :
    Selects lp.name "record_modifier" (createRecordModifierFilter lp clusterName) := by
  constructor <;>
    simp (disch := decide) only [createRecordModifierFilter, values_add_ne, values_add_self] <;> rfl

theorem createKubernetesFilter_selects :
    Selects lp.name "kubernetes" (createKubernetesFilter lp) := by
  constructor <;>
    simp (disch := decide +kernel) only [createKubernetesFilter, values_add_ne, values_add_self]
      <;> rfl

variable {sb : SectionBuilder}

theorem createTimestampModifyFilter_selects
    (h : sb ∈ createTimestampModifyFilter lp) : Selects lp.name "modify" sb := by
  obtain ⟨-, hsb⟩ := Option.ite_none_right_eq_some.mp h
  cases hsb
  constructor <;> simp (disch := decide) only [values_add_ne, values_add_self] <;> rfl

theorem createLuaFilter_selects (h : sb ∈ createLuaFilter lp) :
    Selects lp.name "lua" sb := by
  obtain ⟨-, hsb⟩ := Option.ite_none_right_eq_some.mp h
  cases hsb
  constructor <;> simp (disch := decide) only [values_add_ne, values_add_self] <;> rfl

theorem generateHTTPOutput_selects (http : FluentBitHTTPOutput) (limit name : String) :
    Selects name "http" (generateHTTPOutput http limit name) := by
  constructor <;>
    simp (disch := decide +kernel) only [generateHTTPOutput, values_add_ne, values_add_self,
      addIfNotEmptyOrDefault_eq, values_addIf_ne, values_addIfNotEmpty_ne] <;> rfl

theorem values_customFilterSection (filter : FluentBitFilter) (k : String) :
    (customFilterSection lp filter).values k = paramValues (parseMultiline filter.custom) k ++
      if k = "match" then [matchPattern lp.name] else [] := by
  have hparams := values_addParams newFilterSectionBuilder
    (toLower_key_parseMultiline filter.custom) k
  by_cases hk : k = "match"
  · rw [customFilterSection, values_add_self _ (by rw [hk]; decide), hparams, if_pos hk]
    rfl
  · rw [customFilterSection, values_add_ne _ (fun h => hk (h.symm.trans (by decide))), hparams,
      if_neg hk, List.append_nil]
    rfl

theorem values_generateCustomOutput (output : LogPipelineOutput) (limit name : String) {k : String}
    (halias : k ≠ "alias") (hretry : k ≠ "retry_limit") :
    (generateCustomOutput output limit name).values k =
      paramValues (parseMultiline output.fluentBitCustom) k ++
        (if k = "match" then [matchPattern name] else []) ++
        if k = "storage.total_limit_size" then [limit] else [] := by
  have hparams := values_addParams newOutputSectionBuilder
    (toLower_key_parseMultiline output.fluentBitCustom) k
  have hlower : ∀ key ∈ ["alias", "retry_limit", "match", "storage.total_limit_size"],
      Text.toLower key = key := by decide
  have hne : ∀ key ∈ ["alias", "retry_limit", "match", "storage.total_limit_size"], k ≠ key →
      Text.toLower key ≠ k := fun key hkey hk h => hk (h.symm.trans (hlower key hkey))
  rw [generateCustomOutput, values_add_ne _ (hne _ (by simp) hretry)]
  by_cases hstorage : k = "storage.total_limit_size"
  · subst hstorage
    rw [values_add_self _ (by decide), values_add_ne _ (by decide), values_addIf_ne _ (by decide),
      hparams]
    simp [values, paramValues, newOutputSectionBuilder]
  · rw [values_add_ne _ (hne _ (by simp) hstorage), if_neg hstorage, List.append_nil]
    by_cases hmatch : k = "match"
    · subst hmatch
      rw [values_add_self _ (by decide), values_addIf_ne _ (by decide), hparams]
      simp [values, paramValues, newOutputSectionBuilder]
    · rw [values_add_ne _ (hne _ (by simp) hmatch), values_addIf_ne _ (hne _ (by simp) halias),
        hparams]
      simp [values, paramValues, newOutputSectionBuilder, hmatch]

theorem createOutputSection_cases (h : sb ∈ createOutputSection lp cfg) :
    (isCustomOutputDefined lp.output ∧
      sb = generateCustomOutput lp.output cfg.fsBufferLimit lp.name) ∨
    isCustomOutputDefined lp.output = false ∧ ∃ http, lp.output.fluentBitHTTP = some http ∧
      sb = generateHTTPOutput http cfg.fsBufferLimit lp.name := by
  unfold createOutputSection at h
  by_cases hcustom : isCustomOutputDefined lp.output
  · rw [if_pos hcustom] at h
    exact .inl ⟨hcustom, (Option.some.inj h).symm⟩
  · rw [if_neg hcustom] at h
    cases hhttp : lp.output.fluentBitHTTP with
    | none =>
      rw [hhttp] at h
      cases h
    | some http =>
      rw [hhttp] at h
      obtain ⟨-, hsb⟩ := Option.ite_none_right_eq_some.mp h
      exact .inr ⟨by simpa using hcustom, http, rfl, (Option.some.inj hsb).symm⟩

theorem kind_createInputSection (includePath excludePath : String) :
    (createInputSection lp includePath excludePath).kind = .input := by
  simp only [createInputSection, kind_addConfigParam,
    kind_addIfNotEmpty]
  rfl

theorem kind_createOutputSection (h : sb ∈ createOutputSection lp cfg) : sb.kind = .output := by
  rcases createOutputSection_cases lp cfg h with ⟨-, rfl⟩ | ⟨-, http, -, rfl⟩
  · simp only [generateCustomOutput, kind_addConfigParam, kind_addIf,
      kind_addParams]
    rfl
  · simp only [generateHTTPOutput, kind_addConfigParam, kind_addIf,
      kind_addIfNotEmpty, addIfNotEmptyOrDefault_eq]
    rfl

theorem kind_customFilterSection (filter : FluentBitFilter) :
    (customFilterSection lp filter).kind = .filter := by
  simp only [customFilterSection, kind_addConfigParam, kind_addParams]
  rfl

theorem mem_createCustomFilters :
    (∃ filterType, sb ∈ createCustomFilters lp filterType) ↔
      ∃ filter ∈ lp.fluentBitFilters, sb = customFilterSection lp filter := by
  constructor
  · rintro ⟨filterType, h⟩
    obtain ⟨filter, hfilter, rfl⟩ := List.mem_map.mp h
    exact ⟨filter, List.mem_of_mem_filter hfilter, rfl⟩
  · rintro ⟨filter, hfilter, rfl⟩
    cases hmultiline : isMultilineFilter (parseMultiline filter.custom) with
    | true => exact ⟨.multiline, List.mem_map_of_mem (List.mem_filter.mpr ⟨hfilter, hmultiline⟩)⟩
    | false =>
      exact ⟨.nonMultiline, List.mem_map_of_mem
        (List.mem_filter.mpr ⟨hfilter, by simp [ofType, hmultiline]⟩)⟩

/-- A statement about all sections of a pipeline, section by section. -/
theorem forall_sections_iff {P : Section → Prop} :
    (∀ s ∈ sections lp cfg clusterName, P s) ↔
      P ⟨.builder, createInputSection lp (createIncludePath lp)
        (createExcludePath lp cfg.collectAgentLogs)⟩ ∧
      (∀ filter ∈ lp.fluentBitFilters, P ⟨.userFilter, customFilterSection lp filter⟩) ∧
      P ⟨.builder, createRecordModifierFilter lp clusterName⟩ ∧
      P ⟨.builder, createKubernetesFilter lp⟩ ∧
      (∀ sb ∈ createTimestampModifyFilter lp, P ⟨.builder, sb⟩) ∧
      (∀ sb ∈ createLuaFilter lp, P ⟨.builder, sb⟩) ∧
      ∀ sb ∈ createOutputSection lp cfg, P ⟨.builder, sb⟩ := by
  have huser : (∀ filter ∈ lp.fluentBitFilters, P ⟨.userFilter, customFilterSection lp filter⟩) ↔
      (∀ sb ∈ createCustomFilters lp .multiline, P ⟨.userFilter, sb⟩) ∧
      ∀ sb ∈ createCustomFilters lp .nonMultiline, P ⟨.userFilter, sb⟩ := by
    constructor
    · intro h
      have hall : ∀ filterType, ∀ sb ∈ createCustomFilters lp filterType, P ⟨.userFilter, sb⟩ := by
        intro filterType sb hsb
        obtain ⟨filter, hfilter, rfl⟩ := (mem_createCustomFilters lp).mp ⟨filterType, hsb⟩
        exact h filter hfilter
      exact ⟨hall _, hall _⟩
    · rintro ⟨hmultiline, hother⟩ filter hfilter
      obtain ⟨filterType, hmem⟩ := (mem_createCustomFilters lp).mpr ⟨filter, hfilter, rfl⟩
      cases filterType with
      | multiline => exact hmultiline _ hmem
      | nonMultiline => exact hother _ hmem
  simp only [sections, List.mem_append, or_imp, forall_and, List.forall_mem_map,
    List.forall_mem_cons, List.not_mem_nil, false_implies, implies_true, and_true,
    Option.mem_toList, huser]
  tauto

theorem mem_sections {s : Section} (h : s ∈ sections lp cfg clusterName) :
    s = ⟨.builder, createInputSection lp (createIncludePath lp)
      (createExcludePath lp cfg.collectAgentLogs)⟩ ∨
    (∃ filter ∈ lp.fluentBitFilters, s = ⟨.userFilter, customFilterSection lp filter⟩) ∨
    (s.origin = .builder ∧ s.content.kind = .filter ∧
      ∃ plugin, Selects lp.name plugin s.content) ∨
    ∃ sb ∈ createOutputSection lp cfg, s = ⟨.builder, sb⟩ := by
  revert s
  rw [forall_sections_iff]
  refine ⟨.inl rfl, fun filter hfilter => .inr (.inl ⟨filter, hfilter, rfl⟩),
    .inr (.inr (.inl ⟨rfl, rfl, _, createRecordModifierFilter_selects lp clusterName⟩)),
    .inr (.inr (.inl ⟨rfl, rfl, _, createKubernetesFilter_selects lp⟩)),
    fun sb hsb => ?_, fun sb hsb => ?_, fun sb hsb => .inr (.inr (.inr ⟨sb, hsb, rfl⟩))⟩
  · have hselects := createTimestampModifyFilter_selects lp hsb
    obtain ⟨-, hkind⟩ := Option.ite_none_right_eq_some.mp hsb
    exact .inr (.inr (.inl ⟨rfl, by cases hkind; rfl, _, hselects⟩))
  · have hselects := createLuaFilter_selects lp hsb
    obtain ⟨-, hkind⟩ := Option.ite_none_right_eq_some.mp hsb
    exact .inr (.inr (.inl ⟨rfl, by cases hkind; rfl, _, hselects⟩))

end Values

def sortKey (p : Parameter) : ℕ ×ₗ List Char ×ₗ List Char :=
  toLex (if p.key = "name" then 0 else if p.key = "match" then 1 else 2,
    toLex (p.key.toList, p.value.toList))

theorem less_iff (p q : Parameter) : less p q ↔ sortKey p < sortKey q := by
  obtain ⟨key, value⟩ := p
  obtain ⟨key', value'⟩ := q
  simp only [less, sortKey, Prod.Lex.toLex_lt_toLex, String.toList_inj]
  by_cases hkey : key = key'
  · simp [hkey]
  · by_cases hname : key = "name" <;> by_cases hname' : key' = "name" <;>
      by_cases hmatch : key = "match" <;> by_cases hmatch' : key' = "match" <;> simp_all

theorem sortKey_injective : Function.Injective sortKey := by
  intro p q h
  have hpair := congrArg (fun k => ofLex (ofLex k).2) h
  obtain ⟨hkey, hvalue⟩ := Prod.mk.inj hpair
  cases p
  cases q
  exact congrArg₂ Parameter.mk (String.toList_inj.mp hkey) (String.toList_inj.mp hvalue)

theorem sortParams_perm (params : ParameterList) : (sortParams params).Perm params :=
  List.perm_insertionSort _ _

theorem sortParams_sorted (params : ParameterList) :
    (sortParams params).Pairwise fun p q => less q p = false := by
  have htotal : Std.Total fun p q : Parameter => less q p = false := ⟨fun p q => by
    simp only [← Bool.not_eq_true, less_iff, not_lt]
    exact le_total _ _⟩
  have htrans : IsTrans Parameter fun p q => less q p = false := ⟨fun p q r hpq hqr => by
    simp only [← Bool.not_eq_true, less_iff, not_lt] at hpq hqr ⊢
    exact hpq.trans hqr⟩
  exact List.pairwise_insertionSort _ _

/-- The library function sorts in place and need not be stable; there is one result all the same. -/
theorem eq_sortParams {params sorted : ParameterList} (hperm : sorted.Perm params)
    (hsorted : sorted.Pairwise fun p q => less q p = false) : sorted = sortParams params := by
  refine List.Perm.eq_of_pairwise ?_ hsorted (sortParams_sorted params)
    (hperm.trans (sortParams_perm params).symm)
  intro p q _ _ hpq hqp
  simp only [← Bool.not_eq_true, less_iff, not_lt] at hpq hqp
  exact sortKey_injective (le_antisymm hpq hqp)

end TelemetryManager.FluentBitBuilder
