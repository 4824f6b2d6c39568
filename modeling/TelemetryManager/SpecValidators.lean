import TelemetryManager.KubeClient
import TelemetryManager.Library.Text
import TelemetryManager.MetricPipelineUtils
import TelemetryManager.RuntimeMetrics

/-! Validators that look at the pipeline spec only: OTTL statements and conditions, additional
runtime metrics, and the custom sections, files and host names of Fluent Bit pipelines. -/
namespace TelemetryManager.SpecValidators

open Interaction

structure ParserCollection where
  parseStatements : List String → List String → Except String Unit
  parseConditions : List String → Except String Unit

structure OttlLib where
  transformParsers : SignalType → ParserCollection
  filterParsers : SignalType → ParserCollection

def invalidSpec (errorMessage text : String) : GoError :=
  .invalidOTTLSpec (.errorf (errorMessage ++ ": ") (.new text) "")

def parseStatementsWithConditions (pc : ParserCollection) (statements conditions : List String) :
    Except String Unit :=
  pc.parseStatements statements conditions

def parseConditions (pc : ParserCollection) (conditions : List String) : Except String Unit :=
  if conditions = [] then .ok () else pc.parseConditions conditions

def validateStatementsAndConditions (pc : ParserCollection) (statements conditions : List String) :
    Except GoError Unit := do
  (parseStatementsWithConditions pc statements conditions).mapError
    (invalidSpec "invalid TransformSpec")
  (parseConditions pc conditions).mapError (invalidSpec "invalid TransformSpec")

def validateTransforms (lib : OttlLib) (signal : SignalType) (transforms : List TransformSpec) :
    Except GoError Unit :=
  transforms.forM fun ts =>
    validateStatementsAndConditions (lib.transformParsers signal) ts.statements ts.conditions

def validateConditions (pc : ParserCollection) (conditions : List String) : Except GoError Unit :=
  (parseConditions pc conditions).mapError (invalidSpec "invalid FilterSpec")

def validateFilters (lib : OttlLib) (signal : SignalType) (filters : Option (List FilterSpec)) :
    Except GoError Unit :=
  (filters.getD []).forM fun fs => validateConditions (lib.filterParsers signal) fs.conditions

def validRuntimeMetrics : List String :=
  RuntimeMetrics.kubeletStatsReceiverMetrics ++ RuntimeMetrics.k8sClusterReceiverMetrics

def docuLink : String :=
  "https://kyma-project.io/external-content/telemetry-manager/docs/user/collecting-metrics/" ++
  "runtime-metrics.html#runtime-additional-metrics"

def validateRuntimeAdditionalMetrics (mp : MetricPipeline) : Except GoError Unit :=
  match mp.input.runtime with
  | none => .ok ()
  | some runtime =>
    if MetricPipelineUtils.isRuntimeInputEnabled mp.input then
      runtime.additionalMetrics.forM fun m =>
        if m ∈ validRuntimeMetrics then .ok ()
        else .error (.invalidAdditionalMetric (.new ("invalid runtime additional metric: " ++ m ++
          ". For the list of valid runtime additional metrics, check documentation: " ++
          docuLink)))
    else .ok ()

structure Parameter where
  key : String
  value : String

abbrev ParameterList := List Parameter

def containsKey (params : ParameterList) (key : String) : Bool := params.any (·.key == key)

def getByKey (params : ParameterList) (key : String) : Option Parameter :=
  params.find? (·.key == key)

/-- One line of a custom section; `none` for a blank or comment line. -/
def parseLine (line : String) : Except GoError (Option Parameter) :=
  let line := Text.trimSpace line
  if line = "" ∨ Text.hasPrefix line "#" then .ok none
  else match Text.cut line ' ' with
    | none => .error (.new ("invalid line: " ++ line))
    | some (key, value) =>
      .ok (some ⟨Text.toLower (Text.trimSpace key), Text.trimSpace value⟩)

def parseLines : List String → Except GoError ParameterList
  | [] => .ok []
  | line :: lines => do
    let param ← parseLine line
    let params ← parseLines lines
    pure (param.toList ++ params)

def parseCustomSection (content : String) : Except GoError ParameterList :=
  parseLines (Text.split content '\n')

def forbiddenFilters : List String := ["kubernetes", "rewrite_tag"]

def pluginName (params : ParameterList) : String := ((getByKey params "name").map (·.value)).getD ""

def validateCustomFilter (content : String) : Except GoError Unit :=
  if content = "" then .ok ()
  else do
    let params ← parseCustomSection content
    if !containsKey params "name" then
      .error (.new "custom filter configuration must have name attribute")
    else if forbiddenFilters.any (Text.equalFold (pluginName params)) then
      .error (.new ("custom filter plugin '" ++ pluginName params ++ "' is not supported. "))
    else if containsKey params "match" then
      .error (.new ("custom filter plugin '" ++ pluginName params ++
        "' contains match condition. Match conditions are forbidden"))
    else .ok ()

def validateCustomOutput (content : String) : Except GoError Unit :=
  if content = "" then .ok ()
  else do
    let params ← parseCustomSection content
    if !containsKey params "name" then
      .error (.new "custom output configuration section must have name attribute")
    else if containsKey params "match" then
      .error (.new ("custom output plugin '" ++ pluginName params ++
        "' contains match condition. Match conditions are forbidden"))
    else if containsKey params "storage.total_limit_size" then
      .error (.new ("custom output plugin '" ++ pluginName params ++
        "' contains forbidden configuration key 'storage.total_limit_size'"))
    else .ok ()

def validateFluentBitFilters (lp : LogPipeline) : Except GoError Unit :=
  lp.fluentBitFilters.forM fun filterPlugin => validateCustomFilter filterPlugin.custom

def validateFileNames (lp : LogPipeline) : Except GoError Unit :=
  if (lp.fluentBitFiles.map (·.name)).dedup.length ≠ lp.fluentBitFiles.length then
    .error (.new "duplicate file names detected please review your pipeline")
  else .ok ()

def isAlphanumeric (c : Char) : Bool :=
  ('a' ≤ c && c ≤ 'z') || ('A' ≤ c && c ≤ 'Z') || ('0' ≤ c && c ≤ '9')

/-- A label of a host name: letters, digits and dashes, not starting or ending with a dash. -/
def isHostnameLabel (label : String) : Bool :=
  label.toList.all (fun c => isAlphanumeric c || c == '-') &&
    label.toList.head?.any isAlphanumeric && label.toList.getLast?.any isAlphanumeric

/-- `validHostNamePattern` on the trimmed host: labels separated by single dots. -/
def isValidHostname (host : String) : Bool :=
  (Text.split (Text.trimChar host ' ') '.').all isHostnameLabel

def validateHostname (httpOutput : Option FluentBitHTTPOutput) : Except GoError Unit :=
  match httpOutput with
  | some http =>
    if http.host.value ≠ "" ∧ !isValidHostname http.host.value then
      .error (.new ("invalid hostname '" ++ http.host.value ++ "'"))
    else .ok ()
  | none => .ok ()

theorem parseLine_eq_some {line : String} {param : Parameter}
    (h : parseLine line = .ok (some param)) :
    ∃ key value, Text.cut (Text.trimSpace line) ' ' = some (key, value) ∧
      ¬ (Text.trimSpace line = "" ∨ Text.hasPrefix (Text.trimSpace line) "#") ∧
      param = ⟨Text.toLower (Text.trimSpace key), Text.trimSpace value⟩ := by
  unfold parseLine at h
  by_cases hskip : Text.trimSpace line = "" ∨ Text.hasPrefix (Text.trimSpace line) "#"
  · simp only [if_pos hskip, Except.ok.injEq, reduceCtorEq] at h
  · simp only [if_neg hskip] at h
    cases hcut : Text.cut (Text.trimSpace line) ' ' with
    | none => simp only [hcut, reduceCtorEq] at h
    | some parts =>
      simp only [hcut, Except.ok.injEq, Option.some.injEq] at h
      exact ⟨parts.1, parts.2, rfl, hskip, h.symm⟩

private theorem mapError_fails {text : String} (x : Except String Unit) :
    Fails GoError.IsPlain (x.mapError (invalidSpec text)) := by
  cases x with
  | error e => exact Fails.error ⟨rfl, rfl⟩
  | ok u => exact Fails.ok u

theorem validateTransforms_fails (lib : OttlLib) (signal : SignalType)
    (transforms : List TransformSpec) :
    Fails GoError.IsPlain (validateTransforms lib signal transforms) :=
  Fails.forM fun _ _ => (mapError_fails _).bind fun _ => mapError_fails _

theorem validateFilters_fails (lib : OttlLib) (signal : SignalType)
    (filters : Option (List FilterSpec)) :
    Fails GoError.IsPlain (validateFilters lib signal filters) :=
  Fails.forM fun _ _ => mapError_fails _

theorem validateRuntimeAdditionalMetrics_fails (mp : MetricPipeline) :
    Fails GoError.IsPlain (validateRuntimeAdditionalMetrics mp) := by
  unfold validateRuntimeAdditionalMetrics
  split
  · exact Fails.ok _
  · exact Fails.ite (.forM fun _ _ => .ite (.ok _) (.error ⟨rfl, rfl⟩)) (.ok _)

theorem parseCustomSection_fails (content : String) :
    Fails GoError.IsPlain (parseCustomSection content) := by
  unfold parseCustomSection
  generalize Text.split content '\n' = lines
  induction lines with
  | nil => exact Fails.ok _
  | cons line lines ih =>
    refine Fails.bind ?_ fun _ => ih.bind fun _ => Fails.ok _
    refine Fails.ite (.ok _) ?_
    split
    · exact Fails.error ⟨rfl, rfl⟩
    · exact Fails.ok _

theorem threeChecks_fails {p q r : Prop} [Decidable p] [Decidable q] [Decidable r]
    {a b c : String} : Fails GoError.IsPlain (if p then .error (.new a) else if q then
      .error (.new b) else if r then .error (.new c) else .ok ()) :=
  .ite (.error ⟨rfl, rfl⟩) (.ite (.error ⟨rfl, rfl⟩) (.ite (.error ⟨rfl, rfl⟩) (.ok ())))

theorem validateCustomFilter_fails (content : String) :
    Fails GoError.IsPlain (validateCustomFilter content) :=
  .ite (.ok ()) ((parseCustomSection_fails content).bind fun _ => threeChecks_fails)

theorem validateFluentBitFilters_fails (lp : LogPipeline) :
    Fails GoError.IsPlain (validateFluentBitFilters lp) :=
  Fails.forM fun _ _ => validateCustomFilter_fails _

theorem validateCustomOutput_fails (content : String) :
    Fails GoError.IsPlain (validateCustomOutput content) :=
  .ite (.ok ()) ((parseCustomSection_fails content).bind fun _ => threeChecks_fails)

theorem validateFileNames_fails (lp : LogPipeline) :
    Fails GoError.IsPlain (validateFileNames lp) :=
  Fails.ite (.error ⟨rfl, rfl⟩) (.ok _)

theorem validateHostname_fails (httpOutput : Option FluentBitHTTPOutput) :
    Fails GoError.IsPlain (validateHostname httpOutput) := by
  unfold validateHostname
  split
  · exact Fails.ite (.error ⟨rfl, rfl⟩) (.ok _)
  · exact Fails.ok _

end TelemetryManager.SpecValidators
