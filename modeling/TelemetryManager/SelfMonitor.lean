import TelemetryManager.CollectorConfig
import TelemetryManager.Library.Regex
import TelemetryManager.ObjectNames

/-! The way from an exporter of the collector to the alert of a pipeline. The self-monitor takes the
type and the name of the pipeline out of the exporter ID by relabel rules, sums the metrics by the
pipeline name, and the prober compares the labels of the alerts. -/
namespace TelemetryManager.SelfMonitor

open Collector

/-- The labels of a series. An absent label is an empty one. -/
abbrev Labels := String → String

inductive Piece where
  | text (s : String)
  | group (n : Nat)

inductive RelabelAction where
  | keep
  | replace

/-- The replacement is by default the text of the first group. -/
structure RelabelConfig where
  sourceLabels : List String
  action : RelabelAction
  regex : Regex
  targetLabel : String := ""
  replacement : List Piece := [.group 1]

def Piece.expand (g : Regex.Captures) : Piece → List Char
  | .text s => s.toList
  | .group n => g n

def sourceValue (c : RelabelConfig) (labels : Labels) : List Char :=
  [';'].intercalate (c.sourceLabels.map fun l => (labels l).toList)

/-- Apply one rule: a series may be dropped, or a label may be set. The expression matches whole
values. -/
def relabelOne (c : RelabelConfig) (labels : Labels) : Option Labels :=
  match c.action, c.regex.fullMatch (sourceValue c labels) with
  | .keep, none => none
  | .keep, some _ => some labels
  | .replace, none => some labels
  | .replace, some g =>
    some (Function.update labels c.targetLabel
      (String.ofList ((c.replacement.map (·.expand g)).flatten)))

def relabel (configs : List RelabelConfig) (labels : Labels) : Option Labels :=
  configs.foldlM (fun labels c => relabelOne c labels) labels

def labelPipelineName : String := "pipeline_name"
def labelPipelineType : String := "pipeline_type"

def otelExporterSent : String := "otelcol_exporter_sent"
def otelExporterSendFailed : String := "otelcol_exporter_send_failed"
def otelExporterEnqueueFailed : String := "otelcol_exporter_enqueue_failed"
def otelReceiverRefused : String := "otelcol_receiver_refused"

def fluentBitMetrics : List String :=
  ["fluentbit_output_proc_bytes_total", "fluentbit_output_dropped_records_total",
   "fluentbit_input_bytes_total", "fluentbit_input_storage_chunks_down"]

def otelCollectorMetrics : List String :=
  [otelExporterSent, otelExporterSendFailed, otelExporterEnqueueFailed, otelReceiverRefused]

def anyOf : List Regex → Regex
  | [] => .char fun _ => false
  | [r] => r
  | r :: rs => .alt r (anyOf rs)

/-- The names of the Fluent Bit metrics, and `<name>_.*` for the collector metrics. -/
def scrapableMetricsRegex : Regex :=
  anyOf (fluentBitMetrics.map (fun m => .literal m.toList) ++
    otelCollectorMetrics.map fun m => .seq (.literal (m ++ "_").toList) (.many Regex.any))

/-- `[a-zA-Z0-9-]` -/
def isNameLetter (c : Char) : Bool := c.isAlphanum || c = '-'

/-- `fluentbit_.+;([a-zA-Z0-9-]+)` -/
def fluentBitNameRegex : Regex :=
  .seq (.literal "fluentbit_".toList) (.seq (.through ';') (.group 1 (.plus isNameLetter)))

def signalRegex : Regex :=
  anyOf [.literal "metric".toList, .literal "trace".toList, .literal "log".toList]

/-- `otelcol_.+;.+/(?:(?:metric|trace|log)pipeline-)?([a-zA-Z0-9-]+)` -/
def exporterNameRegex : Regex :=
  .seq (.literal "otelcol_".toList) (.seq (.through ';') (.seq (.through '/')
    (.seq (.opt (.seq signalRegex (.literal "pipeline-".toList))) (.group 1 (.plus isNameLetter)))))

/-- `otelcol_.+;.+/((metric|trace|log)pipeline)-.+` -/
def exporterTypeRegex : Regex :=
  .seq (.literal "otelcol_".toList) (.seq (.through ';') (.seq (.through '/')
    (.seq (.group 1 (.seq (.group 2 signalRegex) (.literal "pipeline".toList)))
      (.seq (.literal "-".toList) (.plus Regex.any)))))

def scrapableConfig : RelabelConfig where
  sourceLabels := ["__name__"]
  action := .keep
  regex := scrapableMetricsRegex

def fluentBitNameConfig : RelabelConfig where
  sourceLabels := ["__name__", "name"]
  action := .replace
  regex := fluentBitNameRegex
  targetLabel := labelPipelineName

def fluentBitTypeConfig : RelabelConfig where
  sourceLabels := ["__name__", "name"]
  action := .replace
  regex := fluentBitNameRegex
  targetLabel := labelPipelineType
  replacement := [.text "logpipeline"]

def exporterNameConfig : RelabelConfig where
  sourceLabels := ["__name__", "exporter"]
  action := .replace
  regex := exporterNameRegex
  targetLabel := labelPipelineName

def exporterTypeConfig : RelabelConfig where
  sourceLabels := ["__name__", "exporter"]
  action := .replace
  regex := exporterTypeRegex
  targetLabel := labelPipelineType
  replacement := [.group 1]

def metricRelabelConfigs : List RelabelConfig :=
  [scrapableConfig, fluentBitNameConfig, fluentBitTypeConfig, exporterNameConfig,
    exporterTypeConfig]

def ruleDataType : SignalType → String
  | .metric => "metric_points_total"
  | .trace => "spans_total"
  | .log => "log_records_total"

def ruleNamePrefix : SignalType → String
  | .metric => "Metric"
  | .trace => "Trace"
  | .log => "Log"

def pipelineComponentType : SignalType → String
  | .metric => "metricpipeline"
  | .trace => "tracepipeline"
  | .log => "logpipeline"

def rulesAny : String := "any"

/-- The labels of an alert, as the prober gets them. -/
abbrev LabelSet := String → Option String

def alertNameLabel : String := "alertname"

def matchesRuleName (labelSet : LabelSet) (unprefixedRuleName : String) (t : SignalType) : Bool :=
  match labelSet alertNameLabel with
  | none => false
  | some ruleName =>
    if !Text.hasPrefix ruleName (ruleNamePrefix t) then false
    else unprefixedRuleName = rulesAny || ruleName = ruleNamePrefix t ++ unprefixedRuleName

/-- An alert without a pipeline name is matched by all pipelines. -/
def matchesRule (labelSet : LabelSet) (unprefixedRuleName pipelineName : String) (t : SignalType) :
    Bool :=
  if !matchesRuleName labelSet unprefixedRuleName t then false
  else
    match labelSet labelPipelineName with
    | none => true
    | some pipelineNameLabel =>
      if (labelSet labelPipelineType).any (· ≠ pipelineComponentType t) then false
      else pipelineNameLabel = pipelineName

/-- The alert that a rule raises for a series: the rules sum by the pipeline name, so that no other
label is left, and the alert has the name of the rule. -/
def raise (alert : String) (series : Labels) : LabelSet := fun l =>
  if l = alertNameLabel then some alert
  else if l = labelPipelineName ∧ series labelPipelineName ≠ "" then some (series labelPipelineName)
  else none

def exporterMetrics : List String :=
  [otelExporterSent, otelExporterSendFailed, otelExporterEnqueueFailed]

def appendDataType (baseMetricName : String) (t : SignalType) : String :=
  baseMetricName ++ "_" ++ ruleDataType t

/-- A series of an exporter metric as it is scraped, with other labels of any kind. -/
def exporterSeries (metric id : String) (others : Labels) : Labels := fun l =>
  if l = "__name__" then metric
  else if l = "exporter" then id
  else if l = labelPipelineName ∨ l = labelPipelineType then ""
  else others l

section Exporter

variable {g : Regex.Captures} {β : Type} {k : Regex.Captures → List Char → Option β}

theorem run_signalRegex (t : SignalType) (v : List Char) :
    signalRegex.run g (t.text.toList ++ v) k = k g v := by
  cases t <;> simp [signalRegex, anyOf, Regex.run, Regex.literal, SignalType.text]

theorem toList_typePrefix (r : PipelineRef) :
    r.typePrefix.toList = r.signalType.text.toList ++ "pipeline".toList := by
  simp [PipelineRef.typePrefix]

theorem toList_qualifiedName (r : PipelineRef) :
    r.qualifiedName.toList = r.typePrefix.toList ++ '-' :: r.name.toList := by
  simp [PipelineRef.qualifiedName]

/-- The prefix of the type is left out, and the name must have letters only. -/
theorem run_exporterName (r : PipelineRef) (hne : r.name.toList ≠ []) :
    (Regex.seq (.opt (.seq signalRegex (.literal "pipeline-".toList)))
      (.group 1 (.plus isNameLetter))).run g r.qualifiedName.toList Regex.atEnd =
      if r.name.toList.all isNameLetter then
        some (Function.update g 1 r.name.toList) else none := by
  have hpre : r.qualifiedName.toList =
      r.signalType.text.toList ++ ("pipeline-".toList ++ r.name.toList) := by
    simp [PipelineRef.qualifiedName, PipelineRef.typePrefix]
  rw [Regex.run_seq, Regex.run_opt, Regex.run_seq, hpre, run_signalRegex,
    Regex.run_literal_append, Regex.run_group_plus_atEnd]
  by_cases hall : r.name.toList.all isNameLetter = true
  · rw [if_pos ⟨hne, hall⟩, if_pos hall]
    rfl
  · -- without the prefix the group would have to take the letters of the name as well
    rw [if_neg fun h => hall h.2, if_neg hall, Regex.run_group_plus_atEnd, if_neg]
    · rfl
    · simp only [List.all_append, Bool.and_eq_true, not_and]
      exact fun _ _ _ => hall

theorem run_exporterType (r : PipelineRef) (hne : r.name.toList ≠ []) :
    (Regex.seq (.group 1 (.seq (.group 2 signalRegex) (.literal "pipeline".toList)))
      (.seq (.literal "-".toList) (.plus Regex.any))).run g r.qualifiedName.toList Regex.atEnd =
      some (Function.update
        (Function.update g 2 r.signalType.text.toList) 1 r.typePrefix.toList) := by
  have htype : ∀ {β : Type} (v : List Char) (k : Regex.Captures → List Char → Option β),
      (Regex.seq (.group 2 signalRegex) (.literal "pipeline".toList)).run g
        (r.typePrefix.toList ++ v) k = k (Function.update g 2 r.signalType.text.toList) v := by
    intro β v k
    rw [toList_typePrefix, List.append_assoc, Regex.run_seq,
      Regex.run_group_append 2 fun k => run_signalRegex r.signalType _, Regex.run_literal_append]
  rw [toList_qualifiedName, Regex.run_seq, Regex.run_group_append 1 fun k => htype _ k,
    Regex.run_seq]
  exact (Regex.run_literal_append ['-'] _).trans (Regex.run_plus_any_atEnd hne)

variable {base : String}

theorem exists_appendDataType (hbase : base ∈ exporterMetrics) (t : SignalType) :
    ∃ u, (appendDataType base t).toList = "otelcol_".toList ++ u ∧ u ≠ [] ∧ ';' ∉ u := by
  refine ⟨(appendDataType base t).toList.drop 8, ?_⟩
  unfold appendDataType
  rw [String.toList_append]
  simp only [exporterMetrics, List.mem_cons, List.not_mem_nil, or_false] at hbase
  rcases hbase with rfl | rfl | rfl <;> cases t <;> decide

theorem scrapable_appendDataType (hbase : base ∈ exporterMetrics) (t : SignalType) :
    (scrapableMetricsRegex.fullMatch (appendDataType base t).toList).isSome := by
  unfold appendDataType
  rw [String.toList_append]
  simp only [exporterMetrics, List.mem_cons, List.not_mem_nil, or_false] at hbase
  rcases hbase with rfl | rfl | rfl <;> cases t <;> decide

theorem toList_componentIDOTLPExporter (protocol : OTLPProtocol) (r : PipelineRef) :
    ∃ scheme, (componentIDOTLPExporter protocol r).toList =
      scheme ++ '/' :: r.qualifiedName.toList ∧
      scheme ≠ [] ∧ '/' ∉ scheme ∧ ';' ∉ scheme := by
  cases protocol with
  | http => exact ⟨"otlp_http".toList, by simp [componentIDOTLPExporter], by decide⟩
  | grpc => exact ⟨"otlp_grpc".toList, by simp [componentIDOTLPExporter], by decide⟩

theorem notMem_qualifiedName {r : PipelineRef} (hname : isDNS1123Subdomain r.name) {c : Char}
    (hc : (c = '.' || isNameChar c) = false) : c ∉ r.qualifiedName.toList := by
  have hchar : isNameChar c = false := (Bool.or_eq_false_iff.mp hc).2
  have hpre : ∀ d ∈ r.typePrefix.toList ++ ['-'], isNameChar d := by
    rw [toList_typePrefix, ← List.forall_iff_forall_mem]
    cases r.signalType <;> decide
  have hqualified : r.qualifiedName.toList = (r.typePrefix.toList ++ ['-']) ++ r.name.toList := by
    simp [toList_qualifiedName]
  rw [hqualified]
  intro hmem
  rcases List.mem_append.mp hmem with hmem | hmem
  · rw [hpre c hmem] at hchar
    cases hchar
  · exact notMem_of_isDNS1123Subdomain hname hc hmem

theorem fullMatch_exporter (tail : Regex) {r : PipelineRef} (hname : isDNS1123Subdomain r.name)
    (protocol : OTLPProtocol) (hbase : base ∈ exporterMetrics) (t : SignalType) :
    (Regex.seq (.literal "otelcol_".toList)
      (.seq (.through ';') (.seq (.through '/') tail))).fullMatch
      ((appendDataType base t).toList ++ ';' :: (componentIDOTLPExporter protocol r).toList) =
      tail.run (fun _ => []) r.qualifiedName.toList Regex.atEnd := by
  obtain ⟨u, hmetric, hu, hsemicolon⟩ := exists_appendDataType hbase t
  obtain ⟨scheme, hid, hscheme, hslash, hscheme'⟩ := toList_componentIDOTLPExporter protocol r
  have hid' : ';' ∉ scheme ++ '/' :: r.qualifiedName.toList := by
    simp [hscheme', notMem_qualifiedName hname (c := ';') (by decide)]
  rw [hmetric, hid, List.append_assoc, Regex.fullMatch, Regex.run_seq, Regex.run_literal_append,
    Regex.run_seq, Regex.run_through hsemicolon hu hid', Regex.run_seq,
    Regex.run_through hslash hscheme (notMem_qualifiedName hname (by decide))]

theorem fullMatch_fluentBitNameRegex (hbase : base ∈ exporterMetrics) (t : SignalType)
    (v : List Char) :
    fluentBitNameRegex.fullMatch ((appendDataType base t).toList ++ v) = none := by
  obtain ⟨u, hmetric, -⟩ := exists_appendDataType hbase t
  rw [hmetric]
  exact Regex.run_literal_ne (by decide) _ _

/-- The labels of an exporter series after the relabel rules: the type always, and the name if it
has letters, digits and dashes only. -/
def exporterLabels (r : PipelineRef) (series : Labels) : Labels :=
  Function.update
    (if r.name.toList.all isNameLetter then Function.update series labelPipelineName r.name
    else series) labelPipelineType r.typePrefix

theorem relabelOne_keep {c : RelabelConfig} {labels : Labels} (hc : c.action = .keep)
    (h : (c.regex.fullMatch (sourceValue c labels)).isSome) :
    relabelOne c labels = some labels := by
  obtain ⟨g, hg⟩ := Option.isSome_iff_exists.mp h
  simp [relabelOne, hc, hg]

theorem relabelOne_replace {c : RelabelConfig} {labels : Labels} (hc : c.action = .replace) :
    relabelOne c labels = some ((c.regex.fullMatch (sourceValue c labels)).elim labels fun g =>
      Function.update labels c.targetLabel
        (String.ofList ((c.replacement.map (·.expand g)).flatten))) := by
  cases h : c.regex.fullMatch (sourceValue c labels) <;> simp [relabelOne, hc, h]

section Series

variable {r : PipelineRef} {protocol : OTLPProtocol} {base : String} {t : SignalType}
  {labels : Labels}

theorem sourceValue_pair {c : RelabelConfig} {l l' : String} (hc : c.sourceLabels = [l, l'])
    (labels : Labels) : sourceValue c labels = (labels l).toList ++ ';' :: (labels l').toList := by
  simp [sourceValue, hc, List.intercalate, List.intersperse]

theorem relabelOne_fluentBit {c : RelabelConfig} (hc : c.action = .replace)
    (hlabels : c.sourceLabels = ["__name__", "name"]) (hregex : c.regex = fluentBitNameRegex)
    (hbase : base ∈ exporterMetrics) (hmetric : labels "__name__" = appendDataType base t) :
    relabelOne c labels = some labels := by
  rw [relabelOne_replace hc, sourceValue_pair hlabels, hregex, hmetric,
    fullMatch_fluentBitNameRegex hbase]
  rfl

variable (hname : isDNS1123Subdomain r.name) (hne : r.name.toList ≠ [])
  (hbase : base ∈ exporterMetrics) (hmetric : labels "__name__" = appendDataType base t)
  (hexporter : labels "exporter" = componentIDOTLPExporter protocol r)

include hname hne hbase hmetric hexporter

theorem relabelOne_exporterName :
    relabelOne exporterNameConfig labels =
      some (if r.name.toList.all isNameLetter then Function.update labels labelPipelineName r.name
        else labels) := by
  have hmatch : exporterNameConfig.regex.fullMatch (sourceValue exporterNameConfig labels) =
      if r.name.toList.all isNameLetter then some (Function.update (fun _ => []) 1 r.name.toList)
      else none := by
    rw [sourceValue_pair rfl, hmetric, hexporter]
    exact (fullMatch_exporter _ hname protocol hbase t).trans (run_exporterName r hne)
  rw [relabelOne_replace rfl, hmatch]
  split
  · simp [exporterNameConfig, Piece.expand]
  · rfl

theorem relabelOne_exporterType :
    relabelOne exporterTypeConfig labels =
      some (Function.update labels labelPipelineType r.typePrefix) := by
  have hmatch : exporterTypeConfig.regex.fullMatch (sourceValue exporterTypeConfig labels) =
      some (Function.update (Function.update (fun _ => []) 2 r.signalType.text.toList) 1
        r.typePrefix.toList) := by
    rw [sourceValue_pair rfl, hmetric, hexporter]
    exact (fullMatch_exporter _ hname protocol hbase t).trans (run_exporterType r hne)
  rw [relabelOne_replace rfl, hmatch]
  simp [exporterTypeConfig, Piece.expand]

theorem relabel_exporter :
    relabel metricRelabelConfigs labels = some (exporterLabels r labels) := by
  have hkeep : relabelOne scrapableConfig labels = some labels := by
    refine relabelOne_keep rfl ?_
    simp only [sourceValue, scrapableConfig, List.map_cons, List.map_nil, hmetric]
    simpa [List.intercalate] using scrapable_appendDataType hbase t
  have hfluentBitName : relabelOne fluentBitNameConfig labels = some labels :=
    relabelOne_fluentBit rfl rfl rfl hbase hmetric
  have hfluentBitType : relabelOne fluentBitTypeConfig labels = some labels :=
    relabelOne_fluentBit rfl rfl rfl hbase hmetric
  have hset : ∀ l, l ≠ labelPipelineName →
      (if r.name.toList.all isNameLetter then Function.update labels labelPipelineName r.name
        else labels) l = labels l := by
    intro l hl
    split
    · rw [Function.update_of_ne hl]
    · rfl
  simp only [relabel, metricRelabelConfigs, List.foldlM_cons, List.foldlM_nil, hkeep,
    hfluentBitName, hfluentBitType, relabelOne_exporterName hname hne hbase hmetric hexporter,
    Option.bind_eq_bind, Option.bind_some]
  rw [relabelOne_exporterType hname hne hbase ((hset _ (by decide)).trans hmetric)
    ((hset _ (by decide)).trans hexporter)]
  rfl

end Series

end Exporter

theorem hasPrefix_ruleName_iff (t t' : SignalType) (rule : String) :
    Text.hasPrefix (ruleNamePrefix t ++ rule) (ruleNamePrefix t') ↔ t' = t := by
  cases t <;> cases t' <;> simp [Text.hasPrefix, ruleNamePrefix, List.isPrefixOf]

/-- An alert of a rule is matched by the pipelines of its signal that have the name of the series,
or by all of them if the series has none. -/
theorem matchesRule_raise_iff (t t' : SignalType) (rule unprefixed name : String)
    (series : Labels) :
    matchesRule (raise (ruleNamePrefix t ++ rule) series) unprefixed name t' ↔
      t' = t ∧ (unprefixed = rulesAny ∨ unprefixed = rule) ∧
        (series labelPipelineName = "" ∨ series labelPipelineName = name) := by
  have hruleName : matchesRuleName (raise (ruleNamePrefix t ++ rule) series) unprefixed t' ↔
      t' = t ∧ (unprefixed = rulesAny ∨ unprefixed = rule) := by
    simp only [matchesRuleName, raise, if_pos]
    rw [← hasPrefix_ruleName_iff t t' rule]
    by_cases hpre : Text.hasPrefix (ruleNamePrefix t ++ rule) (ruleNamePrefix t')
    · obtain rfl := (hasPrefix_ruleName_iff t t' rule).mp hpre
      simp only [hpre, Bool.not_true, Bool.false_eq_true, if_false, Bool.or_eq_true,
        decide_eq_true_eq, true_and, String.append_right_inj]
      rw [eq_comm (a := rule)]
    · simp [hpre]
  have htype : raise (ruleNamePrefix t ++ rule) series labelPipelineType = none := by
    simp [raise, alertNameLabel, labelPipelineType, labelPipelineName]
  have hnameLabel : raise (ruleNamePrefix t ++ rule) series labelPipelineName =
      if series labelPipelineName = "" then none else some (series labelPipelineName) := by
    rw [raise, if_neg (by decide)]
    by_cases hempty : series labelPipelineName = "" <;> simp [hempty]
  rw [← and_assoc, ← hruleName]
  cases hmatches : matchesRuleName (raise (ruleNamePrefix t ++ rule) series) unprefixed t' with
  | false => simp [matchesRule, hmatches]
  | true =>
    by_cases hempty : series labelPipelineName = "" <;>
      simp [matchesRule, hmatches, hnameLabel, htype, hempty]

structure Identifies (r : PipelineRef) (protocol : OTLPProtocol) : Prop where
  labels : ∀ base ∈ exporterMetrics, ∀ others, ∃ series,
    relabel metricRelabelConfigs (exporterSeries (appendDataType base r.signalType)
      (componentIDOTLPExporter protocol r) others) = some series ∧
      series labelPipelineType = r.typePrefix ∧ series labelPipelineName = r.name
  alerts : ∀ base ∈ exporterMetrics, ∀ others series,
    relabel metricRelabelConfigs (exporterSeries (appendDataType base r.signalType)
      (componentIDOTLPExporter protocol r) others) = some series →
      ∀ (rule unprefixed : String) (r' : PipelineRef),
        matchesRule (raise (ruleNamePrefix r.signalType ++ rule) series) unprefixed r'.name
          r'.signalType ↔ r' = r ∧ (unprefixed = rulesAny ∨ unprefixed = rule)

theorem isNameLetter_of_isNameChar {c : Char} (h : isNameChar c) :
    isNameLetter c := by
  simp only [isNameChar, Bool.or_eq_true] at h
  unfold isNameLetter Char.isAlphanum Char.isAlpha
  simp only [Bool.or_eq_true]
  tauto

theorem toList_ne_nil_of_isDNS1123Subdomain {name : String} (h : isDNS1123Subdomain name) :
    name.toList ≠ [] := by
  intro hnil
  simp [isDNS1123Subdomain, hnil, Text.splitAux, isDNS1123Label] at h

theorem all_isNameLetter_iff {name : String} (h : isDNS1123Subdomain name) :
    name.toList.all isNameLetter = true ↔ '.' ∉ name.toList := by
  rw [List.all_eq_true]
  constructor
  · exact fun hall hdot => absurd (hall '.' hdot) (by decide)
  · intro hdot c hc
    rcases isNameChar_of_isDNS1123Subdomain h c hc with rfl | hchar
    · exact absurd hc hdot
    · exact isNameLetter_of_isNameChar hchar

/-- The exporter of a pipeline is identified if and only if the name of the pipeline has no dot. -/
theorem exporter_identified_iff (r : PipelineRef) (protocol : OTLPProtocol)
    (hname : isDNS1123Subdomain r.name) : Identifies r protocol ↔ '.' ∉ r.name.toList := by
  have hne := toList_ne_nil_of_isDNS1123Subdomain hname
  have hnonempty : r.name ≠ "" := fun h => hne (by rw [h]; rfl)
  have hrelabel : ∀ base ∈ exporterMetrics, ∀ others, relabel metricRelabelConfigs
      (exporterSeries (appendDataType base r.signalType)
        (componentIDOTLPExporter protocol r) others) =
      some (exporterLabels r (exporterSeries (appendDataType base r.signalType)
        (componentIDOTLPExporter protocol r) others)) :=
    fun base hbase others => relabel_exporter hname hne hbase rfl rfl
  rw [← all_isNameLetter_iff hname]
  constructor
  · intro h
    obtain ⟨series, hseries, -, hlabel⟩ := h.labels otelExporterSent (by decide) fun _ => ""
    rw [hrelabel _ (by decide)] at hseries
    cases hseries
    by_contra hall
    refine hnonempty (hlabel.symm.trans ?_)
    rw [exporterLabels, if_neg hall, Function.update_of_ne (by decide)]
    rfl
  · intro hall
    have hlabel : ∀ series, exporterLabels r series labelPipelineName = r.name := by
      intro series
      rw [exporterLabels, if_pos hall, Function.update_of_ne (by decide), Function.update_self]
    refine ⟨fun base hbase others =>
      ⟨_, hrelabel base hbase others, Function.update_self .., hlabel _⟩,
      fun base hbase others series hseries rule unprefixed r' => ?_⟩
    rw [hrelabel base hbase others] at hseries
    cases hseries
    rw [matchesRule_raise_iff, hlabel]
    constructor
    · rintro ⟨hsignal, hrule, hempty | hsame⟩
      · exact absurd hempty hnonempty
      · cases r
        cases r'
        cases hsignal
        cases hsame
        exact ⟨rfl, hrule⟩
    · rintro ⟨rfl, hrule⟩
      exact ⟨rfl, hrule, .inr rfl⟩

theorem backend_identified : Identifies ⟨"my-backend", .metric⟩ .http :=
  (exporter_identified_iff ⟨"my-backend", .metric⟩ .http (by decide)).mpr (by decide)

def dottedRef : PipelineRef := ⟨"team.a", .trace⟩

/-- The alert of a pipeline with a dot in its name is matched by another pipeline. -/
theorem dotted_name_matches_others :
    isDNS1123Subdomain dottedRef.name ∧
      ∃ series, relabel metricRelabelConfigs
          (exporterSeries (appendDataType otelExporterSendFailed .trace)
            (componentIDOTLPExporter .grpc dottedRef) fun _ => "") = some series ∧
        series labelPipelineName = "" ∧
        matchesRule (raise "TraceGatewayAllDataDropped" series) "GatewayAllDataDropped" "backend"
          .trace := by
  have hname : isDNS1123Subdomain dottedRef.name := by decide
  have hexporter : exporterSeries (appendDataType otelExporterSendFailed .trace)
      (componentIDOTLPExporter .grpc dottedRef) (fun _ => "") "exporter" =
      componentIDOTLPExporter .grpc dottedRef := rfl
  refine ⟨hname, _, relabel_exporter hname (by decide) (by decide) rfl hexporter, ?_, ?_⟩
  · rfl
  · exact (matchesRule_raise_iff .trace .trace "GatewayAllDataDropped" _ _ _).mpr
      ⟨rfl, .inr rfl, .inl rfl⟩

end TelemetryManager.SelfMonitor
