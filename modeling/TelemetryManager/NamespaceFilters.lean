import TelemetryManager.MetricAgentConfig
import TelemetryManager.ObjectNames
import TelemetryManager.OttlText

/-! Namespace filters: which records they drop, by the texts of their conditions. -/
namespace TelemetryManager.NamespaceFilters

open BooleanText Collector Gateway Ottl

section Texts

theorem textOf_append (ts ts' : List (Token Comparison)) :
    textOf (ts ++ ts') = textOf ts ++ textOf ts' := by
  induction ts with
  | nil => simp [textOf]
  | cons t ts ih =>
    have hcons : ∀ t (ts : List (Token Comparison)), textOf (t :: ts) = tokenText t ++ textOf ts :=
      fun _ _ => rfl
    rw [List.cons_append, hcons, hcons, ih, String.append_assoc]

theorem textOf_parenthesized (ts : List (Token Comparison)) :
    textOf (Formula.parenthesized ts) = "(" ++ textOf ts ++ ")" := by
  have hopen : textOf (Formula.parenthesized ts) = "(" ++ textOf (ts ++ [.rparen]) := rfl
  have hclose : textOf [.rparen] = ")" := rfl
  rw [hopen, textOf_append, hclose, String.append_assoc]

theorem intercalate_merge (sep a b : String) (l : List String) :
    sep.intercalate ((a ++ sep ++ b) :: l) = sep.intercalate (a :: b :: l) := by
  cases l with
  | nil => simp
  | cons c l => simp only [String.intercalate_cons_cons, String.append_assoc]

theorem textOf_ors (e : Formula Comparison) (es : List (Formula Comparison)) :
    textOf ((Formula.ors e es).print .alternative) =
      " or ".intercalate (textOf (e.print .alternative) ::
        es.map fun e => textOf (e.print .conjunct)) := by
  induction es generalizing e with
  | nil => simp [Formula.ors]
  | cons e' es ih =>
    have hor : textOf ((Formula.or e e').print .alternative) =
        textOf (e.print .alternative) ++ " or " ++ textOf (e'.print .conjunct) := by
      rw [Formula.print, if_pos rfl, textOf_append, String.append_assoc]
      rfl
    have hstep : Formula.ors e (e' :: es) = Formula.ors (.or e e') es := rfl
    rw [hstep, ih, hor, intercalate_merge]
    rfl

variable {e : Formula Comparison}

/-- The first part must not be an alternative, which would need parentheses. -/
theorem textOf_ands (h : e.print .conjunct = e.print .alternative)
    (es : List (Formula Comparison)) :
    formulaText (Formula.ands e es) =
      " and ".intercalate (formulaText e :: es.map fun e => textOf (e.print .operand)) := by
  induction es generalizing e with
  | nil => simp [Formula.ands]
  | cons e' es ih =>
    have hand : formulaText (.and e e') =
        formulaText e ++ " and " ++ textOf (e'.print .operand) := by
      rw [formulaText, Formula.print, if_neg (by decide), textOf_append, h, String.append_assoc]
      rfl
    have hstep : Formula.ands e (e' :: es) = Formula.ands (.and e e') es := rfl
    rw [hstep, ih rfl, hand, intercalate_merge]
    rfl

theorem joinWithAnd_formulaText {es : List (Formula Comparison)} (h : ∀ e' ∈ e :: es, e'.IsUnit) :
    joinWithAnd ((e :: es).map formulaText) = formulaText (Formula.ands e es) := by
  obtain ⟨he, hes⟩ := List.forall_mem_cons.mp h
  have htexts : es.map (fun e => textOf (e.print .operand)) = es.map formulaText :=
    List.map_congr_left fun e' he' => congrArg textOf (hes e' he' .operand)
  rw [textOf_ands (he .conjunct), htexts]
  rfl

theorem joinWithOr_formulaText {es : List (Formula Comparison)} (h : ∀ e' ∈ e :: es, e'.IsUnit) :
    joinWithOr ((e :: es).map formulaText) = formulaText (.group (Formula.ors e es)) := by
  obtain ⟨he, hes⟩ := List.forall_mem_cons.mp h
  have htexts : es.map (fun e => textOf (e.print .conjunct)) = es.map formulaText :=
    List.map_congr_left fun e' he' => congrArg textOf (hes e' he' .conjunct)
  have hgroup : formulaText (.group (Formula.ors e es)) =
      "(" ++ textOf ((Formula.ors e es).print .alternative) ++ ")" := textOf_parenthesized _
  rw [hgroup, textOf_ors, htexts]
  rfl

/-- `not` leaves the parentheses of a joined text alone and puts others around any other text. -/
theorem not_joinWithOr (parts : List String) : Ottl.not (joinWithOr parts) =
    "not" ++ joinWithOr parts := by
  have hwrapped : isWrappedInParentheses (joinWithOr parts) := by
    simp [isWrappedInParentheses, joinWithOr]
  rw [Ottl.not, if_pos hwrapped]

theorem not_formulaText (h : isWrappedInParentheses (formulaText e) = false) :
    Ottl.not (formulaText e) = formulaText (.not e) := by
  have hnot : formulaText (.not e) =
      "not" ++ textOf (Formula.parenthesized (e.print .alternative)) :=
    rfl
  rw [Ottl.not, if_neg (Bool.eq_false_iff.mp h), hnot, textOf_parenthesized,
    show "not(" = "not" ++ "(" by decide]
  simp only [formulaText, String.append_assoc]

end Texts

section Conditions

def attributeEquals (key value : String) : Formula Comparison := .atom ⟨key, true, some value⟩

def attributeIsNotNil (key : String) : Formula Comparison := .atom ⟨key, false, none⟩

theorem formulaText_atom (c : Comparison) : formulaText (.atom c) = c.text := String.append_empty

theorem formulaText_attributeEquals (key value : String) :
    formulaText (attributeEquals key value) = resourceAttributeEquals key value := by
  rw [attributeEquals, formulaText_atom, Comparison.text, resourceAttributeEquals,
    show " == \"" = " == " ++ "\"" by decide]
  simp only [if_true, String.append_assoc]

theorem formulaText_attributeIsNotNil (key : String) :
    formulaText (attributeIsNotNil key) = resourceAttributeIsNotNil key := by
  rw [attributeIsNotNil, formulaText_atom, Comparison.text, resourceAttributeIsNotNil,
    show " != nil" = " != " ++ "nil" by decide]
  simp only [Bool.false_eq_true, if_false, String.append_assoc]

def namespaceAmong (ns : String) (namespaces : List String) : Formula Comparison :=
  .ors (attributeEquals k8sNamespaceName ns) (namespaces.map (attributeEquals k8sNamespaceName))

theorem joinWithOr_namespacesConditions (ns : String) (namespaces : List String) :
    joinWithOr (namespacesConditions (ns :: namespaces)) =
      formulaText (.group (namespaceAmong ns namespaces)) := by
  have htexts : namespacesConditions (ns :: namespaces) =
      ((ns :: namespaces).map (attributeEquals k8sNamespaceName)).map formulaText := by
    rw [namespacesConditions, List.map_map]
    exact List.map_congr_left fun ns _ =>
      (formulaText_attributeEquals k8sNamespaceName ns).symm
  rw [htexts, List.map_cons]
  refine joinWithOr_formulaText fun e he => ?_
  obtain ⟨ns, -, rfl⟩ := List.mem_map.mp (List.map_cons ▸ he)
  exact fun _ => rfl

theorem not_joinWithOr_namespacesConditions (ns : String) (namespaces : List String) :
    Ottl.not (joinWithOr (namespacesConditions (ns :: namespaces))) =
      formulaText (.not (namespaceAmong ns namespaces)) := by
  rw [not_joinWithOr, joinWithOr_namespacesConditions]
  rfl

variable {record : Record}

theorem eval_attributeEquals {key value : String} :
    (attributeEquals key value).eval (Comparison.holds record) ↔
      record.resourceAttribute key = some (.str value) := by
  simp [attributeEquals, Formula.eval, Comparison.holds]

theorem eval_attributeIsNotNil {key : String} :
    (attributeIsNotNil key).eval (Comparison.holds record) ↔
      record.resourceAttribute key ≠ none := by
  simp [attributeIsNotNil, Formula.eval, Comparison.holds]

theorem eval_namespaceAmong {ns : String} {namespaces : List String} :
    (namespaceAmong ns namespaces).eval (Comparison.holds record) ↔
      ∃ n ∈ ns :: namespaces, record.resourceAttribute k8sNamespaceName = some (.str n) := by
  rw [namespaceAmong, Formula.eval_ors, ← List.map_cons, List.any_map, List.any_eq_true]
  exact exists_congr fun n => and_congr_right fun _ => eval_attributeEquals

end Conditions

def specsOf (config : FilterProcessorConfig) : SignalType → List FilterSpec
  | .trace => config.traces
  | .metric => config.metrics
  | .log => config.logs

/-- The conditions under which a filter drops data of the signal. -/
def conditionsOf (signal : SignalType) : ProcessorConfig → List String
  | .filter config => (specsOf config signal).flatMap (·.conditions)
  | _ => []

/-- The collector can read all conditions of the filter. -/
def Readable (config : ProcessorConfig) : Prop :=
  ∀ signal, ∀ text ∈ conditionsOf signal config, ∀ record, (evaluate record text).isSome

def drops (signal : SignalType) (record : Record) (config : ProcessorConfig) : Bool :=
  (conditionsOf signal config).any fun text => evaluate record text = some true

/-- The namespace is excluded, or it is present and not among those to include. -/
def Unselected (selector : NamespaceSelector) (record : Record) : Prop :=
  (∃ ns ∈ selector.exclude, record.resourceAttribute k8sNamespaceName = some (.str ns)) ∨
    (selector.include ≠ [] ∧ record.resourceAttribute k8sNamespaceName ≠ none ∧
      ∀ ns ∈ selector.include, record.resourceAttribute k8sNamespaceName ≠ some (.str ns))

/-- The condition for excluded namespaces, behind conditions on the source of a record. -/
def excludeConditions (source namespaces : List String) : List String :=
  if namespaces ≠ [] then [joinWithAnd (source ++ [joinWithOr (namespacesConditions namespaces)])]
  else []

def includeConditions (source namespaces : List String) : List String :=
  if namespaces ≠ [] then
    [joinWithAnd (source ++ [resourceAttributeIsNotNil k8sNamespaceName,
      Ottl.not (joinWithOr (namespacesConditions namespaces))])]
  else []

def filterConditions (source : List String) (selector : NamespaceSelector) : List String :=
  excludeConditions source selector.exclude ++ includeConditions source selector.include

/-- The conditions can be read, and one of them holds exactly for the records of `P`. -/
def Selects (conditions : List String) (P : Record → Prop) : Prop :=
  (∀ text ∈ conditions, ∀ record, (evaluate record text).isSome) ∧
    ∀ record, conditions.any (fun text => evaluate record text = some true) = true ↔ P record

theorem Selects.nil {P : Record → Prop} (h : ∀ record, ¬ P record) : Selects [] P :=
  ⟨by simp, fun record => by simp [h record]⟩

theorem Selects.singleton {text : String} {b : Record → Bool} {P : Record → Prop}
    (heval : ∀ record, evaluate record text = some (b record))
    (h : ∀ record, b record ↔ P record) : Selects [text] P := by
  refine ⟨fun text' htext' record => ?_, fun record => ?_⟩
  · rw [List.mem_singleton.mp htext', heval]
    rfl
  · simp [heval, h record]

theorem Selects.append {conditions conditions' : List String} {P P' : Record → Prop}
    (h : Selects conditions P) (h' : Selects conditions' P') :
    Selects (conditions ++ conditions') fun record => P record ∨ P' record := by
  refine ⟨fun text htext => ?_, fun record => ?_⟩
  · rcases List.mem_append.mp htext with htext | htext
    · exact h.1 text htext
    · exact h'.1 text htext
  · rw [List.any_append, Bool.or_eq_true, h.2, h'.2]

section Drops

variable {source : List (Formula Comparison)} {selector : NamespaceSelector} {record : Record}

structure Simple (e : Formula Comparison) : Prop where
  unit : e.IsUnit
  quotable : ∀ c ∈ e.atoms, c.isQuotable

theorem evaluate_joinWithAnd (record : Record) (es : List (Formula Comparison)) (hne : es ≠ [])
    (h : ∀ e ∈ es, Simple e) : evaluate record (joinWithAnd (es.map formulaText)) =
      some (es.all (·.eval (Comparison.holds record))) := by
  cases es with
  | nil => exact absurd rfl hne
  | cons e es =>
    rw [joinWithAnd_formulaText fun e' he' => (h e' he').unit, evaluate_formulaText,
      Formula.eval_ands]
    intro c hc
    rw [Formula.atom_mem_print, Formula.ands, Formula.atoms_foldl fun _ _ => rfl] at hc
    obtain ⟨e', he', hc⟩ := List.mem_flatMap.mp hc
    exact (h e' he').quotable c hc

theorem isQuotable_key : isQuotable k8sNamespaceName := by decide

theorem simple_attributeIsNotNil : Simple (attributeIsNotNil k8sNamespaceName) where
  unit := fun _ => rfl
  quotable := by
    intro c hc
    cases List.mem_singleton.mp hc
    simp [Comparison.isQuotable, isQuotable_key]

variable {namespaces : List String}

theorem quotable_namespaceAmong {ns : String} (h : ∀ n ∈ ns :: namespaces, isQuotable n) :
    ∀ c ∈ (namespaceAmong ns namespaces).atoms, c.isQuotable := by
  intro c hc
  rw [namespaceAmong, Formula.ors, Formula.atoms_foldl fun _ _ => rfl, ← List.map_cons,
    List.flatMap_map] at hc
  obtain ⟨n, hn, hc⟩ := List.mem_flatMap.mp hc
  cases List.mem_singleton.mp hc
  simp [Comparison.isQuotable, isQuotable_key, h n hn]

section Joined

variable (hsource : ∀ e ∈ source, Simple e)

include hsource

theorem joined_selects (rest : List (Formula Comparison)) (hne : rest ≠ [])
    (hrest : ∀ e ∈ rest, Simple e) {P : Record → Prop}
    (hP : ∀ record, rest.all (·.eval (Comparison.holds record)) ↔ P record) :
    Selects [joinWithAnd (source.map formulaText ++ rest.map formulaText)] fun record =>
      source.all (·.eval (Comparison.holds record)) ∧ P record := by
  rw [← List.map_append]
  refine .singleton (fun record => evaluate_joinWithAnd record (source ++ rest) (by simp [hne])
    (List.forall_mem_append.mpr ⟨hsource, hrest⟩)) fun record => ?_
  rw [List.all_append, Bool.and_eq_true, hP]

theorem excludeConditions_selects (hnames : ∀ ns ∈ namespaces, isQuotable ns) :
    Selects (excludeConditions (source.map formulaText) namespaces) fun record =>
      source.all (·.eval (Comparison.holds record)) ∧
        ∃ ns ∈ namespaces, record.resourceAttribute k8sNamespaceName = some (.str ns) := by
  cases namespaces with
  | nil => exact .nil (by simp)
  | cons ns namespaces =>
    rw [excludeConditions, if_pos (List.cons_ne_nil ns namespaces), joinWithOr_namespacesConditions]
    refine joined_selects hsource [.group (namespaceAmong ns namespaces)] (by simp) ?_
      fun record => ?_
    · exact List.forall_mem_singleton.mpr ⟨fun _ => rfl, quotable_namespaceAmong hnames⟩
    · rw [List.all_cons, List.all_nil, Bool.and_true]
      exact eval_namespaceAmong

theorem includeConditions_selects (hnames : ∀ ns ∈ namespaces, isQuotable ns) :
    Selects (includeConditions (source.map formulaText) namespaces) fun record =>
      source.all (·.eval (Comparison.holds record)) ∧ namespaces ≠ [] ∧
        record.resourceAttribute k8sNamespaceName ≠ none ∧
        ∀ ns ∈ namespaces, record.resourceAttribute k8sNamespaceName ≠ some (.str ns) := by
  cases namespaces with
  | nil => exact .nil (by simp)
  | cons ns namespaces =>
    rw [includeConditions, if_pos (List.cons_ne_nil ns namespaces),
      not_joinWithOr_namespacesConditions, ← formulaText_attributeIsNotNil]
    refine joined_selects hsource [attributeIsNotNil k8sNamespaceName,
      .not (namespaceAmong ns namespaces)] (by simp) ?_ fun record => ?_
    · exact List.forall_mem_cons.mpr ⟨simple_attributeIsNotNil,
        List.forall_mem_singleton.mpr ⟨fun _ => rfl, quotable_namespaceAmong hnames⟩⟩
    · rw [List.all_cons, List.all_cons, List.all_nil, Bool.and_true, Bool.and_eq_true,
        eval_attributeIsNotNil, Formula.eval, Bool.not_eq_true', Bool.eq_false_iff, ne_eq _ true,
        eval_namespaceAmong]
      simp

/-- A filter with these conditions drops the records of the source that are not selected. -/
theorem filterConditions_selects
    (hnames : ∀ ns ∈ selector.include ++ selector.exclude, isQuotable ns) :
    Selects (filterConditions (source.map formulaText) selector) fun record =>
      source.all (·.eval (Comparison.holds record)) ∧ Unselected selector record := by
  obtain ⟨hinclude, hexclude⟩ := List.forall_mem_append.mp hnames
  have happend := (excludeConditions_selects hsource hexclude).append
    (includeConditions_selects hsource hinclude)
  exact ⟨happend.1, fun record => (happend.2 record).trans and_or_left.symm⟩

end Joined

end Drops

theorem isQuotable_of_isDNS1123Label {name : String} (h : isDNS1123Label name.toList) :
    isQuotable name := by
  simp only [isDNS1123Label, Bool.and_eq_true] at h
  refine List.all_eq_true.mpr fun c hc => ?_
  have hname := List.all_eq_true.mp h.1.1.2 c hc
  have hquote : c ≠ '"' := by
    rintro rfl
    exact absurd hname (by decide)
  have hescape : c ≠ '\\' := by
    rintro rfl
    exact absurd hname (by decide)
  simp [hquote, hescape]

section Filters

variable (selector : NamespaceSelector) (signal : SignalType)

theorem conditionsOf_logs : conditionsOf signal (namespaceFilterProcessor selector) =
    if signal = .log then filterConditions [] selector else [] := by
  cases signal <;> simp [conditionsOf, specsOf, namespaceFilterProcessor, logFilterProcessor,
    filterConditions, excludeConditions, includeConditions, joinWithAnd]

theorem conditionsOf_metrics :
    conditionsOf signal (metricFilterByNamespaceProcessorConfig selector) = if signal = .metric then
      filterConditions [Ottl.not (kymaInputNameEquals .kyma)] selector else [] := by
  cases signal <;> simp [conditionsOf, specsOf, metricFilterByNamespaceProcessorConfig,
    metricFilterProcessor, filterConditions, excludeConditions, includeConditions]

theorem conditionsOf_agent (source : String) :
    conditionsOf signal (MetricAgent.filterByNamespaceProcessor selector source) =
      if signal = .metric then filterConditions [source] selector else [] := by
  cases signal <;> simp [conditionsOf, specsOf, MetricAgent.filterByNamespaceProcessor,
    metricFilterProcessor, filterConditions, excludeConditions, includeConditions]

end Filters

def inputNameEquals (input : InputSourceType) : Formula Comparison :=
  attributeEquals kymaInputNameAttribute input.text

theorem quotable_inputNameEquals (input : InputSourceType) :
    ∀ c ∈ (inputNameEquals input).atoms, c.isQuotable = true := by
  intro c hc
  cases List.mem_singleton.mp hc
  cases input <;> decide

theorem not_kymaInputNameEquals :
    Ottl.not (kymaInputNameEquals .kyma) = formulaText (.not (inputNameEquals .kyma)) := by
  have htext : formulaText (inputNameEquals .kyma) = kymaInputNameEquals .kyma :=
    formulaText_attributeEquals _ _
  rw [← htext, not_formulaText]
  rw [htext]
  decide +kernel

theorem filter_drops_iff (source : List (Formula Comparison)) {config : ProcessorConfig}
    {selector : NamespaceSelector} {signal : SignalType} {record : Record} {P : Prop}
    (hconditions : ∀ signal', conditionsOf signal' config =
      if signal' = signal then filterConditions (source.map formulaText) selector else [])
    (hsource : ∀ e ∈ source, Simple e)
    (hnames : ∀ ns ∈ selector.include ++ selector.exclude, isDNS1123Label ns.toList)
    (hP : source.all (·.eval (Comparison.holds record)) ↔ P) :
    Readable config ∧ (drops signal record config ↔ P ∧ Unselected selector record) := by
  have hselects := filterConditions_selects hsource fun ns hns =>
    isQuotable_of_isDNS1123Label (hnames ns hns)
  refine ⟨fun signal' text htext => ?_, ?_⟩
  · rw [hconditions] at htext
    split at htext
    · exact hselects.1 text htext
    · cases htext
  · rw [drops, hconditions, if_pos rfl]
    exact (hselects.2 record).trans (and_congr_left' hP)

/-- The three namespace filters can be read by the collector. They drop a record exactly if they
apply to its source, and its namespace is not selected. -/
theorem namespace_filters_drop_iff (selector : NamespaceSelector)
    (hnames : ∀ ns ∈ selector.include ++ selector.exclude, isDNS1123Label ns.toList)
    (record : Record) :
    (Readable (namespaceFilterProcessor selector) ∧
      (drops .log record (namespaceFilterProcessor selector) ↔ Unselected selector record)) ∧
    (Readable (metricFilterByNamespaceProcessorConfig selector) ∧
      (drops .metric record (metricFilterByNamespaceProcessorConfig selector) ↔
        record.resourceAttribute kymaInputNameAttribute ≠
          some (.str InputSourceType.kyma.text) ∧ Unselected selector record)) ∧
    ∀ input : InputSourceType,
      Readable (MetricAgent.filterByNamespaceProcessor selector (kymaInputNameEquals input)) ∧
      (drops .metric record (MetricAgent.filterByNamespaceProcessor selector
          (kymaInputNameEquals input)) ↔
        record.resourceAttribute kymaInputNameAttribute = some (.str input.text) ∧
          Unselected selector record) := by
  refine ⟨?_, ?_, fun input => ?_⟩
  · have hdrops : Readable (namespaceFilterProcessor selector) ∧
        (drops .log record (namespaceFilterProcessor selector) ↔
          True ∧ Unselected selector record) :=
      filter_drops_iff [] (conditionsOf_logs selector) (by simp) hnames (by simp)
    rwa [true_and] at hdrops
  · refine filter_drops_iff [.not (inputNameEquals .kyma)] ?_ ?_ hnames ?_
    · intro signal
      rw [conditionsOf_metrics, not_kymaInputNameEquals]
      rfl
    · exact List.forall_mem_singleton.mpr ⟨fun _ => rfl, quotable_inputNameEquals .kyma⟩
    · rw [List.all_cons, List.all_nil, Bool.and_true, Formula.eval, Bool.not_eq_true',
        Bool.eq_false_iff]
      exact not_congr eval_attributeEquals
  · refine filter_drops_iff [inputNameEquals input] ?_ ?_ hnames ?_
    · intro signal
      rw [conditionsOf_agent, List.map_singleton, inputNameEquals, formulaText_attributeEquals]
      rfl
    · exact List.forall_mem_singleton.mpr ⟨fun _ => rfl, quotable_inputNameEquals input⟩
    · rw [List.all_cons, List.all_nil, Bool.and_true]
      exact eval_attributeEquals

def orderRecord : Record where
  resourceAttribute := fun key =>
    if key = k8sNamespaceName then some (.str "orders")
    else if key = kymaInputNameAttribute then some (.str "prometheus")
    else none

/-- The record is dropped if its namespace is excluded, but not by the filter of another input. -/
theorem excluded_orders_dropped :
    drops .log orderRecord (namespaceFilterProcessor { exclude := ["default", "orders"] }) ∧
    drops .metric orderRecord (metricFilterByNamespaceProcessorConfig
      { exclude := ["default", "orders"] }) ∧
    drops .metric orderRecord (MetricAgent.filterByNamespaceProcessor
      { exclude := ["default", "orders"] } (kymaInputNameEquals .istio)) = false := by
  have hfilters := namespace_filters_drop_iff { exclude := ["default", "orders"] } (by decide)
    orderRecord
  have hunselected : Unselected { exclude := ["default", "orders"] } orderRecord :=
    .inl ⟨"orders", by decide, rfl⟩
  refine ⟨hfilters.1.2.mpr hunselected, hfilters.2.1.2.mpr ⟨by decide, hunselected⟩, ?_⟩
  rw [Bool.eq_false_iff, ne_eq, (hfilters.2.2 .istio).2]
  exact fun h => absurd h.1 (by decide)

end TelemetryManager.NamespaceFilters
