import TelemetryManager.ApiConversion

/-! What the selectors of a pipeline select, before and after the conversion.
An empty list of included namespaces selects all namespaces, so a list must not become empty. -/
namespace TelemetryManager.ApiConversion

open FluentBitBuilder (systemNamespaces)

/-- The namespace is included, or no namespaces are named, and it is not excluded. -/
def selects (selector : NamespaceSelector) (ns : String) : Bool :=
  (selector.include = [] || ns ∈ selector.include) && ns ∉ selector.exclude

/-- The selection of the OTLP inputs: without a selector all namespaces. -/
def selectsByDefault : Option NamespaceSelector → String → Bool
  | none, _ => true
  | some selector, ns => selects selector ns

/-- The selection of the other inputs: without a selector all but the system namespaces. -/
def selectsNonSystemByDefault : Option NamespaceSelector → String → Bool
  | none, ns => ns ∉ systemNamespaces
  | some selector, ns => selects selector ns

/-- In `v1alpha1` system namespaces are selected if the flag is set or namespaces are named. -/
def applicationSelects (selector : V1Alpha1.LogPipelineNamespaceSelector) (ns : String) : Bool :=
  if selector.include = [] ∧ selector.exclude = [] ∧ selector.system = false then
    ns ∉ systemNamespaces
  else selects ⟨selector.include, selector.exclude⟩ ns

def applicationInputSelects (input : V1Alpha1.LogPipelineInput) (ns : String) : Bool :=
  match input.application with
  | none => ns ∉ systemNamespaces
  | some application => applicationSelects application.namespaces ns

def runtimeSelects (input : LogPipelineInput) (ns : String) : Bool :=
  selectsNonSystemByDefault (input.runtime.bind (·.namespaces)) ns

def containerSelects : Option LogPipelineContainerSelector → String → Bool
  | none, _ => true
  | some selector, container =>
    (selector.include = [] || container ∈ selector.include) && container ∉ selector.exclude

theorem selects_iff {selector : NamespaceSelector} {ns : String} : selects selector ns ↔
    (selector.include = [] ∨ ns ∈ selector.include) ∧ ns ∉ selector.exclude := by
  simp [selects]

section Sanitize

variable {selector : NamespaceSelector} {ns : String} {names : List String}

theorem mem_sanitizeNamespaceNames (hns : isValidNamespaceName ns) :
    ns ∈ sanitizeNamespaceNames names ↔ ns ∈ names := by
  simp [sanitizeNamespaceNames, hns]

theorem sanitizeNamespaceNames_eq_nil_iff :
    sanitizeNamespaceNames names = [] ↔ ∀ name ∈ names, isValidNamespaceName name = false := by
  simp [sanitizeNamespaceNames, List.filter_eq_nil_iff]

theorem sanitizeNamespaceNames_eq_self
    (h : ∀ name ∈ names, isValidNamespaceName name) : sanitizeNamespaceNames names = names :=
  List.filter_eq_self.mpr h

/-- A selector that names namespaces names one that can exist, or excludes all of them. -/
def Satisfiable (selector : NamespaceSelector) : Prop :=
  selector.include = [] ∨ (∃ name ∈ selector.include, isValidNamespaceName name) ∨
    ∀ name, isValidNamespaceName name → name ∈ selector.exclude

theorem selects_sanitizeSelector (h : Satisfiable selector) (hns : isValidNamespaceName ns) :
    selects (sanitizeSelector selector) ns = selects selector ns := by
  rw [Bool.eq_iff_iff, selects_iff, selects_iff]
  simp only [sanitizeSelector, mem_sanitizeNamespaceNames hns]
  refine and_congr_left fun hexclude => or_congr_left' fun hinclude => ?_
  rw [sanitizeNamespaceNames_eq_nil_iff]
  constructor
  · intro hinvalid
    rcases h with hempty | ⟨name, hmem, hname⟩ | hall
    · exact hempty
    · rw [hinvalid name hmem] at hname
      cases hname
    · exact absurd (hall ns hns) hexclude
  · intro hempty name hmem
    rw [hempty] at hmem
    cases hmem

/-- A selector that is not satisfiable selects nothing, and after sanitizing a namespace. -/
theorem exists_selects_sanitizeSelector (h : ¬ Satisfiable selector) :
    ∃ ns, isValidNamespaceName ns ∧ selects (sanitizeSelector selector) ns ∧
      selects selector ns = false := by
  simp only [Satisfiable, not_or, not_exists, not_forall, not_and] at h
  obtain ⟨hne, hinvalid, ns, hns, hexclude⟩ := h
  have hnot : ns ∉ selector.include := fun hmem => hinvalid ns hmem hns
  have hempty : sanitizeNamespaceNames selector.include = [] := by
    rw [sanitizeNamespaceNames_eq_nil_iff]
    intro name hmem
    simpa using hinvalid name hmem
  refine ⟨ns, hns, ?_, ?_⟩
  · rw [selects_iff]
    exact ⟨.inl hempty, mt (mem_sanitizeNamespaceNames hns).mp hexclude⟩
  · rw [← Bool.not_eq_true, selects_iff]
    exact fun hselected => hselected.1.elim hne hnot

theorem sanitizeSelector_same_iff :
    (∀ ns, isValidNamespaceName ns →
      selects (sanitizeSelector selector) ns = selects selector ns) ↔ Satisfiable selector := by
  refine ⟨fun hsame => ?_, fun h ns hns => selects_sanitizeSelector h hns⟩
  by_contra hnot
  obtain ⟨ns, hns, hafter, hbefore⟩ := exists_selects_sanitizeSelector hnot
  rw [hsame ns hns, hbefore] at hafter
  cases hafter

end Sanitize

theorem applicationSelects_convert (selector : V1Alpha1.LogPipelineNamespaceSelector) :
    (∀ ns, isValidNamespaceName ns →
      selects (convertApplicationNamespaces selector) ns = applicationSelects selector ns) ↔
      Satisfiable ⟨selector.include, selector.exclude⟩ := by
  by_cases hdefault : selector.include = [] ∧ selector.exclude = [] ∧ selector.system = false
  · refine iff_of_true (fun ns _ => ?_) (.inl hdefault.1)
    rw [applicationSelects, if_pos hdefault, convertApplicationNamespaces, if_pos hdefault,
      hdefault.1]
    rfl
  · rw [← sanitizeSelector_same_iff]
    simp only [applicationSelects, if_neg hdefault, convertApplicationNamespaces]
    rfl

theorem map_sanitizeSelector_iff (select : Option NamespaceSelector → String → Bool)
    (hselect : ∀ selector, select (some selector) = selects selector)
    (selector : Option NamespaceSelector) :
    (∀ ns, isValidNamespaceName ns →
      select (selector.map sanitizeSelector) ns = select selector ns) ↔
      ∀ s, selector = some s → Satisfiable s := by
  cases selector with
  | none => simp
  | some selector =>
    simp only [Option.map_some, hselect, Option.some.injEq, forall_eq']
    exact sanitizeSelector_same_iff

theorem runtimeSelects_convert (input : V1Alpha1.LogPipelineInput) :
    (∀ ns, isValidNamespaceName ns →
      runtimeSelects (convertLogPipelineInputToV1beta1 input) ns =
        applicationInputSelects input ns) ↔
      ∀ application, input.application = some application →
        Satisfiable ⟨application.namespaces.include, application.namespaces.exclude⟩ := by
  unfold runtimeSelects applicationInputSelects convertLogPipelineInputToV1beta1
  cases input.application with
  | none => simp [selectsNonSystemByDefault]
  | some application =>
    simp only [Option.some.injEq, forall_eq']
    exact applicationSelects_convert application.namespaces

theorem otlp_namespaces_convert (input : Option V1Alpha1.OTLPInput) :
    (input.map convertOTLPInputToV1beta1).bind (·.namespaces) =
      (input.bind (·.namespaces)).map sanitizeSelector := by
  cases input <;> rfl

theorem runtime_namespaces_convert (input : V1Alpha1.MetricPipelineInput) :
    (convertMetricPipelineInputToV1beta1 input).runtime.bind (·.namespaces) =
      (input.runtime.bind (·.namespaces)).map sanitizeSelector := by
  unfold convertMetricPipelineInputToV1beta1
  cases input.runtime <;> rfl

structure KeepsLogNamespaces (input : V1Alpha1.LogPipelineInput) (converted : LogPipelineInput) :
    Prop where
  runtime : ∀ ns, isValidNamespaceName ns →
    runtimeSelects converted ns = applicationInputSelects input ns
  otlp : ∀ ns, isValidNamespaceName ns →
    selectsByDefault (converted.otlp.bind (·.namespaces)) ns =
      selectsByDefault (input.otlp.bind (·.namespaces)) ns

structure KeepsMetricNamespaces (input : V1Alpha1.MetricPipelineInput)
    (converted : MetricPipelineInput) : Prop where
  prometheus : ∀ ns, isValidNamespaceName ns →
    selectsNonSystemByDefault (converted.prometheus.bind (·.namespaces)) ns =
      selectsNonSystemByDefault (input.prometheus.bind (·.namespaces)) ns
  runtime : ∀ ns, isValidNamespaceName ns →
    selectsNonSystemByDefault (converted.runtime.bind (·.namespaces)) ns =
      selectsNonSystemByDefault (input.runtime.bind (·.namespaces)) ns
  istio : ∀ ns, isValidNamespaceName ns →
    selectsNonSystemByDefault (converted.istio.bind (·.namespaces)) ns =
      selectsNonSystemByDefault (input.istio.bind (·.namespaces)) ns
  otlp : ∀ ns, isValidNamespaceName ns →
    selectsByDefault (converted.otlp.bind (·.namespaces)) ns =
      selectsByDefault (input.otlp.bind (·.namespaces)) ns

theorem keepsLogNamespaces_iff (input : V1Alpha1.LogPipelineInput) :
    KeepsLogNamespaces input (convertLogPipelineInputToV1beta1 input) ↔
      (∀ application, input.application = some application →
        Satisfiable ⟨application.namespaces.include, application.namespaces.exclude⟩) ∧
      ∀ selector, input.otlp.bind (·.namespaces) = some selector → Satisfiable selector := by
  rw [← runtimeSelects_convert, ← map_sanitizeSelector_iff selectsByDefault fun _ => rfl,
    ← otlp_namespaces_convert]
  exact ⟨fun h => ⟨h.runtime, h.otlp⟩, fun h => ⟨h.1, h.2⟩⟩

theorem keepsMetricNamespaces_iff (input : V1Alpha1.MetricPipelineInput) :
    KeepsMetricNamespaces input (convertMetricPipelineInputToV1beta1 input) ↔
      (∀ selector, input.runtime.bind (·.namespaces) = some selector → Satisfiable selector) ∧
      ∀ selector, input.otlp.bind (·.namespaces) = some selector → Satisfiable selector := by
  rw [← map_sanitizeSelector_iff selectsNonSystemByDefault fun _ => rfl,
    ← map_sanitizeSelector_iff selectsByDefault fun _ => rfl, ← otlp_namespaces_convert,
    ← runtime_namespaces_convert]
  exact ⟨fun h => ⟨h.runtime, h.otlp⟩, fun h => ⟨fun _ _ => rfl, h.1, fun _ _ => rfl, h.2⟩⟩

/-- The conversion keeps the selected namespaces of a pipeline if and only if every selector that is
sanitized and names namespaces names one that can exist, or excludes all. -/
theorem namespaces_kept_iff (spec : V1Alpha1.LogPipelineSpec)
    (input : V1Alpha1.MetricPipelineInput) :
    (KeepsLogNamespaces spec.input (convertLogPipelineSpecToV1beta1 spec).input ↔
      (∀ application, spec.input.application = some application →
        Satisfiable ⟨application.namespaces.include, application.namespaces.exclude⟩) ∧
      ∀ selector, spec.input.otlp.bind (·.namespaces) = some selector → Satisfiable selector) ∧
    (KeepsMetricNamespaces input (convertMetricPipelineInputToV1beta1 input) ↔
      (∀ selector, input.runtime.bind (·.namespaces) = some selector → Satisfiable selector) ∧
      ∀ selector, input.otlp.bind (·.namespaces) = some selector → Satisfiable selector) :=
  ⟨keepsLogNamespaces_iff spec.input, keepsMetricNamespaces_iff input⟩

def misspelledInput : V1Alpha1.LogPipelineInput where
  application := some { namespaces := { «include» := ["My_Team"] } }

def misspelledSpec : V1Alpha1.LogPipelineSpec where
  input := misspelledInput
  output := { fluentBitCustom := "name stdout" }

/-- The logs of no namespace become the logs of all namespaces. -/
theorem misspelled_namespace_selects_all :
    isValidNamespaceName "kube-system" ∧
      applicationInputSelects misspelledSpec.input "kube-system" = false ∧
      runtimeSelects (convertLogPipelineSpecToV1beta1 misspelledSpec).input "kube-system" =
        true := by
  decide

/-! ## The names of a converted selector

The schema of `v1beta1` asks for namespace names in every selector. Only the selectors of the
runtime and of the OTLP input are sanitized. -/

def HasValidNames (selector : NamespaceSelector) : Prop :=
  ∀ name ∈ selector.include ++ selector.exclude, isValidNamespaceName name

def namespaceSelectors (input : MetricPipelineInput) : List NamespaceSelector :=
  (input.runtime.bind (·.namespaces)).toList ++ (input.prometheus.bind (·.namespaces)).toList ++
    (input.istio.bind (·.namespaces)).toList ++ (input.otlp.bind (·.namespaces)).toList

theorem isValid_of_mem_sanitizeNamespaceNames {names : List String}
    (h : ns ∈ sanitizeNamespaceNames names) : isValidNamespaceName ns :=
  (List.mem_filter.mp h).2

theorem hasValidNames_sanitizeSelector (selector : NamespaceSelector) :
    HasValidNames (sanitizeSelector selector) := by
  intro name hname
  rcases List.mem_append.mp hname with hinclude | hexclude
  · exact isValid_of_mem_sanitizeNamespaceNames hinclude
  · exact isValid_of_mem_sanitizeNamespaceNames hexclude

theorem hasValidNames_of_mem_map_sanitizeSelector {o : Option NamespaceSelector}
    (h : selector ∈ (o.map sanitizeSelector).toList) : HasValidNames selector := by
  cases o with
  | none => cases h
  | some s =>
    rw [List.mem_singleton.mp h]
    exact hasValidNames_sanitizeSelector s

/-- The selectors of the converted input have valid names only, exactly if those of the Prometheus
and of the Istio input had valid names only before. -/
theorem converted_names_valid_iff (input : V1Alpha1.MetricPipelineInput) :
    (∀ selector ∈ namespaceSelectors (convertMetricPipelineInputToV1beta1 input),
      HasValidNames selector) ↔
      (∀ selector, input.prometheus.bind (·.namespaces) = some selector → HasValidNames selector) ∧
      ∀ selector, input.istio.bind (·.namespaces) = some selector → HasValidNames selector := by
  constructor
  · intro h
    refine ⟨fun selector hselector => ?_, fun selector hselector => ?_⟩
    all_goals
      apply h
      simp [namespaceSelectors, convertMetricPipelineInputToV1beta1, hselector]
  · rintro ⟨hprometheus, histio⟩ selector hmem
    simp only [namespaceSelectors, List.mem_append] at hmem
    rcases hmem with ((hruntime | hmem) | hmem) | hotlp
    · rw [runtime_namespaces_convert] at hruntime
      exact hasValidNames_of_mem_map_sanitizeSelector hruntime
    · exact hprometheus selector (Option.mem_toList.mp hmem)
    · exact histio selector (Option.mem_toList.mp hmem)
    · rw [convertMetricPipelineInputToV1beta1, otlp_namespaces_convert] at hotlp
      exact hasValidNames_of_mem_map_sanitizeSelector hotlp

def prometheusInput : V1Alpha1.MetricPipelineInput where
  prometheus := some { enabled := some true, namespaces := some { «include» := ["My_Team"] } }

/-- A name that no namespace can have reaches the converted Prometheus input. -/
theorem prometheus_name_not_sanitized :
    ∃ selector ∈ namespaceSelectors (convertMetricPipelineInputToV1beta1 prometheusInput),
      ∃ name ∈ selector.include, isValidNamespaceName name = false := by
  decide

end TelemetryManager.ApiConversion
