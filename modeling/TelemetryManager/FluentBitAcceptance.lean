import TelemetryManager.FluentBitSections

/-! What the Fluent Bit validator guarantees of a pipeline that it accepts.
It parses every custom section as the builder does, but it looks at the first `name` only. -/
namespace TelemetryManager.FluentBitBuilder

open Interaction SpecValidators FluentBit Reconcilable

def Accepted (v : Validator) (answer : ApiTable) (lp : LogPipeline) : Prop :=
  evalE answer (validateFluentBitLogPipeline v lp) = .ok ()

structure SpecAccepted (lp : LogPipeline) : Prop where
  fileNames : validateFileNames lp = .ok ()
  filters : ∀ filter ∈ lp.fluentBitFilters, validateCustomFilter filter.custom = .ok ()
  output : validateCustomOutput lp.output.fluentBitCustom = .ok ()
  hostname : validateHostname lp.output.fluentBitHTTP = .ok ()

theorem Accepted.spec {v : Validator} {answer : ApiTable} {lp : LogPipeline}
    (h : Accepted v answer lp) : SpecAccepted lp := by
  have hchecks := h
  rw [Accepted, show validateFluentBitLogPipeline v lp = validate v (.fluentBitLog lp) from rfl,
    validate_eq_checks, evalE_forM_ok] at hchecks
  have hfiles := hchecks ⟨.fileNames, liftExcept (validateFileNames lp)⟩ (by simp [checks])
  have hfilters := hchecks ⟨.customFilters, liftExcept (validateFluentBitFilters lp)⟩
    (by simp [checks])
  have houtput := hchecks ⟨.customOutput, liftExcept
    (validateCustomOutput lp.output.fluentBitCustom)⟩ (by simp [checks])
  have hhost := hchecks ⟨.hostname, liftExcept (validateHostname lp.output.fluentBitHTTP)⟩
    (by simp [checks])
  simp only [evalE_liftExcept] at hfiles hfilters houtput hhost
  exact ⟨hfiles, forM_eq_ok_iff.mp hfilters, houtput, hhost⟩

variable {params : ParameterList} {content : String}

/-- The two parsers agree on the sections that the validator can parse. -/
theorem parseMultiline_of_parseCustomSection
    (h : parseCustomSection content = .ok params) : parseMultiline content = params := by
  unfold parseCustomSection at h
  unfold parseMultiline
  generalize Text.split content '\n' = lines at h ⊢
  induction lines generalizing params with
  | nil => cases h; rfl
  | cons line lines ih =>
    rw [parseLines] at h
    cases hline : parseLine line with
    | error err => rw [hline] at h; cases h
    | ok param =>
      cases hlines : parseLines lines with
      | error err => rw [hline, hlines] at h; cases h
      | ok rest =>
        rw [hline, hlines] at h
        cases h
        rw [List.filterMap_cons, hline, ih hlines]
        cases param <;> rfl

theorem containsKey_eq_false_iff {key : String} :
    containsKey params key = false ↔ paramValues params key = [] := by
  rw [containsKey, List.any_eq_false, paramValues, List.filterMap_eq_nil_iff]
  refine forall₂_congr fun p _ => ?_
  by_cases hp : p.key = key <;> simp [hp]

theorem pluginName_of_values {plugin : String}
    (h : paramValues params "name" = [plugin]) : pluginName params = plugin := by
  induction params with
  | nil => cases h
  | cons p params ih =>
    rw [paramValues, List.filterMap_cons] at h
    by_cases hp : p.key = "name"
    · rw [if_pos hp] at h
      simp only [List.cons.injEq] at h
      simp [pluginName, getByKey, hp, h.1]
    · rw [if_neg hp] at h
      rw [← ih h]
      simp [pluginName, getByKey, hp]

theorem check_ok_iff {c : Prop} [Decidable c] {e : GoError} {x : Except GoError Unit} :
    (if c then .error e else x) = .ok () ↔ ¬ c ∧ x = .ok () := by
  by_cases hc : c <;> simp [hc]

theorem checked_of_ok {check : ParameterList → Except GoError Unit}
    (h : (if content = "" then .ok () else parseCustomSection content >>= check) = .ok ()) :
    content = "" ∨ check (parseMultiline content) = .ok () := by
  by_cases hcontent : content = ""
  · exact .inl hcontent
  · rw [if_neg hcontent] at h
    obtain ⟨params, hparse, hcheck⟩ := bind_eq_ok_iff.mp h
    rw [parseMultiline_of_parseCustomSection hparse]
    exact .inr hcheck

/-- A custom filter that the validator accepts: either it is empty, or it has no `match` and its
first plugin is not forbidden. -/
theorem validateCustomFilter_ok (h : validateCustomFilter content = .ok ()) :
    content = "" ∨ paramValues (parseMultiline content) "match" = [] ∧
      forbiddenFilters.any (Text.equalFold (pluginName (parseMultiline content))) = false := by
  refine (checked_of_ok h).imp_right fun hcheck => ?_
  simp only [check_ok_iff, Bool.not_eq_true] at hcheck
  exact ⟨containsKey_eq_false_iff.mp hcheck.2.2.1, hcheck.2.1⟩

theorem validateCustomOutput_ok (h : validateCustomOutput content = .ok ()) :
    content = "" ∨ paramValues (parseMultiline content) "match" = [] ∧
      paramValues (parseMultiline content) "storage.total_limit_size" = [] := by
  refine (checked_of_ok h).imp_right fun hcheck => ?_
  simp only [check_ok_iff, Bool.not_eq_true] at hcheck
  exact ⟨containsKey_eq_false_iff.mp hcheck.2.1, containsKey_eq_false_iff.mp hcheck.2.2.1⟩

def freeLock : ApiTable
  | .getConfigMap key => .ok { key := key }
  | .updateConfigMap _ => .ok ()
  | _ => .error .notFound

def logValidator : Validator :=
  sampleValidator ⟨"kyma-system", "telemetry-logpipeline"⟩ 0

end TelemetryManager.FluentBitBuilder
