import TelemetryManager.Library.Relabel

/-! The targets that the metric agent scrapes.
Annotated Services are scraped by two jobs if Istio is active: one over HTTP and one over HTTPS with
the certificate of Istio. Each job is a relabel program over the meta labels of an endpoint. -/
namespace TelemetryManager.PrometheusTargets

open Relabel

inductive NodeAffiliatedResource where
  | pod
  | endpoint

def NodeAffiliatedResource.text : NodeAffiliatedResource → String
  | .pod => "pod"
  | .endpoint => "endpoint"

inductive AnnotatedResource where
  | pod
  | service

def AnnotatedResource.text : AnnotatedResource → String
  | .pod => "pod"
  | .service => "service"

def annotationLabel (annotated : AnnotatedResource) (key : String) : String :=
  "__meta_kubernetes_" ++ annotated.text ++ "_annotation_prometheus_io_" ++ key

def schemeLabel : String := "__scheme__"

/-- The collector puts the name of its node in the place of the variable, and the name is read as an
expression. -/
def keepIfRunningOnSameNode (nodeName : Regex) (nodeAffiliated : NodeAffiliatedResource) :
    Rule where
  sourceLabels := ["__meta_kubernetes_" ++ nodeAffiliated.text ++ "_node_name"]
  regex := nodeName
  action := .keep

def keepIfScrapingEnabled (annotated : AnnotatedResource) : Rule where
  sourceLabels := [annotationLabel annotated "scrape"]
  regex := .literal "true".toList
  action := .keep

def inferSchemeFromIstioInjectedLabel : Rule where
  sourceLabels := ["__meta_kubernetes_pod_label_security_istio_io_tlsMode"]
  action := .replace
  targetLabel := schemeLabel
  regex := .group 1 (.literal "istio".toList)
  replacement := [.text "https"]

/-- The expression is `(https?)`. -/
def inferSchemeFromAnnotationRule (annotated : AnnotatedResource) : Rule where
  sourceLabels := [annotationLabel annotated "scheme"]
  action := .replace
  regex := .group 1 (.seq (.literal "http".toList) (.opt (.literal "s".toList)))
  targetLabel := schemeLabel

/-- The expression is `(.+)`. -/
def inferMetricsPathFromAnnotationRule (annotated : AnnotatedResource) : Rule where
  sourceLabels := [annotationLabel annotated "path"]
  action := .replace
  regex := .group 1 (.plus Regex.any)
  targetLabel := "__metrics_path__"

/-- The expression is `([^:]+)(?::\d+)?;(\d+)`. -/
def inferAddressFromAnnotationRule (annotated : AnnotatedResource) : Rule where
  sourceLabels := ["__address__", annotationLabel annotated "port"]
  action := .replace
  regex := .seq (.group 1 (.plus (· ≠ ':')))
    (.seq (.opt (.seq (.literal [':']) (.plus Char.isDigit)))
      (.seq (.literal [';']) (.group 2 (.plus Char.isDigit))))
  replacement := [.group 1, .text ":", .group 2]
  targetLabel := "__address__"

def inferServiceFromMetaLabel : Rule where
  sourceLabels := ["__meta_kubernetes_service_name"]
  action := .replace
  targetLabel := "service"

def dropIfPodNotRunning : Rule where
  sourceLabels := ["__meta_kubernetes_pod_phase"]
  action := .drop
  regex := .alt (.literal "Pending".toList)
    (.alt (.literal "Succeeded".toList) (.literal "Failed".toList))

def dropIfInitContainer : Rule where
  sourceLabels := ["__meta_kubernetes_pod_container_init"]
  action := .drop
  regex := .group 1 (.literal "true".toList)

def dropIfIstioProxy : Rule where
  sourceLabels := ["__meta_kubernetes_pod_container_name"]
  action := .drop
  regex := .group 1 (.literal "istio-proxy".toList)

def dropIfSchemeHTTP : Rule where
  sourceLabels := [schemeLabel]
  action := .drop
  regex := .group 1 (.literal "http".toList)

def dropIfSchemeHTTPS : Rule where
  sourceLabels := [schemeLabel]
  action := .drop
  regex := .group 1 (.literal "https".toList)

/-- The expression is the label of an annotation `param_` with a name, in a group. -/
def inferURLParamFromAnnotationRule (annotated : AnnotatedResource) : Rule where
  regex := .seq (.literal (annotationLabel annotated "param_").toList) (.group 1 (.plus Regex.any))
  action := .labelMap
  replacement := [.text "__param_", .group 1]

def prometheusEndpointsRelabelConfigs (nodeName : Regex) (requireHTTPS : Bool) : List Rule :=
  [keepIfRunningOnSameNode nodeName .endpoint,
    keepIfScrapingEnabled .service,
    dropIfPodNotRunning,
    dropIfInitContainer,
    dropIfIstioProxy,
    inferSchemeFromIstioInjectedLabel,
    inferSchemeFromAnnotationRule .service,
    inferURLParamFromAnnotationRule .service] ++
  [if requireHTTPS then dropIfSchemeHTTP else dropIfSchemeHTTPS] ++
  [inferMetricsPathFromAnnotationRule .service,
    inferAddressFromAnnotationRule .service,
    inferServiceFromMetaLabel]

structure ScrapeJob where
  jobName : String
  relabelConfigs : List Rule

def appServicesJob (nodeName : Regex) : ScrapeJob :=
  ⟨"app-services", prometheusEndpointsRelabelConfigs nodeName false⟩

def appServicesSecureJob (nodeName : Regex) : ScrapeJob :=
  ⟨"app-services-secure", prometheusEndpointsRelabelConfigs nodeName true⟩

def prometheusServicesReceiverConfig (nodeName : Regex) (istioActive : Bool) : List ScrapeJob :=
  appServicesJob nodeName :: if istioActive then [appServicesSecureJob nodeName] else []

def ScrapeJob.Keeps (job : ScrapeJob) (t : Target) : Prop := Relabel.Keeps job.relabelConfigs t

section Scheme

variable {t : Target}

def annotatedScheme (t : Target) : String := value t (annotationLabel .service "scheme")

def tlsMode (t : Target) : String := value t "__meta_kubernetes_pod_label_security_istio_io_tlsMode"

/-- The target is to be scraped over HTTPS: the annotation asks for it, or it asks for nothing and
Istio does. -/
def WantsHTTPS (t : Target) : Prop :=
  annotatedScheme t = "https" ∨
    (annotatedScheme t ≠ "http" ∧ annotatedScheme t ≠ "https" ∧ tlsMode t = "istio")

def written (t : Target) : Target :=
  (inferURLParamFromAnnotationRule .service).labelMap
    ((inferSchemeFromAnnotationRule .service).replace (inferSchemeFromIstioInjectedLabel.replace t))

theorem matches_istio_iff : inferSchemeFromIstioInjectedLabel.regex.Matches
    (inferSchemeFromIstioInjectedLabel.sourceValue t) ↔ tlsMode t = "istio" := by
  rw [sourceValue_singleton rfl]
  change (Regex.literal _).Matches _ ↔ _
  rw [Regex.matches_literal, String.toList_inj]
  rfl

theorem matches_scheme_iff {annotated : AnnotatedResource} {s : String} :
    (inferSchemeFromAnnotationRule annotated).regex.Matches s.toList ↔
      s = "http" ∨ s = "https" := by
  rw [← String.toList_inj, ← String.toList_inj]
  simp only [inferSchemeFromAnnotationRule, Regex.Matches, Regex.opt, Regex.matches_literal]
  constructor
  · rintro ⟨_, _, hs, rfl, rfl | rfl⟩
    · exact .inr hs
    · exact .inl hs
  · rintro (h | h)
    · exact ⟨_, [], h, rfl, .inr rfl⟩
    · exact ⟨_, "s".toList, h, rfl, .inl rfl⟩

theorem scheme_of_istio (hscheme : value t schemeLabel = "http") :
    value (inferSchemeFromIstioInjectedLabel.replace t) schemeLabel =
      if tlsMode t = "istio" then "https" else "http" := by
  by_cases hmode : tlsMode t = "istio"
  · obtain ⟨g, -, heq⟩ := exists_replace_eq (matches_istio_iff.mpr hmode)
    rw [heq, if_pos hmode]
    exact value_set_self _ _ _
  · rw [replace_of_not_matches (mt matches_istio_iff.mp hmode), if_neg hmode]
    exact hscheme

theorem annotatedScheme_of_istio (t : Target) :
    annotatedScheme (inferSchemeFromIstioInjectedLabel.replace t) = annotatedScheme t :=
  value_replace_of_ne (by decide)

/-- The annotation has the last word, if it is one of the two schemes. -/
theorem scheme_of_annotation (t : Target) :
    value ((inferSchemeFromAnnotationRule .service).replace t) schemeLabel =
      if annotatedScheme t = "http" ∨ annotatedScheme t = "https" then annotatedScheme t
      else value t schemeLabel := by
  have hsource : (inferSchemeFromAnnotationRule .service).sourceValue t =
      (annotatedScheme t).toList := sourceValue_singleton rfl
  by_cases hmatch : annotatedScheme t = "http" ∨ annotatedScheme t = "https"
  · have hmatches : (inferSchemeFromAnnotationRule .service).regex.Matches
        (annotatedScheme t).toList := matches_scheme_iff.mpr hmatch
    rw [← hsource] at hmatches
    obtain ⟨g, hg, heq⟩ := exists_replace_eq hmatches
    rw [heq, if_pos hmatch]
    refine (value_set_self _ _ _).trans ?_
    rw [hsource] at hg
    have hcapture : g 1 = (annotatedScheme t).toList := Regex.captures_of_fullMatch_group hg
    simp [Rule.expand, inferSchemeFromAnnotationRule, Rule.expandPiece, hcapture]
  · have hnot : ¬ (inferSchemeFromAnnotationRule .service).regex.Matches
        ((inferSchemeFromAnnotationRule .service).sourceValue t) := by
      rw [hsource]
      exact mt matches_scheme_iff.mp hmatch
    rw [replace_of_not_matches hnot, if_neg hmatch]

theorem expand_param_ne (g : Regex.Captures) :
    (inferURLParamFromAnnotationRule .service).expand g ≠ schemeLabel := by
  intro heq
  have hchars := congrArg (fun s => s.toList.take 3) heq
  simp [Rule.expand, inferURLParamFromAnnotationRule, Rule.expandPiece, schemeLabel] at hchars

theorem scheme_written (hscheme : value t schemeLabel = "http") :
    (WantsHTTPS t → value (written t) schemeLabel = "https") ∧
      (¬ WantsHTTPS t → value (written t) schemeLabel = "http") := by
  have hvalue : value (written t) schemeLabel =
      if annotatedScheme t = "http" ∨ annotatedScheme t = "https" then annotatedScheme t
      else if tlsMode t = "istio" then "https" else "http" := by
    rw [written, value_labelMap_of_ne expand_param_ne, scheme_of_annotation,
      annotatedScheme_of_istio, scheme_of_istio hscheme]
  rw [hvalue]
  unfold WantsHTTPS
  by_cases hhttps : annotatedScheme t = "https"
  · simp [hhttps]
  · by_cases hhttp : annotatedScheme t = "http"
    · simp [hhttp]
    · by_cases hmode : tlsMode t = "istio"
      · simp [hhttps, hhttp, hmode]
      · simp [hhttps, hhttp, hmode]

end Scheme

structure Passes (nodeName : Regex) (t : Target) : Prop where
  node : nodeName.Matches (value t "__meta_kubernetes_endpoint_node_name").toList
  scrape : value t (annotationLabel .service "scrape") = "true"
  phase : value t "__meta_kubernetes_pod_phase" ∉ ["Pending", "Succeeded", "Failed"]
  container : value t "__meta_kubernetes_pod_container_init" ≠ "true"
  proxy : value t "__meta_kubernetes_pod_container_name" ≠ "istio-proxy"

section Jobs

variable {nodeName : Regex} {t : Target} {rules : List Rule} {rule : Rule} {label text : String}

theorem matches_literal_iff (hsource : rule.sourceLabels = [label])
    (hregex : ∀ s, rule.regex.Matches s ↔ s = text.toList) :
    rule.regex.Matches (rule.sourceValue t) ↔ value t label = text := by
  rw [sourceValue_singleton hsource, hregex, String.toList_inj]

theorem keeps_cons_literal_drop (hrule : rule.action = .drop)
    (hsource : rule.sourceLabels = [label]) (hregex : ∀ s, rule.regex.Matches s ↔ s = text.toList) :
    Keeps (rule :: rules) t ↔ value t label ≠ text ∧ Keeps rules t := by
  rw [keeps_cons_drop hrule, matches_literal_iff hsource hregex]

theorem matches_phase_iff {s : String} : dropIfPodNotRunning.regex.Matches s.toList ↔
    s ∈ ["Pending", "Succeeded", "Failed"] := by
  simp only [dropIfPodNotRunning, Regex.Matches, Regex.matches_literal, String.toList_inj,
    List.mem_cons, List.not_mem_nil, or_false]

theorem passes_iff : Passes nodeName t ↔
    (keepIfRunningOnSameNode nodeName .endpoint).regex.Matches
      ((keepIfRunningOnSameNode nodeName .endpoint).sourceValue t) ∧
    (keepIfScrapingEnabled .service).regex.Matches
      ((keepIfScrapingEnabled .service).sourceValue t) ∧
    ¬ dropIfPodNotRunning.regex.Matches (dropIfPodNotRunning.sourceValue t) ∧
    ¬ dropIfInitContainer.regex.Matches (dropIfInitContainer.sourceValue t) ∧
    ¬ dropIfIstioProxy.regex.Matches (dropIfIstioProxy.sourceValue t) := by
  have hnode : (keepIfRunningOnSameNode nodeName .endpoint).sourceValue t =
      (value t "__meta_kubernetes_endpoint_node_name").toList := sourceValue_singleton rfl
  have hscrape : (keepIfScrapingEnabled .service).regex.Matches
      ((keepIfScrapingEnabled .service).sourceValue t) ↔
      value t (annotationLabel .service "scrape") = "true" :=
    matches_literal_iff rfl (Regex.matches_literal _)
  have hphase : dropIfPodNotRunning.sourceValue t =
      (value t "__meta_kubernetes_pod_phase").toList := sourceValue_singleton rfl
  have hinit : dropIfInitContainer.regex.Matches (dropIfInitContainer.sourceValue t) ↔
      value t "__meta_kubernetes_pod_container_init" = "true" :=
    matches_literal_iff rfl (Regex.matches_literal _)
  have hproxy : dropIfIstioProxy.regex.Matches (dropIfIstioProxy.sourceValue t) ↔
      value t "__meta_kubernetes_pod_container_name" = "istio-proxy" :=
    matches_literal_iff rfl (Regex.matches_literal _)
  rw [hnode, hscrape, hphase, matches_phase_iff, hinit, hproxy]
  constructor
  · intro h
    exact ⟨h.node, h.scrape, h.phase, h.container, h.proxy⟩
  · rintro ⟨hnode, hscrape, hphase, hinit, hproxy⟩
    exact ⟨hnode, hscrape, hphase, hinit, hproxy⟩

theorem keeps_last_rules (t : Target) : Keeps [inferMetricsPathFromAnnotationRule .service,
    inferAddressFromAnnotationRule .service, inferServiceFromMetaLabel] t := by
  apply keeps_of_replaces
  intro rule hrule
  rcases List.mem_cons.mp hrule with rfl | hrule
  · rfl
  rcases List.mem_cons.mp hrule with rfl | hrule
  · rfl
  rw [List.mem_singleton.mp hrule]
  rfl

/-- The program of a job keeps what passes the first rules and then has the scheme of the job. -/
theorem keeps_relabelConfigs_iff (requireHTTPS : Bool) :
    Keeps (prometheusEndpointsRelabelConfigs nodeName requireHTTPS) t ↔
      Passes nodeName t ∧
        value (written t) schemeLabel ≠ if requireHTTPS then "http" else "https" := by
  have hscheme : Keeps ((if requireHTTPS then dropIfSchemeHTTP else dropIfSchemeHTTPS) ::
      [inferMetricsPathFromAnnotationRule .service, inferAddressFromAnnotationRule .service,
        inferServiceFromMetaLabel]) (written t) ↔
      value (written t) schemeLabel ≠ if requireHTTPS then "http" else "https" := by
    cases requireHTTPS with
    | true | false =>
      refine (keeps_cons_literal_drop rfl rfl (Regex.matches_literal _)).trans ?_
      exact and_iff_left (keeps_last_rules _)
  rw [passes_iff, ← hscheme]
  simp only [prometheusEndpointsRelabelConfigs, List.cons_append, List.nil_append]
  rw [keeps_cons_keep rfl, keeps_cons_keep rfl, keeps_cons_drop rfl, keeps_cons_drop rfl,
    keeps_cons_drop rfl, keeps_cons_replace rfl, keeps_cons_replace rfl, keeps_cons_labelMap rfl]
  simp only [and_assoc]
  rfl

end Jobs

/-- With Istio a target that passes is kept by exactly one of the two jobs, by the secure one if it
is to be scraped over HTTPS. Other targets are kept by none. -/
theorem service_targets_partitioned (nodeName : Regex) (t : Target)
    (hscheme : value t schemeLabel = "http") :
    prometheusServicesReceiverConfig nodeName true =
      [appServicesJob nodeName, appServicesSecureJob nodeName] ∧
    (Passes nodeName t →
      ((appServicesSecureJob nodeName).Keeps t ↔ WantsHTTPS t) ∧
      ((appServicesJob nodeName).Keeps t ↔ ¬ WantsHTTPS t)) ∧
    (¬ Passes nodeName t →
      ∀ job ∈ prometheusServicesReceiverConfig nodeName true, ¬ job.Keeps t) := by
  obtain ⟨hhttps, hhttp⟩ := scheme_written hscheme
  have hsecure : (appServicesSecureJob nodeName).Keeps t ↔
      Passes nodeName t ∧ value (written t) schemeLabel ≠ "http" := keeps_relabelConfigs_iff true
  have hplain : (appServicesJob nodeName).Keeps t ↔
      Passes nodeName t ∧ value (written t) schemeLabel ≠ "https" := keeps_relabelConfigs_iff false
  refine ⟨rfl, fun hpasses => ?_, fun hnot job hjob => ?_⟩
  · rw [hsecure, hplain]
    by_cases hwants : WantsHTTPS t
    · simp [hpasses, hwants, hhttps hwants]
    · simp [hpasses, hwants, hhttp hwants]
  · rcases List.mem_cons.mp hjob with rfl | hjob
    · exact fun hkeeps => hnot (hplain.mp hkeeps).1
    · rw [List.mem_singleton.mp hjob]
      exact fun hkeeps => hnot (hsecure.mp hkeeps).1

def meshEndpoint : Target :=
  List.toAList [⟨"__scheme__", "http"⟩, ⟨"__meta_kubernetes_endpoint_node_name", "node-1"⟩,
    ⟨"__meta_kubernetes_service_annotation_prometheus_io_scrape", "true"⟩,
    ⟨"__meta_kubernetes_pod_phase", "Running"⟩,
    ⟨"__meta_kubernetes_pod_label_security_istio_io_tlsMode", "istio"⟩]

def nodeOne : Regex := .literal "node-1".toList

theorem meshEndpoint_passes : Passes nodeOne meshEndpoint where
  node := (Regex.matches_literal _ _).mpr (by decide +kernel)
  scrape := by decide +kernel
  phase := by decide +kernel
  container := by decide +kernel
  proxy := by decide +kernel

theorem meshEndpoint_kept_by_secure_job :
    (appServicesSecureJob nodeOne).Keeps meshEndpoint ∧
      ¬ (appServicesJob nodeOne).Keeps meshEndpoint := by
  have hscheme : value meshEndpoint schemeLabel = "http" := by decide +kernel
  have hwants : WantsHTTPS meshEndpoint :=
    .inr ⟨by decide +kernel, by decide +kernel, by decide +kernel⟩
  obtain ⟨hsecure, hplain⟩ :=
    (service_targets_partitioned nodeOne meshEndpoint hscheme).2.1 meshEndpoint_passes
  exact ⟨hsecure.mpr hwants, fun hkeeps => hplain.mp hkeeps hwants⟩

end TelemetryManager.PrometheusTargets
