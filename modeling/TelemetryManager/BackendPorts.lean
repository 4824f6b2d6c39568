import Mathlib.Data.String.Basic
import TelemetryManager.Endpoint
import TelemetryManager.Library.KeySort
import TelemetryManager.SharedTypes

/-! The ports of the backends of the metric pipelines. The agent lists them in an annotation of its
pods, so another list restarts it. -/
namespace TelemetryManager.MetricPipelineUtils

open Interaction

/-- The digits behind the last colon of the host, as `URL.Port` returns them. -/
def portOf (u : Endpoint.URL) : String :=
  let host := u.host.toList.reverse
  let digits := (host.takeWhile (· ≠ ':')).reverse
  if ':' ∈ host ∧ digits.all Char.isDigit then String.ofList digits else ""

section

/- `url.Parse` -/
variable (parse : String → Except String Endpoint.URL)

def extractPort (endpoint : String) (protocol : OTLPProtocol) : String :=
  let normalizedURL :=
    if Text.contains endpoint "://" then endpoint else Endpoint.placeholder ++ endpoint
  match parse normalizedURL with
  | .error _ => ""
  | .ok endpointURL =>
    if portOf endpointURL = "" ∧ protocol = .http then "4318" else portOf endpointURL

/-- Each round sorts the ports and drops repetitions. -/
def addPort (backendPorts : List String) (port : String) : List String :=
  KeySort.sortCompact (if port ≠ "" then backendPorts ++ [port] else backendPorts)

def otlpOutputPorts (allPipelines : List MetricPipeline) : Client (List String) :=
  allPipelines.foldlM (fun backendPorts pipeline => do
    let endpoint ← mapErr (wrapf "failed to resolve the value of the OTLP output endpoint: ")
      (SharedTypes.resolveValue pipeline.output.endpoint)
    pure (addPort backendPorts (extractPort parse endpoint pipeline.output.protocol))) []

end

section Loop

structure Collected (ports seen : List String) : Prop where
  sorted : ports.Pairwise (· < ·)
  mem_iff : ∀ port, port ∈ ports ↔ port ≠ "" ∧ port ∈ seen

theorem Collected.nil : Collected [] [] where
  sorted := .nil
  mem_iff := by simp

theorem Collected.add {ports seen : List String} (h : Collected ports seen) (port : String) :
    Collected (addPort ports port) (seen ++ [port]) where
  sorted := KeySort.sortCompact_pairwise _
  mem_iff := by
    intro other
    by_cases hport : port = ""
    · simp only [addPort, hport, ne_eq, not_true_eq_false, if_false, KeySort.mem_sortCompact_iff,
        h.mem_iff, List.mem_append, List.mem_singleton]
      tauto
    · simp only [addPort, ne_eq, hport, not_false_eq_true, if_true, KeySort.mem_sortCompact_iff,
        List.mem_append, List.mem_singleton, h.mem_iff]
      constructor
      · intro hother
        rcases hother with ⟨hne, hseen⟩ | hother
        · exact ⟨hne, Or.inl hseen⟩
        · exact ⟨hother ▸ hport, Or.inr hother⟩
      · intro hother
        obtain ⟨hne, hseen | hother⟩ := hother
        · exact Or.inl ⟨hne, hseen⟩
        · exact Or.inr hother

theorem Collected.foldl {ports seen : List String} (h : Collected ports seen)
    (rest : List String) : Collected (rest.foldl addPort ports) (seen ++ rest) := by
  induction rest generalizing ports seen with
  | nil => simpa using h
  | cons port rest ih => simpa using ih (h.add port)

theorem Collected.eq_of_perm {ports ports' seen seen' : List String} (h : Collected ports seen)
    (h' : Collected ports' seen') (hperm : seen.Perm seen') : ports = ports' := by
  refine KeySort.eq_of_mem_iff h.sorted h'.sorted fun port => ?_
  rw [h.mem_iff, h'.mem_iff, hperm.mem_iff]

end Loop

section Ports

variable (parse : String → Except String Endpoint.URL) (answer : ApiTable)

def HasPort (pipeline : MetricPipeline) (port : String) : Prop :=
  ∃ endpoint, evalE answer (SharedTypes.resolveValue pipeline.output.endpoint) = .ok endpoint ∧
    extractPort parse endpoint pipeline.output.protocol = port

variable {parse answer}

theorem HasPort.unique {pipeline : MetricPipeline} {port port' : String}
    (h : HasPort parse answer pipeline port) (h' : HasPort parse answer pipeline port') :
    port = port' := by
  obtain ⟨endpoint, hresolve, rfl⟩ := h
  obtain ⟨endpoint', hresolve', rfl⟩ := h'
  rw [hresolve] at hresolve'
  cases hresolve'
  rfl

theorem evalE_otlpOutputPorts {pipelines : List MetricPipeline} {port : MetricPipeline → String}
    (h : ∀ p ∈ pipelines, HasPort parse answer p (port p)) :
    evalE answer (otlpOutputPorts parse pipelines) =
      .ok ((pipelines.map port).foldl addPort []) := by
  unfold otlpOutputPorts
  generalize ([] : List String) = ports
  induction pipelines generalizing ports with
  | nil => rfl
  | cons p pipelines ih =>
    obtain ⟨endpoint, hresolve, hport⟩ := h p List.mem_cons_self
    rw [List.foldlM_cons, evalE_bind_ok_iff]
    refine ⟨addPort ports (port p), ?_, ih (fun q hq => h q (List.mem_cons_of_mem _ hq)) _⟩
    rw [evalE_bind_ok_iff]
    refine ⟨endpoint, evalE_mapErr_ok_iff.mpr hresolve, ?_⟩
    rw [hport, evalE_pure]

end Ports

/-- The ports of the backends are in strict order, without repetitions, and the same for every order
of the pipelines. -/
theorem otlpOutputPorts_canonical (parse : String → Except String Endpoint.URL)
    (answer : ApiTable) (pipelines : List MetricPipeline)
    (h : ∀ p ∈ pipelines, Succeeds answer (SharedTypes.resolveValue p.output.endpoint)) :
    ∃ ports, evalE answer (otlpOutputPorts parse pipelines) = .ok ports ∧
      ports.Pairwise (· < ·) ∧ ports.Nodup ∧
      (∀ port, port ∈ ports ↔ port ≠ "" ∧ ∃ p ∈ pipelines, HasPort parse answer p port) ∧
      ∀ pipelines', pipelines.Perm pipelines' →
        evalE answer (otlpOutputPorts parse pipelines') = .ok ports := by
  have hexists : ∀ p ∈ pipelines, ∃ port, HasPort parse answer p port := by
    intro p hp
    obtain ⟨endpoint, hresolve⟩ := h p hp
    exact ⟨_, endpoint, hresolve, rfl⟩
  choose! port hport using hexists
  have hcollected := Collected.nil.foldl (pipelines.map port)
  refine ⟨_, evalE_otlpOutputPorts hport, hcollected.sorted, hcollected.sorted.nodup, ?_, ?_⟩
  · intro q
    rw [hcollected.mem_iff, List.nil_append, List.mem_map]
    refine and_congr_right fun _ => exists_congr fun p => and_congr_right fun hp => ?_
    constructor
    · intro heq
      exact heq ▸ hport p hp
    · intro hq
      exact (hport p hp).unique hq
  · intro pipelines' hperm
    have hport' : ∀ p ∈ pipelines', HasPort parse answer p (port p) :=
      fun p hp => hport p (hperm.mem_iff.mpr hp)
    rw [evalE_otlpOutputPorts hport']
    exact congrArg _ ((Collected.nil.foldl (pipelines'.map port)).eq_of_perm hcollected
      (hperm.symm.map port))

def endpointCluster : ApiTable
  | .getSecret key =>
    if key = ⟨"default", "backend"⟩ then .ok { data := [("endpoint", "https://backend:4317")] }
    else .error .notFound
  | _ => .error .notFound

def endpointParse (text : String) : Except String Endpoint.URL :=
  if text = "https://backend:4317" then .ok { scheme := "https", host := "backend:4317" }
  else if text = "plhd://collector" then .ok { scheme := "plhd", host := "collector" }
  else .error "parse error"

def secretEndpointPipeline : MetricPipeline where
  name := "secret"
  output := { endpoint := { valueFrom := some ⟨some ⟨"backend", "default", "endpoint"⟩⟩ } }

def inlineEndpointPipeline : MetricPipeline where
  name := "inline"
  output := { endpoint := { value := "collector" }, protocol := .http }

theorem otlpOutputPorts_of_endpointCluster :
    ∃ ports, evalE endpointCluster (otlpOutputPorts endpointParse
        [secretEndpointPipeline, inlineEndpointPipeline]) = .ok ports ∧
      ports.Pairwise (· < ·) ∧ ports.Nodup ∧
      (∀ port, port ∈ ports ↔ port ≠ "" ∧
        ∃ p ∈ [secretEndpointPipeline, inlineEndpointPipeline],
          HasPort endpointParse endpointCluster p port) ∧
      ∀ pipelines', [secretEndpointPipeline, inlineEndpointPipeline].Perm pipelines' →
        evalE endpointCluster (otlpOutputPorts endpointParse pipelines') = .ok ports := by
  apply otlpOutputPorts_canonical
  intro p hp
  simp only [List.mem_cons, List.not_mem_nil, or_false] at hp
  rcases hp with rfl | rfl
  · exact ⟨"https://backend:4317", rfl⟩
  · exact ⟨"collector", rfl⟩

example : evalE endpointCluster (otlpOutputPorts endpointParse
    [inlineEndpointPipeline, secretEndpointPipeline]) = .ok ["4317", "4318"] := by
  decide +kernel

end TelemetryManager.MetricPipelineUtils
