import TelemetryManager.Controllers
import TelemetryManager.Library.History

/-! What the gateway is built from, over all interleavings.
Users create, change and delete pipelines while pipeline reconciles and gateway reconciles run.
References carry a name and a generation, so they identify the validated specification only as long
as a name is not used for a new pipeline while traces of the old one are around. -/
namespace TelemetryManager.Deployment

open Interaction Coordination Controllers OptimisticStore

/-- The stored pipelines and the coordination ConfigMap. Reads are served from caches: `visible` and
`visibleDocuments` are what a read may return, the stored objects among them. -/
structure Cluster where
  current : SignalType → String → Option OTLPPipeline
  visible : SignalType → String → List OTLPPipeline
  coordination : ConfigMapStore
  visibleDocuments : List ConfigMap
  keyed : ∀ signal name, ∀ o ∈ visible signal name, o.signal = signal ∧ o.objectMeta.name = name
  current_visible : ∀ signal name o, current signal name = some o → o ∈ visible signal name
  documents_past : ∀ cm ∈ visibleDocuments, coordination.MayRead cm
  document_visible : ∀ cm, coordination.current = some cm → cm ∈ visibleDocuments

namespace Cluster

def empty : Cluster where
  current := fun _ _ => none
  visible := fun _ _ => []
  coordination := .init configMapVersions none
  visibleDocuments := []
  keyed := by simp
  current_visible := by simp
  documents_past := by simp
  document_visible := by simp [Store.init]

def setPipeline (s : Cluster) (p : OTLPPipeline) : Cluster :=
  { s with
    current := fun signal name =>
      if p.signal = signal ∧ p.objectMeta.name = name then some p else s.current signal name
    visible := fun signal name =>
      if p.signal = signal ∧ p.objectMeta.name = name then p :: s.visible signal name
      else s.visible signal name
    keyed := by
      intro signal name o ho
      split at ho
      · next hkey =>
        rcases List.mem_cons.mp ho with rfl | ho
        · exact hkey
        · exact s.keyed signal name o ho
      · exact s.keyed signal name o ho
    current_visible := by
      intro signal name o ho
      split at ho
      · next hkey =>
        cases ho
        simp [hkey]
      · next hkey =>
        rw [if_neg hkey]
        exact s.current_visible signal name o ho }

/-- Remove a pipeline. Caches may hold it for a while. -/
def removePipeline (s : Cluster) (signal : SignalType) (name : String) : Cluster :=
  { s with
    current := fun signal' name' =>
      if signal = signal' ∧ name = name' then none else s.current signal' name'
    current_visible := by
      intro signal' name' o ho
      split at ho
      · cases ho
      · exact s.current_visible signal' name' o ho }

def putDocument (s : Cluster) (cm : ConfigMap) : Cluster :=
  { s with
    coordination := s.coordination.put cm
    visibleDocuments :=
      configMapVersions.stamp (s.coordination.lastVersion + 1) cm :: s.visibleDocuments
    documents_past := by
      intro cm' hcm
      rcases List.mem_cons.mp hcm with rfl | hcm
      · exact List.mem_cons_self
      · exact List.mem_cons_of_mem _ (s.documents_past cm' hcm)
    document_visible := by
      intro cm' hcm
      cases hcm
      exact List.mem_cons_self }

end Cluster

inductive Action where
  | create (p : OTLPPipeline)
  | update (p : OTLPPipeline)
  | remove (signal : SignalType) (name : String)
  | sync

/-- A pipeline is created with generation 1, and each change of its specification and the mark for
deletion increments it. Caches forget what they hold besides the stored objects. -/
inductive Act : Cluster → Action → Cluster → Prop where
  | create (s : Cluster) (p : OTLPPipeline) (hfree : s.current p.signal p.objectMeta.name = none)
      (hgeneration : p.objectMeta.generation = 1)
      (hlive : p.objectMeta.isBeingDeleted = false) : Act s (.create p) (s.setPipeline p)
  | update (s : Cluster) (p old : OTLPPipeline)
      (hold : s.current p.signal p.objectMeta.name = some old)
      (huid : p.objectMeta.uid = old.objectMeta.uid)
      (hgeneration : p.objectMeta.generation = old.objectMeta.generation + 1) :
      Act s (.update p) (s.setPipeline p)
  | remove (s : Cluster) (signal : SignalType) (name : String) :
      Act s (.remove signal name) (s.removePipeline signal name)
  | sync (s t : Cluster) (hcurrent : t.current = s.current)
      (hcoordination : t.coordination = s.coordination)
      (hvisible : ∀ signal name, t.visible signal name ⊆ s.visible signal name)
      (hdocuments : t.visibleDocuments ⊆ s.visibleDocuments) : Act s .sync t

/-- The requests that concern the pipelines or the coordination ConfigMap. -/
def concerns (key : ObjectKey) : ApiReq → Bool
  | .getTracePipeline _ | .getLogPipeline _ | .getMetricPipeline _ => true
  | .getConfigMap k => k = key
  | .createConfigMap cm | .updateConfigMap cm => cm.key = key
  | _ => false

/-- The answers of the API server. Every request may fail; a write that was accepted may be
answered by an error as well. -/
inductive Serve (key : ObjectKey) : Cluster → ApiEntry → Cluster → Prop where
  | fails (s : Cluster) (r : ApiReq) (err : ApiError) : Serve key s ⟨r, .error err⟩ s
  | pipeline (s : Cluster) (name : String) (p : OTLPPipeline) (h : p ∈ s.visible p.signal name) :
      Serve key s (readEntry name p) s
  | document (s : Cluster) (cm : ConfigMap) (h : cm ∈ s.visibleDocuments) :
      Serve key s ⟨.getConfigMap key, .ok cm⟩ s
  | create (s : Cluster) (cm : ConfigMap) (x : ApiResp (.createConfigMap cm)) (hkey : cm.key = key)
      (h : s.coordination.AcceptsCreate) : Serve key s ⟨.createConfigMap cm, x⟩ (s.putDocument cm)
  | update (s : Cluster) (cm : ConfigMap) (x : ApiResp (.updateConfigMap cm)) (hkey : cm.key = key)
      (h : s.coordination.AcceptsUpdate cm) :
      Serve key s ⟨.updateConfigMap cm, x⟩ (s.putDocument cm)
  | other (s : Cluster) (entry : ApiEntry) (h : concerns key entry.1 = false) :
      Serve key s entry s

/-! ## Runs -/

inductive Job where
  | pipeline (signal : SignalType) (name : String)
  | gateway

section Runs

variable {ι : Type} (c : Setup) (jobs : ι → Job)

def program (i : ι) : Client Unit :=
  match jobs i with
  | .pipeline signal name => reconcile c signal name
  | .gateway => GatewayReconciler.doReconcile c.yaml c.targetNamespace

variable [DecidableEq ι]

abbrev RunHistory (ι : Type) := History Action ι ApiReq ApiResp

def Validated (h : RunHistory ι) (p : OTLPPipeline) : Prop :=
  ∃ i signal name, jobs i = .pipeline signal name ∧ ValidatedLog c signal name p (logOf i h)

def spec : OTLPPipeline → OTLPPipeline
  | .trace tp => .trace { tp with toObjectMeta := { name := "" } }
  | .log lp => .log { lp with toObjectMeta := { name := "" } }
  | .metric mp => .metric { mp with toObjectMeta := { name := "" } }

/-- Whenever the gateway is applied, each specification it is built from was validated before. -/
def DeploysValidatedSpecs (h : RunHistory ι) : Prop :=
  ∀ h₁ j traces logs metrics (x : ApiResp (.applyGateway traces logs metrics)) h₂,
    h = h₁ ++ .answered j ⟨.applyGateway traces logs metrics, x⟩ :: h₂ →
    ∀ p ∈ gatewayPipelines traces logs metrics, ∃ q, spec q = spec p ∧ Validated c jobs h₁ q

def Mentions (cm : ConfigMap) (signal : SignalType) (name : String) : Prop :=
  ∃ config ref, parseConfig c.yaml (some cm) = .ok config ∧ ref ∈ config.slice signal ∧
    ref.name = name

/-- Nothing is left of earlier pipelines of this name: no read returns one or a document that
mentions one, no unfinished pipeline reconcile has read one, and no unfinished gateway reconcile
has read a document that mentions one. -/
structure Forgotten (h : RunHistory ι) (s : Cluster) (signal : SignalType) (name : String) :
    Prop where
  visible : s.visible signal name = []
  documents : ∀ cm ∈ s.visibleDocuments, ¬ Mentions c cm signal name
  pipelines : ∀ i signal' name', jobs i = .pipeline signal' name' →
    ¬ Finished (program c jobs) h i → ∀ o, readEntry name' o ∈ logOf i h →
      ¬ (o.signal = signal ∧ o.objectMeta.name = name)
  gateways : ∀ i, jobs i = .gateway → ¬ Finished (program c jobs) h i →
    ∀ cm, ⟨.getConfigMap (key c), .ok cm⟩ ∈ logOf i h → ¬ Mentions c cm signal name

/-- A name is used again only when it is forgotten. -/
def FreshNames (h : RunHistory ι) (s : Cluster) : Action → Prop
  | .create p => Forgotten c jobs h s p.signal p.objectMeta.name
  | _ => True

/-! ## The invariant -/

structure Fresh (s : Cluster) (o : OTLPPipeline) : Prop where
  unique : ∀ o' ∈ s.visible o.signal o.objectMeta.name,
    o'.objectMeta.generation = o.objectMeta.generation → o' = o
  bounded : ∀ cur, s.current o.signal o.objectMeta.name = some cur →
    o.objectMeta.generation ≤ cur.objectMeta.generation

/-- The reference stands for an object that was validated. -/
def Backed (h : RunHistory ι) (s : Cluster) (signal : SignalType)
    (ref : PipelineReference) : Prop :=
  ∃ o, o.signal = signal ∧ o.objectMeta.name = ref.name ∧ o.objectMeta.generation = ref.generation ∧
    Validated c jobs h o ∧ Fresh s o

def DocumentBacked (h : RunHistory ι) (s : Cluster) (cm : ConfigMap) : Prop :=
  ∀ config, parseConfig c.yaml (some cm) = .ok config → ∀ signal, ∀ ref ∈ config.slice signal,
    Backed c jobs h s signal ref

structure Inv (h : RunHistory ι) (s : Cluster) : Prop where
  visible : ∀ signal name, ∀ o ∈ s.visible signal name, Fresh s o
  documents : ∀ cm ∈ s.visibleDocuments, DocumentBacked c jobs h s cm
  reads : ∀ i cm, ⟨.getConfigMap (key c), .ok cm⟩ ∈ logOf i h → s.coordination.MayRead cm
  pipelines : ∀ i signal name, jobs i = .pipeline signal name → ¬ Finished (program c jobs) h i →
    ∀ o, readEntry name o ∈ logOf i h → Fresh s o
  gateways : ∀ i, jobs i = .gateway → ¬ Finished (program c jobs) h i →
    ∀ cm, ⟨.getConfigMap (key c), .ok cm⟩ ∈ logOf i h → DocumentBacked c jobs h s cm
  fetched : ∀ i, jobs i = .gateway → ∀ p, MatchesReference c (logOf i h) p → Validated c jobs h p

variable {c} {jobs} {h : RunHistory ι} {s t : Cluster} {p : OTLPPipeline} {signal : SignalType}

theorem ValidatedLog.append {name : String}
    {log : ApiLog} (hval : ValidatedLog c signal name p log) (l : ApiLog) :
    ValidatedLog c signal name p (log ++ l) := by
  obtain ⟨lsync, lpre, lval, rest, all, rfl, hexecs⟩ := hval
  exact ⟨lsync, lpre, lval, rest ++ l, all, by simp, hexecs⟩

theorem Validated.append (hval : Validated c jobs h p) (h' : RunHistory ι) :
    Validated c jobs (h ++ h') p := by
  obtain ⟨i, signal, name, hjob, hlog⟩ := hval
  refine ⟨i, signal, name, hjob, ?_⟩
  rw [logOf_append]
  exact ValidatedLog.append hlog _

theorem DocumentBacked.mono {cm : ConfigMap} (hcm : DocumentBacked c jobs h s cm)
    (h' : RunHistory ι) (hfresh : ∀ o, Mentions c cm o.signal o.objectMeta.name → Fresh s o →
      Fresh t o) :
    DocumentBacked c jobs (h ++ h') t cm := by
  intro config hparse signal ref href
  obtain ⟨o, rfl, hname, hgeneration, hval, ho⟩ := hcm config hparse signal ref href
  exact ⟨o, rfl, hname, hgeneration, hval.append h',
    hfresh o ⟨config, ref, hparse, href, hname.symm⟩ ho⟩

theorem Inv.action {a : Action} (hinv : Inv c jobs h s) (Kept : SignalType → String → Prop)
    (hkept : ∀ o, Kept o.signal o.objectMeta.name → Fresh s o → Fresh t o)
    (hvisible : ∀ signal name, ∀ o ∈ t.visible signal name, Fresh t o)
    (hdocuments : t.visibleDocuments ⊆ s.visibleDocuments)
    (hcoordination : t.coordination = s.coordination)
    (hmentioned : ∀ cm ∈ s.visibleDocuments, ∀ signal name, Mentions c cm signal name →
      Kept signal name)
    (hpipelines : ∀ i signal name, jobs i = .pipeline signal name →
      ¬ Finished (program c jobs) h i → ∀ o, readEntry name o ∈ logOf i h →
        Kept o.signal o.objectMeta.name)
    (hgateways : ∀ i, jobs i = .gateway → ¬ Finished (program c jobs) h i →
      ∀ cm, ⟨.getConfigMap (key c), .ok cm⟩ ∈ logOf i h → ∀ signal name, Mentions c cm signal name →
        Kept signal name) :
    Inv c jobs (h ++ [.action a]) t where
  visible := hvisible
  documents := by
    intro cm hcm
    have hmem := hdocuments hcm
    exact (hinv.documents cm hmem).mono _ fun o ho => hkept o (hmentioned cm hmem _ _ ho)
  reads := by
    intro i cm hcm
    rw [logOf_action] at hcm
    rw [hcoordination]
    exact hinv.reads i cm hcm
  pipelines := by
    intro i signal name hjob hfinished o ho
    rw [finished_action_iff] at hfinished
    rw [logOf_action] at ho
    exact hkept o (hpipelines i signal name hjob hfinished o ho)
      (hinv.pipelines i signal name hjob hfinished o ho)
  gateways := by
    intro i hjob hfinished cm hcm
    rw [finished_action_iff] at hfinished
    rw [logOf_action] at hcm
    exact (hinv.gateways i hjob hfinished cm hcm).mono _ fun o ho =>
      hkept o (hgateways i hjob hfinished cm hcm _ _ ho)
  fetched := by
    intro i hjob p hp
    rw [logOf_action] at hp
    exact (hinv.fetched i hjob p hp).append _

theorem Inv.action_of_fresh {a : Action} (hinv : Inv c jobs h s)
    (hkept : ∀ o, Fresh s o → Fresh t o)
    (hvisible : ∀ signal name, ∀ o ∈ t.visible signal name, Fresh t o)
    (hdocuments : t.visibleDocuments ⊆ s.visibleDocuments)
    (hcoordination : t.coordination = s.coordination) : Inv c jobs (h ++ [.action a]) t :=
  hinv.action (fun _ _ => True) (fun o _ => hkept o) hvisible hdocuments hcoordination
    (fun _ _ _ _ _ => trivial) (fun _ _ _ _ _ _ _ => trivial) fun _ _ _ _ _ _ _ _ => trivial

theorem Fresh.set_of_ne {p o : OTLPPipeline} (ho : Fresh s o)
    (hne : ¬ (p.signal = o.signal ∧ p.objectMeta.name = o.objectMeta.name)) :
    Fresh (s.setPipeline p) o where
  unique := by
    simp only [Cluster.setPipeline, if_neg hne]
    exact ho.unique
  bounded := by
    simp only [Cluster.setPipeline, if_neg hne]
    exact ho.bounded

theorem Fresh.set_of_lt {p o : OTLPPipeline} (ho : Fresh s o)
    (hlt : p.signal = o.signal → p.objectMeta.name = o.objectMeta.name →
      o.objectMeta.generation < p.objectMeta.generation) : Fresh (s.setPipeline p) o := by
  by_cases hkey : p.signal = o.signal ∧ p.objectMeta.name = o.objectMeta.name
  · have hlt := hlt hkey.1 hkey.2
    refine ⟨?_, ?_⟩
    · intro o' ho' hgeneration
      simp only [Cluster.setPipeline, if_pos hkey] at ho'
      rcases List.mem_cons.mp ho' with rfl | ho'
      · omega
      · exact ho.unique o' ho' hgeneration
    · intro cur hcur
      simp only [Cluster.setPipeline, if_pos hkey] at hcur
      cases hcur
      omega
  · exact ho.set_of_ne hkey

theorem fresh_set_self (h : ∀ o ∈ s.visible p.signal p.objectMeta.name,
      o.objectMeta.generation < p.objectMeta.generation) : Fresh (s.setPipeline p) p := by
  refine ⟨?_, ?_⟩
  · intro o ho hgeneration
    simp only [Cluster.setPipeline, and_self, if_true] at ho
    rcases List.mem_cons.mp ho with rfl | ho
    · rfl
    · have hlt := h o ho
      omega
  · intro cur hcur
    simp only [Cluster.setPipeline, and_self, if_true] at hcur
    cases hcur
    exact le_rfl

theorem fresh_set_visible (hvisible : ∀ signal name, ∀ o ∈ s.visible signal name, Fresh s o)
    (hlt : ∀ o ∈ s.visible p.signal p.objectMeta.name,
      o.objectMeta.generation < p.objectMeta.generation) (signal : SignalType) (name : String) :
    ∀ o ∈ (s.setPipeline p).visible signal name, Fresh (s.setPipeline p) o := by
  intro o ho
  have hold : o ∈ s.visible signal name → Fresh (s.setPipeline p) o := by
    intro ho
    refine (hvisible signal name o ho).set_of_lt fun hsignal hname => hlt o ?_
    obtain ⟨rfl, rfl⟩ := s.keyed signal name o ho
    rwa [hsignal, hname]
  by_cases hkey : p.signal = signal ∧ p.objectMeta.name = name
  · simp only [Cluster.setPipeline, if_pos hkey] at ho
    rcases List.mem_cons.mp ho with rfl | ho
    · exact fresh_set_self hlt
    · exact hold ho
  · simp only [Cluster.setPipeline, if_neg hkey] at ho
    exact hold ho

theorem Inv.act {a : Action} (hinv : Inv c jobs h s) (hnames : FreshNames c jobs h s a)
    (hact : Act s a t) : Inv c jobs (h ++ [.action a]) t := by
  cases hact with
  | create p hfree hgeneration hlive =>
    have hforgotten : Forgotten c jobs h s p.signal p.objectMeta.name := hnames
    refine hinv.action (fun signal name => ¬ (p.signal = signal ∧ p.objectMeta.name = name))
      (fun o hne ho => ho.set_of_ne hne) (fresh_set_visible hinv.visible ?_) (fun _ => id) rfl
      ?_ ?_ ?_
    · simp [hforgotten.visible]
    · rintro cm hcm signal name hmentions ⟨rfl, rfl⟩
      exact hforgotten.documents cm hcm hmentions
    · rintro i signal name hjob hfinished o ho ⟨hsignal, hname⟩
      exact hforgotten.pipelines i signal name hjob hfinished o ho ⟨hsignal.symm, hname.symm⟩
    · rintro i hjob hfinished cm hcm signal name hmentions ⟨rfl, rfl⟩
      exact hforgotten.gateways i hjob hfinished cm hcm hmentions
  | update p old hold huid hgeneration =>
    have hlt : ∀ o, Fresh s o → p.signal = o.signal → p.objectMeta.name = o.objectMeta.name →
        o.objectMeta.generation < p.objectMeta.generation := by
      intro o ho hsignal hname
      have hle := ho.bounded old (by rwa [← hsignal, ← hname])
      omega
    refine hinv.action_of_fresh (fun o ho => ho.set_of_lt (hlt o ho))
      (fresh_set_visible hinv.visible ?_) (fun _ => id) rfl
    intro o ho
    obtain ⟨hsignal, hname⟩ := s.keyed _ _ o ho
    exact hlt o (hinv.visible _ _ o ho) hsignal.symm hname.symm
  | remove signal name =>
    have hkept : ∀ o, Fresh s o → Fresh (s.removePipeline signal name) o := by
      intro o ho
      refine ⟨ho.unique, fun cur hcur => ?_⟩
      simp only [Cluster.removePipeline] at hcur
      split at hcur
      · cases hcur
      · exact ho.bounded cur hcur
    exact hinv.action_of_fresh hkept
      (fun signal name o ho => hkept o (hinv.visible signal name o ho))
      (fun _ => id) rfl
  | sync _ hcurrent hcoordination hvisible hdocuments =>
    have hkept : ∀ o, Fresh s o → Fresh t o := by
      intro o ho
      refine ⟨fun o' ho' => ho.unique o' (hvisible _ _ ho'), ?_⟩
      rw [hcurrent]
      exact ho.bounded
    exact hinv.action_of_fresh hkept
      (fun signal name o ho => hkept o (hinv.visible signal name o (hvisible signal name ho)))
      hdocuments hcoordination

theorem Serve.visible {k : ObjectKey} {name : String}
    (h : Serve k s (readEntry name p) t) : p ∈ s.visible p.signal name := by
  generalize hentry : readEntry name p = entry at h
  cases h with
  | fails r err => cases p <;> cases hentry
  | pipeline name' p' hp =>
    cases p <;> cases p' <;> cases hentry <;> exact hp
  | document cm hcm | create cm x | update cm x => cases p <;> cases hentry
  | other _ hother =>
    subst hentry
    cases p <;> cases hother

theorem Serve.visibleDocument {k : ObjectKey} {cm : ConfigMap}
    (h : Serve k s ⟨.getConfigMap k, .ok cm⟩ t) : cm ∈ s.visibleDocuments := by
  generalize hentry : (⟨.getConfigMap k, .ok cm⟩ : ApiEntry) = entry at h
  cases h with
  | fails r err => cases hentry
  | pipeline name p hp => cases p <;> cases hentry
  | document cm' hcm =>
    cases hentry
    exact hcm
  | create cm' x | update cm' x => cases hentry
  | other _ hother =>
    subst hentry
    simp [concerns] at hother

/-- An answer leaves the cluster as it is or belongs to an accepted write. -/
theorem Serve.eq_or_put {k : ObjectKey} {entry : ApiEntry} (h : Serve k s entry t) :
    t = s ∨ ∃ cm : ConfigMap, cm.key = k ∧ t = s.putDocument cm ∧
      ((entry.1 = .createConfigMap cm ∧ s.coordination.AcceptsCreate) ∨
        entry.1 = .updateConfigMap cm ∧ s.coordination.AcceptsUpdate cm) := by
  cases h with
  | create cm x hkey haccepts => exact .inr ⟨cm, hkey, rfl, .inl ⟨rfl, haccepts⟩⟩
  | update cm x hkey haccepts => exact .inr ⟨cm, hkey, rfl, .inr ⟨rfl, haccepts⟩⟩
  | _ => exact .inl rfl

theorem mem_apply_slice {call : Call} {config : OTLPGatewayConfigMap}
    {ref : PipelineReference} (href : ref ∈ (call.apply config).slice signal) :
    ref ∈ config.slice signal ∨ ∃ input, call = .add (.of signal) input ∧ ref.name = input.name ∧
      ref.generation = input.generation := by
  rw [Call.apply_slice] at href
  split at href
  · next htype =>
    cases call with
    | remove pipelineType name => exact .inl (List.mem_of_mem_filter href)
    | add pipelineType input =>
      have htype : pipelineType = .of signal := htype
      subst htype
      have hadd : ∀ refs, ref ∈ addReference input refs → ref ∈ refs ∨ ref.name = input.name ∧
          ref.generation = input.generation := by
        intro refs href
        induction refs with
        | nil =>
          rw [addReference, List.mem_singleton] at href
          exact .inr ⟨by rw [href], by rw [href]⟩
        | cons ref' refs ih =>
          unfold addReference at href
          split at href
          · next hname =>
            rcases List.mem_cons.mp href with rfl | href
            · exact .inr ⟨hname, rfl⟩
            · exact .inl (List.mem_cons_of_mem _ href)
          · rcases List.mem_cons.mp href with rfl | href
            · exact .inl List.mem_cons_self
            · exact (ih href).imp_left (List.mem_cons_of_mem _)
      exact (hadd _ href).imp_right fun hinput => ⟨input, rfl, hinput⟩
  · exact .inl href

theorem documentBacked_write {i : ι} {name : String} {call : Call}
    {stored : Option ConfigMap} {yamlData : String} {written : ConfigMap}
    (hyaml : c.yaml.RoundTrips) (hjob : jobs i = .pipeline signal name)
    (hcall : CallAfter c signal name (logOf i h) call)
    (hdoc : updatedDocument c.yaml call.updateFn stored = .ok yamlData)
    (hdata : written.data.lookup configMapDataKey = some yamlData)
    (hstored : ∀ cm, stored = some cm → DocumentBacked c jobs h s cm)
    (hheld : ∀ o, readEntry name o ∈ logOf i h → Fresh s o) :
    DocumentBacked c jobs h s written := by
  intro config hparse signal' ref href
  rw [parseConfig_apply hyaml hdoc hdata] at hparse
  cases hbefore : parseConfig c.yaml stored with
  | error err =>
    rw [hbefore] at hparse
    cases hparse
  | ok config₀ =>
    rw [hbefore] at hparse
    cases hparse
    rcases mem_apply_slice href with hold | ⟨input, rfl, hname, hgeneration⟩
    · cases stored with
      | none =>
        cases hbefore
        cases signal' <;> cases hold
      | some cm => exact hstored cm rfl config₀ hbefore signal' ref hold
    · obtain ⟨p, hsignal, hpname, hpgeneration, hval⟩ := hcall
      cases hsignal
      have hread : readEntry name p ∈ logOf i h := by
        obtain ⟨lsync, lpre, lval, rest, all, hlog, -⟩ := hval
        rw [hlog]
        exact List.mem_cons_self
      exact ⟨p, rfl, (hname.trans hpname).symm, (hgeneration.trans hpgeneration).symm,
        ⟨i, signal, name, hjob, hval⟩, hheld p hread⟩

theorem matchesReference_append {log : ApiLog} {entry : ApiEntry}
    (h : MatchesReference c (log ++ [entry]) p) :
    MatchesReference c log p ∨ ∃ cm config ref, parseConfig c.yaml (some cm) = .ok config ∧
      ref ∈ config.slice p.signal ∧ p.objectMeta.generation = ref.generation ∧
      entry = readEntry ref.name p ∧ ⟨.getConfigMap (key c), .ok cm⟩ ∈ log := by
  obtain ⟨cm, config, ref, l, l', hparse, href, hgeneration, hlog, hread⟩ := h
  rcases List.eq_nil_or_concat l' with rfl | ⟨l', last, rfl⟩
  · obtain ⟨rfl, hentry⟩ := List.append_inj' hlog rfl
    cases hentry
    exact .inr ⟨cm, config, ref, hparse, href, hgeneration, rfl, hread⟩
  · have hlog : log ++ [entry] = (l ++ readEntry ref.name p :: l') ++ [last] := by simpa using hlog
    obtain ⟨rfl, -⟩ := List.append_inj' hlog rfl
    exact .inl ⟨cm, config, ref, l, l', hparse, href, hgeneration, rfl, hread⟩

section Answered

variable {i : ι} {entry : ApiEntry} (hinv : Inv c jobs h s)
  (hfollows : Follows (program c jobs) (h ++ [.answered i entry]))

include hfollows

theorem gatewayGood_of_follows (hjob : jobs i = .gateway) : GatewayGood c (logOf i h) entry := by
  refine hfollows.emits ?_
  rw [program, hjob]
  exact gateway_emits

theorem pipelineGood_of_follows {signal : SignalType} {name : String}
    (hjob : jobs i = .pipeline signal name) : PipelineGood c signal name (logOf i h) entry := by
  refine hfollows.emits ?_
  rw [program, hjob]
  exact reconcile_emits signal name

include hinv

theorem documentBacked_of_serve (hyaml : c.yaml.RoundTrips) (hserve : Serve (key c) s entry t) :
    ∀ cm ∈ t.visibleDocuments, DocumentBacked c jobs h s cm := by
  intro cm hcm
  rcases hserve.eq_or_put with rfl | ⟨sent, hkey, rfl, haccepted⟩
  · exact hinv.documents cm hcm
  · have hwrite : CoordinationWrite c entry.1 :=
      ⟨sent, hkey, haccepted.imp And.left And.left⟩
    rcases List.mem_cons.mp hcm with rfl | hcm
    · cases hjob : jobs i with
      | gateway => exact ((gatewayGood_of_follows hfollows hjob).1 hwrite).elim
      | pipeline signal name =>
        have hheld := hinv.pipelines i signal name hjob hfollows.not_finished
        rcases pipelineGood_of_follows hfollows hjob with hquiet | ⟨call, hcall, stored, yamlData,
          hdoc, ⟨rfl, hreq⟩ | ⟨cm, rfl, hreq, hread⟩⟩
        · exact (hquiet.1 hwrite).elim
        · rw [hreq] at haccepted
          rcases haccepted with ⟨hsent, -⟩ | ⟨hsent, -⟩ <;> cases hsent
          refine documentBacked_write hyaml hjob hcall hdoc ?_ nofun hheld
          simp [configMapVersions, newConfigMap]
        · -- the version shows that the call has changed the current document
          rw [hreq] at haccepted
          rcases haccepted with ⟨hsent, -⟩ | ⟨hsent, haccepts⟩ <;> cases hsent
          have hcurrent := haccepts.current_eq (hinv.reads i cm hread) rfl
          refine documentBacked_write hyaml hjob hcall hdoc ?_ ?_ hheld
          · simp [configMapVersions, withYamlData, lookup_setData]
          · intro cm' hcm'
            cases hcm'
            exact hinv.documents cm (s.document_visible cm hcurrent)
    · exact hinv.documents cm hcm

theorem Inv.answered (hyaml : c.yaml.RoundTrips) (hserve : Serve (key c) s entry t) :
    Inv c jobs (h ++ [.answered i entry]) t := by
  have hfresh : ∀ o, Fresh s o → Fresh t o := by
    intro o ho
    rcases hserve.eq_or_put with rfl | ⟨cm, -, rfl, -⟩
    · exact ho
    · exact ⟨ho.unique, ho.bounded⟩
  have hvisible : t.visible = s.visible := by
    rcases hserve.eq_or_put with rfl | ⟨cm, -, rfl, -⟩ <;> rfl
  refine ⟨?_, ?_, ?_, ?_, ?_, ?_⟩
  · intro signal name o ho
    rw [hvisible] at ho
    exact hfresh o (hinv.visible signal name o ho)
  · intro cm hcm
    exact (documentBacked_of_serve hinv hfollows hyaml hserve cm hcm).mono _ fun o _ => hfresh o
  · intro j cm hcm
    have hpast : s.coordination.MayRead cm := by
      rcases mem_logOf_answered_iff.mp hcm with hcm | ⟨-, rfl⟩
      · exact hinv.reads j cm hcm
      · exact s.documents_past cm hserve.visibleDocument
    rcases hserve.eq_or_put with rfl | ⟨sent, -, rfl, -⟩
    · exact hpast
    · exact List.mem_cons_of_mem _ hpast
  · intro j signal name hjob hfinished o ho
    rcases mem_logOf_answered_iff.mp ho with ho | ⟨-, rfl⟩
    · exact hfresh o (hinv.pipelines j signal name hjob
        (hfollows.not_finished_before hfinished) o ho)
    · exact hfresh o (hinv.visible _ _ o hserve.visible)
  · intro j hjob hfinished cm hcm
    rcases mem_logOf_answered_iff.mp hcm with hcm | ⟨-, rfl⟩
    · exact (hinv.gateways j hjob (hfollows.not_finished_before hfinished) cm hcm).mono _
        fun o _ => hfresh o
    · exact (hinv.documents cm hserve.visibleDocument).mono _ fun o _ => hfresh o
  · intro j hjob p hmatches
    by_cases hij : i = j
    · subst hij
      rw [logOf_answered_self] at hmatches
      rcases matchesReference_append hmatches with hmatches | ⟨cm, config, ref, hparse, href,
        hgeneration, rfl, hread⟩
      · exact (hinv.fetched i hjob p hmatches).append _
      · -- the object behind the reference is the one that was just read
        obtain ⟨o, hsignal, hname, hogeneration, hval, ho⟩ :=
          hinv.gateways i hjob hfollows.not_finished cm hread config hparse _ ref href
        have hp : p ∈ s.visible o.signal o.objectMeta.name := by
          rw [hsignal, hname]
          exact hserve.visible
        rw [ho.unique p hp (hgeneration.trans hogeneration.symm)]
        exact hval.append _
    · rw [logOf_answered_of_ne hij] at hmatches
      exact (hinv.fetched j hjob p hmatches).append _

end Answered

theorem inv_empty : Inv c jobs [] .empty where
  visible := by simp [Cluster.empty]
  documents := by simp [Cluster.empty]
  reads := by simp
  pipelines := by simp
  gateways := by simp
  fetched := by
    rintro i - p ⟨cm, config, ref, l, l', -, -, -, hlog, -⟩
    simp at hlog

theorem inv_of_reaches (hyaml : c.yaml.RoundTrips)
    (hreach : Reaches Act (Serve (key c)) (FreshNames c jobs) .empty h s)
    (hfollows : Follows (program c jobs) h) : Inv c jobs h s :=
  hreach.invariant hfollows inv_empty (fun _ _ _ _ hinv hnames hact => hinv.act hnames hact)
    fun _ _ _ _ _ hinv hfollows hserve => hinv.answered hfollows hyaml hserve

/-- In every interleaving in which names are used again only when they are forgotten, the gateway is
built from validated specifications only. -/
theorem fresh_names_deploy_validated_specs (hyaml : c.yaml.RoundTrips)
    (hreach : Reaches Act (Serve (key c)) (FreshNames c jobs) .empty h s)
    (hfollows : Follows (program c jobs) h) : DeploysValidatedSpecs c jobs h := by
  rintro h₁ j traces logs metrics x h₂ rfl p hp
  obtain ⟨t, hbefore⟩ := hreach.of_append
  have hfollows : Follows (program c jobs)
      (h₁ ++ [.answered j ⟨.applyGateway traces logs metrics, x⟩]) := by
    have hsplit := List.append_cons h₁ (.answered j ⟨.applyGateway traces logs metrics, x⟩) h₂
    rw [hsplit] at hfollows
    exact hfollows.of_append
  have hinv := inv_of_reaches hyaml hbefore hfollows.of_append
  refine ⟨p, rfl, ?_⟩
  cases hjob : jobs j with
  | gateway =>
    have hgood := gatewayGood_of_follows hfollows hjob
    exact hinv.fetched j hjob p (hgood.2 traces logs metrics rfl p hp)
  | pipeline signal name =>
    rcases pipelineGood_of_follows hfollows hjob with hquiet | ⟨call, -, stored, yamlData, -,
      ⟨-, hreq⟩ | ⟨cm, -, hreq, -⟩⟩
    · exact (hquiet.2 traces logs metrics rfl).elim
    · cases hreq
    · cases hreq

end Runs

/-! ## A pipeline that is created again -/

open PipelineReconcilers in
def sampleSetup : Setup where
  yaml := sampleYaml
  targetNamespace := "kyma-system"
  controller := fun _ =>
    { reconciler := sampleReconciler
      fluentBit := sampleReconciler
      pipelineSync := ⟨⟨"kyma-system", "telemetry-tracepipeline-sync"⟩, 0⟩ }
  yaml_eq := fun _ => rfl
  namespace_eq := fun _ => rfl
  lock_ne := fun _ => by decide
  fluentBitLock_ne := fun _ => by decide
  sync_ne := fun _ => by decide

def sampleJobs : Bool → Job
  | true => .pipeline .trace "backend"
  | false => .gateway

def validPipeline : TracePipeline where
  name := "backend"
  uid := "a1"
  output := { endpoint := { value := Reconcilable.sampleURL } }

/-- The pipeline that is created later under the same name, without a valid endpoint. -/
def recreatedPipeline : TracePipeline where
  name := "backend"
  uid := "b2"
  output := { endpoint := { value := "backend" } }

def sampleOwner : OwnerReference := Reconcilable.tracePipelineOwner validPipeline

/-- A read of a lock that the first pipeline holds. -/
def readLock (name : String) : ApiEntry :=
  ⟨.getConfigMap ⟨"kyma-system", name⟩,
    .ok { key := ⟨"kyma-system", name⟩, ownerReferences := [sampleOwner] }⟩

def validationLog : ApiLog :=
  [⟨.getTracePipeline "backend", .ok validPipeline⟩, readLock "telemetry-tracepipeline-sync",
   readLock "telemetry-tracepipeline-lock", ⟨.listTracePipelines, .ok [validPipeline]⟩,
   readLock "telemetry-tracepipeline-lock", ⟨.getConfigMap (key sampleSetup), .error .notFound⟩,
   ⟨.createConfigMap (newConfigMap "kyma-system" sampleText), .ok ()⟩]

def gatewayLog (found : TracePipeline) : ApiLog :=
  [⟨.cleanupLegacyGateways, .ok ()⟩,
   ⟨.getConfigMap (key sampleSetup),
     .ok { newConfigMap "kyma-system" sampleText with resourceVersion := 1 }⟩,
   ⟨.getTracePipeline "backend", .ok found⟩, ⟨.applyGateway [found] [] [], .ok ()⟩]

theorem validationLog_exec :
    ExecE (program sampleSetup sampleJobs true) validationLog (.ok ()) :=
  .call (.call (.call (.call (.call (.call (.call (.done _)))))))

def recordedCluster : Cluster :=
  (Cluster.empty.setPipeline (.trace validPipeline)).putDocument
    (newConfigMap "kyma-system" sampleText)

def recordedHistory : RunHistory Bool :=
  [.action (.create (.trace validPipeline))] ++ validationLog.map (.answered true)

theorem recordedHistory_reaches (Allowed : RunHistory Bool → Cluster → Action → Prop)
    (hallowed : Allowed [] .empty (.create (.trace validPipeline))) :
    Reaches Act (Serve (key sampleSetup)) Allowed .empty recordedHistory recordedCluster := by
  have hcreate : Reaches Act (Serve (key sampleSetup)) Allowed .empty
      [.action (.create (.trace validPipeline))]
      (Cluster.empty.setPipeline (.trace validPipeline)) :=
    Reaches.start.action hallowed (.create _ _ rfl rfl rfl)
  refine hcreate.answeredAll true ?_
  exact .cons (.pipeline _ "backend" (.trace validPipeline) List.mem_cons_self)
    (.cons (.other _ _ rfl) (.cons (.other _ _ rfl) (.cons (.other _ _ rfl) (.cons (.other _ _ rfl)
      (.cons (.fails _ _ _) (.cons (.create _ _ _ rfl rfl) (.nil _)))))))

theorem gatewayLog_serves {s : Cluster} {found : TracePipeline}
    (hdocument : { newConfigMap "kyma-system" sampleText with resourceVersion := 1 } ∈
      s.visibleDocuments) (hfound : .trace found ∈ s.visible .trace "backend") :
    ServesAll (Serve (key sampleSetup)) s (gatewayLog found) s :=
  .cons (.other _ _ rfl) (.cons (.document _ _ hdocument)
    (.cons (.pipeline _ "backend" (.trace found) hfound) (.cons (.other _ _ rfl) (.nil _))))

/-- The gateway is built from the pipeline that was validated. -/
theorem validated_pipeline_deployed :
    DeploysValidatedSpecs sampleSetup sampleJobs
      (recordedHistory ++ (gatewayLog validPipeline).map (.answered false)) := by
  have hforgotten : Forgotten sampleSetup sampleJobs [] .empty .trace "backend" :=
    ⟨rfl, by simp [Cluster.empty], by simp, by simp⟩
  refine fresh_names_deploy_validated_specs sampleYaml_roundTrips
    ((recordedHistory_reaches _ hforgotten).answeredAll false
      (gatewayLog_serves List.mem_cons_self List.mem_cons_self)) ?_
  intro i
  refine ⟨[], .ok (), ?_⟩
  cases i with
  | true => exact validationLog_exec
  | false => exact .call (.call (.call (.call (.done _))))

/-- The first pipeline is deleted and another one is created under its name before the gateway is
reconciled. -/
def recreationHistory : RunHistory Bool :=
  recordedHistory ++ [.action (.remove .trace "backend")] ++
    [.action (.create (.trace recreatedPipeline))]

/-- The gateway is built from a pipeline that nobody has validated. -/
theorem recreated_pipeline_deployed_unvalidated :
    (∃ s, Reaches Act (Serve (key sampleSetup)) (fun _ _ _ => True) .empty
        (recreationHistory ++ (gatewayLog recreatedPipeline).map (.answered false)) s) ∧
      Follows (program sampleSetup sampleJobs)
        (recreationHistory ++ (gatewayLog recreatedPipeline).map (.answered false)) ∧
      ¬ DeploysValidatedSpecs sampleSetup sampleJobs
        (recreationHistory ++ (gatewayLog recreatedPipeline).map (.answered false)) := by
  refine ⟨?_, ?_, ?_⟩
  · have hrecorded := recordedHistory_reaches (fun _ _ _ => True) trivial
    have hremoved := hrecorded.action (a := .remove .trace "backend") trivial (.remove _ _ _)
    have hrecreated := hremoved.action (a := .create (.trace recreatedPipeline)) trivial
      (.create _ _ rfl rfl rfl)
    exact ⟨_, hrecreated.answeredAll false
      (gatewayLog_serves List.mem_cons_self List.mem_cons_self)⟩
  · intro i
    refine ⟨[], .ok (), ?_⟩
    cases i with
    | true => exact validationLog_exec
    | false => exact .call (.call (.call (.call (.done _))))
  · intro hdeploys
    obtain ⟨q, hspec, i, signal, name, hjob, lsync, lpre, lval, rest, all, hlog, -⟩ := hdeploys
      (recreationHistory ++ ((gatewayLog recreatedPipeline).take 3).map (.answered false)) false
      [recreatedPipeline] [] [] (.ok ()) [] (by simp [gatewayLog]) (.trace recreatedPipeline)
      (by simp [gatewayPipelines])
    cases i with
    | false => cases hjob
    | true =>
      -- the only pipeline that was read is the first one
      have hread : readEntry name q = ⟨.getTracePipeline "backend", .ok validPipeline⟩ :=
        (List.cons.inj hlog).1.symm
      cases q with
      | trace tp =>
        cases hread
        revert hspec
        decide
      | log lp | metric mp => cases hread

end TelemetryManager.Deployment
