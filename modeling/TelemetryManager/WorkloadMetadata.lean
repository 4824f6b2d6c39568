import Mathlib.Data.Finmap
import TelemetryManager.KubeClient
import TelemetryManager.Library.ObjectStore
import TelemetryManager.Library.Text

/-! The metadata that is written when a DaemonSet or a Deployment is created or updated: what others
set on the existing object is kept. -/
namespace TelemetryManager.Workloads

open Interaction ObjectStore

abbrev StringMap := Finmap fun _ : String => String

structure OwnerReference where
  apiVersion : String
  kind : String
  name : String
  uid : String

structure ObjectMeta where
  key : ObjectKey
  resourceVersion : String := ""
  labels : StringMap := ∅
  annotations : StringMap := ∅
  ownerReferences : List OwnerReference := []

/-- A round of the loop: an entry of the old map is set if it is missing. -/
def addMissing (pre : String) (newMap : StringMap) (entry : Σ _ : String, String) : StringMap :=
  if Text.hasPrefix entry.1 pre ∧ entry.1 ∉ newMap then newMap.insert entry.1 entry.2 else newMap

theorem lookup_addMissing (pre : String) (newMap : StringMap) (entry : Σ _ : String, String)
    (k : String) : (addMissing pre newMap entry).lookup k = (newMap.lookup k).or
      (if Text.hasPrefix k pre then [entry].dlookup k else none) := by
  obtain ⟨key, value⟩ := entry
  by_cases hk : k = key
  · subst hk
    by_cases hmem : k ∈ newMap
    · obtain ⟨v, hv⟩ := Finmap.mem_iff.mp hmem
      simp [addMissing, hmem, hv]
    · have hnone := Finmap.lookup_eq_none.mpr hmem
      by_cases hpre : Text.hasPrefix k pre
      · simp [addMissing, hmem, hnone, hpre]
      · simp [addMissing, hnone, hpre]
  · have hne : [(⟨key, value⟩ : Σ _ : String, String)].dlookup k = none := by
      rw [List.dlookup_cons_ne _ _ hk, List.dlookup_nil]
    rw [hne, ite_self, Option.or_none, addMissing]
    split
    · exact Finmap.lookup_insert_of_ne _ hk
    · rfl

/-- A key of the new map keeps its value, another one gets the value of the first entry. -/
theorem lookup_foldl_addMissing (pre : String) (entries : List (Σ _ : String, String))
    (newMap : StringMap) (k : String) :
    (entries.foldl (addMissing pre) newMap).lookup k = (newMap.lookup k).or
      (if Text.hasPrefix k pre then entries.dlookup k else none) := by
  induction entries generalizing newMap with
  | nil => simp
  | cons entry entries ih =>
    rw [List.foldl_cons, ih, lookup_addMissing, Option.or_assoc]
    obtain ⟨key, value⟩ := entry
    congr 1
    split
    · by_cases hk : k = key
      · subst hk
        rw [List.dlookup_cons_eq, List.dlookup_cons_eq, Option.some_or]
      · rw [List.dlookup_cons_ne _ _ hk, List.dlookup_cons_ne _ _ hk, List.dlookup_nil,
          Option.none_or]
    · rfl

/-- The entries of a Go map come in any order, which does not matter here. -/
def mergeMapsByPrefix (newMap oldMap : StringMap) (pre : String) : StringMap :=
  oldMap.liftOn (fun old => old.entries.foldl (addMissing pre) newMap) fun old old' hperm =>
    Finmap.ext_lookup fun k => by
      rw [lookup_foldl_addMissing, lookup_foldl_addMissing,
        List.perm_dlookup k old.nodupKeys hperm]

theorem lookup_mergeMapsByPrefix (newMap oldMap : StringMap) (pre k : String) :
    (mergeMapsByPrefix newMap oldMap pre).lookup k = (newMap.lookup k).or
      (if Text.hasPrefix k pre then oldMap.lookup k else none) := by
  induction oldMap using Finmap.induction_on with
  | H old => exact lookup_foldl_addMissing pre old.entries newMap k

def mergeMaps (newMap oldMap : StringMap) : StringMap := mergeMapsByPrefix newMap oldMap ""

theorem lookup_mergeMaps (newMap oldMap : StringMap) (k : String) :
    (mergeMaps newMap oldMap).lookup k = (newMap.lookup k).or (oldMap.lookup k) := by
  rw [mergeMaps, lookup_mergeMapsByPrefix]
  simp [Text.hasPrefix]

def preservedPrefixes : List String :=
  ["kubectl.kubernetes.io/", "checksum/config", "istio-operator.kyma-project.io/restartedAt"]

def mergePodAnnotations (newMap oldMap : StringMap) : StringMap :=
  preservedPrefixes.foldl (fun newMap pre => mergeMapsByPrefix newMap oldMap pre) newMap

/-- The key has one of the prefixes under which annotations of existing pods are kept. -/
def isPreserved (k : String) : Bool := preservedPrefixes.any fun pre => Text.hasPrefix k pre

theorem lookup_foldl_mergeMapsByPrefix (prefixes : List String) (newMap oldMap : StringMap)
    (k : String) :
    (prefixes.foldl (fun newMap pre => mergeMapsByPrefix newMap oldMap pre) newMap).lookup k =
      (newMap.lookup k).or
        (if prefixes.any fun pre => Text.hasPrefix k pre then oldMap.lookup k else none) := by
  induction prefixes generalizing newMap with
  | nil => simp
  | cons pre prefixes ih =>
    rw [List.foldl_cons, ih, lookup_mergeMapsByPrefix, Option.or_assoc, List.any_cons]
    congr 1
    by_cases hpre : Text.hasPrefix k pre
    · simp only [hpre, if_true, Bool.true_or]
      split
      · exact Option.or_self
      · exact Option.or_none
    · simp [hpre]

theorem lookup_mergePodAnnotations (newMap oldMap : StringMap) (k : String) :
    (mergePodAnnotations newMap oldMap).lookup k = (newMap.lookup k).or
      (if isPreserved k then oldMap.lookup k else none) :=
  lookup_foldl_mergeMapsByPrefix preservedPrefixes newMap oldMap k

def ownerSliceContains (owners : List OwnerReference) (owner : OwnerReference) : Bool :=
  owners.any fun o => o.uid = owner.uid

def mergeOwnerReferences (newOwners oldOwners : List OwnerReference) : List OwnerReference :=
  newOwners.foldl (fun merged o => if ownerSliceContains oldOwners o then merged else merged ++ [o])
    oldOwners

def uids (owners : List OwnerReference) : List String := owners.map (·.uid)

theorem ownerSliceContains_iff {owners : List OwnerReference} {owner : OwnerReference} :
    ownerSliceContains owners owner ↔ owner.uid ∈ uids owners := by
  simp [ownerSliceContains, uids]

theorem mergeOwnerReferences_eq (newOwners oldOwners : List OwnerReference) :
    mergeOwnerReferences newOwners oldOwners =
      oldOwners ++ newOwners.filter fun o => !ownerSliceContains oldOwners o := by
  have hloop : ∀ merged : List OwnerReference, newOwners.foldl (fun merged o =>
      if ownerSliceContains oldOwners o then merged else merged ++ [o]) merged =
      merged ++ newOwners.filter fun o => !ownerSliceContains oldOwners o := by
    induction newOwners with
    | nil => simp
    | cons o newOwners ih =>
      intro merged
      by_cases ho : ownerSliceContains oldOwners o
      · simp [ho, ih]
      · simp [ho, ih]
  exact hloop oldOwners

theorem uids_mergeOwnerReferences (newOwners oldOwners : List OwnerReference) :
    uids (mergeOwnerReferences newOwners oldOwners) =
      uids oldOwners ++ (uids newOwners).filter fun uid => uid ∉ uids oldOwners := by
  have hcontains : ∀ o, (!ownerSliceContains oldOwners o) = decide (o.uid ∉ uids oldOwners) := by
    intro o
    rw [Bool.eq_iff_iff]
    simp [← ownerSliceContains_iff]
  rw [mergeOwnerReferences_eq, uids, List.map_append, uids, uids, List.filter_map]
  simp only [hcontains, uids]
  rfl

variable {newOwners oldOwners : List OwnerReference}

theorem nodup_uids_mergeOwnerReferences
    (hnew : (uids newOwners).Nodup) (hold : (uids oldOwners).Nodup) :
    (uids (mergeOwnerReferences newOwners oldOwners)).Nodup := by
  rw [uids_mergeOwnerReferences]
  refine List.Nodup.append hold (hnew.filter _) ?_
  intro uid hmem hmem'
  simp only [List.mem_filter, decide_eq_true_eq] at hmem'
  exact hmem'.2 hmem

theorem mem_uids_mergeOwnerReferences_iff
    {uid : String} : uid ∈ uids (mergeOwnerReferences newOwners oldOwners) ↔
      uid ∈ uids oldOwners ∨ uid ∈ uids newOwners := by
  rw [uids_mergeOwnerReferences, List.mem_append, List.mem_filter, decide_eq_true_eq]
  tauto

theorem mergeOwnerReferences_eq_self (h : uids newOwners ⊆ uids oldOwners) :
    mergeOwnerReferences newOwners oldOwners = oldOwners := by
  rw [mergeOwnerReferences_eq]
  have hnone : newOwners.filter (fun o => !ownerSliceContains oldOwners o) = [] := by
    rw [List.filter_eq_nil_iff]
    intro o ho
    have hcontains : ownerSliceContains oldOwners o :=
      ownerSliceContains_iff.mpr (h (List.mem_map_of_mem ho))
    simp [hcontains]
  rw [hnone, List.append_nil]

variable {Spec : Type}

/-- A DaemonSet or a Deployment. Its specification stands for everything but the annotations of the
pod template. -/
structure Workload (Spec : Type) where
  objectMeta : ObjectMeta
  podAnnotations : StringMap := ∅
  spec : Spec

def mergeMetadata (newMeta oldMeta : ObjectMeta) : ObjectMeta :=
  { newMeta with
    resourceVersion := oldMeta.resourceVersion
    labels := mergeMaps newMeta.labels oldMeta.labels
    annotations := mergeMaps newMeta.annotations oldMeta.annotations
    ownerReferences := mergeOwnerReferences newMeta.ownerReferences oldMeta.ownerReferences }

inductive WorkloadKind where
  | daemonSet
  | deployment
  deriving DecidableEq

abbrev WorkloadKey := WorkloadKind × ObjectKey

abbrev WorkloadReq (Spec : Type) := Req WorkloadKey (Workload Spec)

abbrev WorkloadResp (Spec : Type) : WorkloadReq Spec → Type :=
  Resp WorkloadKey (Workload Spec) ApiError

abbrev Managing (Spec α : Type) := ExceptT GoError (Prog (WorkloadReq Spec) (WorkloadResp Spec)) α

def request (r : WorkloadReq Spec) : Managing Spec (WorkloadResp Spec r) :=
  liftM (Prog.request r : Prog (WorkloadReq Spec) (WorkloadResp Spec) _)

def orFail {α : Type} : Except ApiError α → Managing Spec α
  | .error err => throw (.api err)
  | .ok a => pure a

/-- The desired object after the merge, which changes it in place. -/
def merged (desired existing : Workload Spec) : Workload Spec :=
  { desired with
    objectMeta := mergeMetadata desired.objectMeta existing.objectMeta
    podAnnotations := mergePodAnnotations desired.podAnnotations existing.podAnnotations }

def createOrUpdate (kind : WorkloadKind) (desired : Workload Spec) : Managing Spec Unit := do
  match ← request (.get (kind, desired.objectMeta.key)) with
  | .error err =>
    if err.isNotFound then orFail (← request (.create (kind, desired.objectMeta.key) desired))
    else throw (.api err)
  | .ok existing =>
    orFail (← request (.update (kind, desired.objectMeta.key) (merged desired existing)))

def createOrUpdateDeployment : Workload Spec → Managing Spec Unit := createOrUpdate .deployment

def createOrUpdateDaemonSet : Workload Spec → Managing Spec Unit := createOrUpdate .daemonSet

structure Metadata where
  labels : StringMap
  annotations : StringMap
  ownerReferences : List OwnerReference
  podAnnotations : StringMap

def Workload.metadata (w : Workload Spec) : Metadata :=
  ⟨w.objectMeta.labels, w.objectMeta.annotations, w.objectMeta.ownerReferences, w.podAnnotations⟩

def Metadata.merge (new old : Metadata) : Metadata where
  labels := mergeMaps new.labels old.labels
  annotations := mergeMaps new.annotations old.annotations
  ownerReferences := mergeOwnerReferences new.ownerReferences old.ownerReferences
  podAnnotations := mergePodAnnotations new.podAnnotations old.podAnnotations

structure IsUnion (desired existing written : Metadata) : Prop where
  labels : ∀ k, written.labels.lookup k = (desired.labels.lookup k).or (existing.labels.lookup k)
  annotations : ∀ k, written.annotations.lookup k =
    (desired.annotations.lookup k).or (existing.annotations.lookup k)
  existing_owners : existing.ownerReferences ⊆ written.ownerReferences
  owners : ∀ o ∈ written.ownerReferences, o ∈ existing.ownerReferences ∨ o ∈ desired.ownerReferences
  owners_once : (uids existing.ownerReferences).Nodup → ∀ uid,
    (uids written.ownerReferences).count uid =
      if uid ∈ uids existing.ownerReferences ∨ uid ∈ uids desired.ownerReferences then 1 else 0
  podAnnotations : ∀ k, written.podAnnotations.lookup k = (desired.podAnnotations.lookup k).or
    (if isPreserved k then existing.podAnnotations.lookup k else none)

theorem isUnion_merge {new : Metadata} (old : Metadata) (h : (uids new.ownerReferences).Nodup) :
    IsUnion new old (new.merge old) where
  labels := lookup_mergeMaps _ _
  annotations := lookup_mergeMaps _ _
  existing_owners := by
    intro o ho
    rw [Metadata.merge, mergeOwnerReferences_eq]
    exact List.mem_append_left _ ho
  owners := by
    intro o ho
    rw [Metadata.merge, mergeOwnerReferences_eq, List.mem_append] at ho
    rcases ho with ho | ho
    · exact Or.inl ho
    · exact Or.inr (List.mem_of_mem_filter ho)
  owners_once := by
    intro hold uid
    have hnodup := nodup_uids_mergeOwnerReferences h hold
    by_cases hmem : uid ∈ uids old.ownerReferences ∨ uid ∈ uids new.ownerReferences
    · rw [if_pos hmem]
      exact List.count_eq_one_of_mem hnodup (mem_uids_mergeOwnerReferences_iff.mpr hmem)
    · rw [if_neg hmem]
      exact List.count_eq_zero.mpr (mt mem_uids_mergeOwnerReferences_iff.mp hmem)
  podAnnotations := lookup_mergePodAnnotations _ _

/-- Every key of a map, with its value, is a key of the other one: merging changes nothing. -/
theorem mergeMaps_eq_self {newMap oldMap : StringMap}
    (h : ∀ k, newMap.lookup k = none ∨ newMap.lookup k = oldMap.lookup k) :
    mergeMaps newMap oldMap = oldMap := by
  refine Finmap.ext_lookup fun k => ?_
  rw [lookup_mergeMaps]
  rcases h k with hk | hk
  · rw [hk, Option.none_or]
  · rw [hk, Option.or_self]

theorem mergeMaps_merged (newMap oldMap : StringMap) :
    mergeMaps newMap (mergeMaps newMap oldMap) = mergeMaps newMap oldMap := by
  refine mergeMaps_eq_self fun k => ?_
  rw [lookup_mergeMaps]
  cases newMap.lookup k with
  | none => exact Or.inl rfl
  | some v => exact Or.inr (Option.some_or).symm

theorem mergePodAnnotations_merged (newMap oldMap : StringMap) :
    mergePodAnnotations newMap (mergePodAnnotations newMap oldMap) =
      mergePodAnnotations newMap oldMap := by
  refine Finmap.ext_lookup fun k => ?_
  rw [lookup_mergePodAnnotations, lookup_mergePodAnnotations]
  cases newMap.lookup k with
  | some v => rw [Option.some_or, Option.some_or]
  | none => split <;> simp

theorem mergePodAnnotations_self (m : StringMap) : mergePodAnnotations m m = m := by
  refine Finmap.ext_lookup fun k => ?_
  rw [lookup_mergePodAnnotations]
  split
  · exact Option.or_self
  · exact Option.or_none

theorem Metadata.merge_merge (new old : Metadata) : new.merge (new.merge old) = new.merge old := by
  have howners : mergeOwnerReferences new.ownerReferences
      (mergeOwnerReferences new.ownerReferences old.ownerReferences) =
      mergeOwnerReferences new.ownerReferences old.ownerReferences :=
    mergeOwnerReferences_eq_self fun uid huid =>
      mem_uids_mergeOwnerReferences_iff.mpr (Or.inr huid)
  simp only [Metadata.merge, mergeMaps_merged, mergePodAnnotations_merged, howners]

theorem Metadata.merge_self (m : Metadata) : m.merge m = m := by
  have hmaps : ∀ map : StringMap, mergeMaps map map = map :=
    fun map => mergeMaps_eq_self fun _ => Or.inr rfl
  simp only [Metadata.merge, hmaps, mergePodAnnotations_self,
    mergeOwnerReferences_eq_self (List.Subset.refl _)]

abbrev Cluster (Spec : Type) := Store WorkloadKey (Workload Spec)

/-- The API server stores the metadata that it is sent. The version and the defaults of the
specification are its own. -/
def Stores (sent stored : Workload Spec) : Prop := stored.metadata = sent.metadata

abbrev ServesApi :
    Cluster Spec → (r : WorkloadReq Spec) → WorkloadResp Spec r → Cluster Spec → Prop :=
  Serves Stores ApiError.notFound

variable {kind : WorkloadKind} {desired : Workload Spec} {s : Cluster Spec}

/-- What is stored after a success. -/
def Applied (kind : WorkloadKind) (desired : Workload Spec) (s t : Cluster Spec) : Prop :=
  ∃ stored, t.get (kind, desired.objectMeta.key) = some stored ∧
    ((s.get (kind, desired.objectMeta.key) = none ∧ stored.metadata = desired.metadata) ∨
      ∃ existing, s.get (kind, desired.objectMeta.key) = some existing ∧
        stored.metadata = desired.metadata.merge existing.metadata)

theorem ensures_applied : EnsuresE ServesApi (fun r t => r = .ok () → Applied kind desired s t)
    (createOrUpdate kind desired) s := by
  refine ensuresE_request_bind fun x s' hget => ?_
  cases x with
  | error err =>
    have hs : s' = s := by
      cases hget with
      | getMissing | getFails => rfl
    subst hs
    dsimp only
    split
    · refine ensuresE_request_bind fun y t hcreate => ?_
      cases y with
      | error err =>
        intro h
        cases h
      | ok u =>
        intro _
        cases hcreate with
        | create hnone hstores => exact ⟨_, Store.get_create_self, Or.inl ⟨hnone, hstores⟩⟩
    · intro h
      cases h
  | ok existing =>
    cases hget with
    | get hget =>
      refine ensuresE_request_bind fun y t hupdate => ?_
      cases y with
      | error err =>
        intro h
        cases h
      | ok u =>
        intro _
        cases hupdate with
        | update _ hstores => exact ⟨_, Store.get_put_self, Or.inr ⟨existing, hget, hstores⟩⟩

def Stored (kind : WorkloadKind) (key : ObjectKey) (m : Metadata) (s : Cluster Spec) : Prop :=
  ∃ stored, s.get (kind, key) = some stored ∧ stored.metadata = m

/-- An object that would not change the metadata does not, whatever the server answers. -/
theorem ensures_unchanged {m : Metadata} (hstored : Stored kind desired.objectMeta.key m s)
    (hmerge : desired.metadata.merge m = m) :
    EnsuresE ServesApi (fun _ t => Stored kind desired.objectMeta.key m t)
      (createOrUpdate kind desired) s := by
  obtain ⟨stored, hget, rfl⟩ := hstored
  refine ensuresE_request_bind fun x s' hserve => ?_
  cases hserve with
  | getMissing hnone => rw [hget] at hnone; cases hnone
  | @getFails _ err herr =>
    have hfound : err.isNotFound = false := by
      cases err with
      | notFound => exact absurd rfl herr
      | _ => rfl
    simp only [hfound, Bool.false_eq_true, if_false]
    exact ⟨stored, hget, rfl⟩
  | @get _ existing hexisting =>
    rw [hget] at hexisting
    cases hexisting
    refine ensuresE_request_bind fun y t hupdate => ?_
    have hput : ∀ stored', Stores (merged desired stored) stored' →
        Stored kind desired.objectMeta.key stored.metadata
          (s.put (kind, desired.objectMeta.key) stored') := by
      intro stored' hstores
      exact ⟨stored', Store.get_put_self, hstores.trans hmerge⟩
    cases hupdate with
    | update _ hstores => exact hput _ hstores
    | updateFails h =>
      rcases h with rfl | ⟨stored', -, hstores, rfl⟩
      · exact ⟨stored, hget, rfl⟩
      · exact hput _ hstores

/-- Applying a desired object writes the union of its metadata and that of the existing object, and
applying it again, as it was or as the first call has left it, leaves the stored metadata
unchanged. -/
theorem createOrUpdate_metadata (kind : WorkloadKind) (desired : Workload Spec)
    (h : (uids desired.metadata.ownerReferences).Nodup) :
    (∀ log r existing rest, ExecE (createOrUpdate kind desired) log r →
      log = ⟨.get (kind, desired.objectMeta.key), .ok existing⟩ :: rest →
      ∃ written answer, rest = [⟨.update (kind, desired.objectMeta.key) written, answer⟩] ∧
        written.objectMeta.resourceVersion = existing.objectMeta.resourceVersion ∧
        IsUnion desired.metadata existing.metadata written.metadata) ∧
    ∀ s t : Cluster Spec, ServedE ServesApi (createOrUpdate kind desired) s (.ok ()) t →
      ∃ m, Stored kind desired.objectMeta.key m t ∧
        (∀ existing, s.get (kind, desired.objectMeta.key) = some existing →
          IsUnion desired.metadata existing.metadata m) ∧
        ∀ again : Workload Spec, again.objectMeta.key = desired.objectMeta.key →
          again.metadata = desired.metadata ∨ again.metadata = m →
          ∀ r u, ServedE ServesApi (createOrUpdate kind again) t r u →
            Stored kind desired.objectMeta.key m u := by
  constructor
  · intro log r existing rest hexec hlog
    obtain ⟨x, rest', hlog', hexec'⟩ := execE_request_bind_iff.mp hexec
    rw [hlog'] at hlog
    cases hlog
    obtain ⟨answer, rest', rfl, hlast⟩ := execE_request_bind_iff.mp hexec'
    refine ⟨_, answer, ?_, rfl, isUnion_merge _ h⟩
    cases answer with
    | error err => rw [(execE_throw_iff.mp hlast).1]
    | ok u => rw [(execE_pure_iff.mp hlast).1]
  · intro s t hserved
    obtain ⟨stored, hget, hstored⟩ := ensures_applied.served hserved rfl
    refine ⟨stored.metadata, ⟨stored, hget, rfl⟩, ?_, ?_⟩
    · intro existing hexisting
      rcases hstored with ⟨hnone, -⟩ | ⟨existing', hexisting', hmerge⟩
      · rw [hexisting] at hnone
        cases hnone
      · rw [hexisting] at hexisting'
        cases hexisting'
        rw [hmerge]
        exact isUnion_merge _ h
    · intro again hkey hagain r u hserved'
      have hsame : again.metadata.merge stored.metadata = stored.metadata := by
        rcases hagain with hagain | hagain
        · rw [hagain]
          rcases hstored with ⟨-, hcreated⟩ | ⟨existing, -, hmerge⟩
          · rw [hcreated, Metadata.merge_self]
          · rw [hmerge, Metadata.merge_merge]
        · rw [hagain, Metadata.merge_self]
      rw [← hkey] at hget ⊢
      exact (ensures_unchanged ⟨stored, hget, rfl⟩ hsame).served hserved'

def agentKey : ObjectKey := ⟨"kyma-system", "telemetry-metric-agent"⟩

def agent : Workload Unit where
  objectMeta :=
    { key := agentKey
      labels := Finmap.singleton "app.kubernetes.io/name" "telemetry-metric-agent"
      ownerReferences := [⟨"v1beta1", "MetricPipeline", "backend", "b2"⟩] }
  podAnnotations := Finmap.singleton "checksum/config" "2f"
  spec := ()

/-- The agent of another pipeline, which has been restarted by hand. -/
def existingAgent : Workload Unit where
  objectMeta :=
    { key := agentKey
      resourceVersion := "7"
      labels := Finmap.singleton "team" "a"
      ownerReferences := [⟨"v1beta1", "MetricPipeline", "audit", "a1"⟩] }
  podAnnotations := Finmap.singleton "kubectl.kubernetes.io/restartedAt" "monday"
  spec := ()

def agentCluster : Cluster Unit := Store.create ⟨∅, []⟩ (.daemonSet, agentKey) existingAgent

def applyAgent (s : Cluster Unit) : Except GoError Unit × Cluster Unit :=
  runWith (fun s => s.answer ApiError.notFound ApiError.alreadyExists)
    (createOrUpdateDaemonSet agent).run s

theorem served_applyAgent (s : Cluster Unit) :
    ServedE ServesApi (createOrUpdate .daemonSet agent) s (applyAgent s).1 (applyAgent s).2 := by
  have hstores : ∀ w : Workload Unit, Stores w w := fun _ => rfl
  exact served_runWith (serves_answer hstores ApiError.notFound ApiError.alreadyExists) _ s

theorem agent_applied_twice :
    (uids agent.metadata.ownerReferences).Nodup ∧ (applyAgent agentCluster).1 = .ok () ∧
      ∃ m, Stored .daemonSet agentKey m (applyAgent agentCluster).2 ∧
        IsUnion agent.metadata existingAgent.metadata m ∧
        Stored .daemonSet agentKey m (applyAgent (applyAgent agentCluster).2).2 := by
  have hnodup : (uids agent.metadata.ownerReferences).Nodup := by decide
  have hok : (applyAgent agentCluster).1 = .ok () := rfl
  have hserved := served_applyAgent agentCluster
  rw [hok] at hserved
  obtain ⟨m, hstored, hunion, hagain⟩ :=
    (createOrUpdate_metadata .daemonSet agent hnodup).2 _ _ hserved
  refine ⟨hnodup, hok, m, hstored, hunion existingAgent rfl, ?_⟩
  exact hagain agent rfl (Or.inl rfl) _ _ (served_applyAgent _)

end TelemetryManager.Workloads
