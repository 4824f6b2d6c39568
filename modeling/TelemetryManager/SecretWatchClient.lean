import Mathlib.Data.Finmap
import TelemetryManager.GoErrors
import TelemetryManager.Library.KeyedLoop
import TelemetryManager.SecretWatch

/-! The client that keeps one watcher per Secret. Pipelines are linked to the watchers of the
Secrets they refer to. A watcher is started with its first pipeline and removed with its last one,
and two metrics count the watchers and their links. -/
namespace TelemetryManager.SecretWatchClient

open KeyedLoop SecretWatch

/-! ## The client -/

abbrev GaugeVec (Labels : Type) := Labels → Int

namespace GaugeVec

variable {Labels : Type} [DecidableEq Labels]

def inc (g : GaugeVec Labels) (labels : Labels) : GaugeVec Labels :=
  Function.update g labels (g labels + 1)

def dec (g : GaugeVec Labels) (labels : Labels) : GaugeVec Labels :=
  Function.update g labels (g labels - 1)

def set (g : GaugeVec Labels) (labels : Labels) (value : Int) : GaugeVec Labels :=
  Function.update g labels value

end GaugeVec

structure Watcher where
  linked : List LinkedPipeline
  running : Bool

structure Client where
  watchers : Finmap fun _ : ObjectKey => Watcher
  stopped : Bool
  watchersActive : GaugeVec ObjectKey
  watchersLinkedPipelines : GaugeVec (ObjectKey × PipelineKind)

def newClient : Client where
  watchers := ∅
  stopped := false
  watchersActive := fun _ => 0
  watchersLinkedPipelines := fun _ => 0

def errClientStopped : GoError := .new "secret watcher client has been stopped"

def startWatcher (pipeline : LinkedPipeline) : Watcher := ⟨[pipeline], true⟩

def isLinked (linked : List LinkedPipeline) (pipeline : LinkedPipeline) : Bool :=
  linked.any fun p => samePipeline p pipeline

namespace Client

/-- One round of the first loop of `syncWatchers`. -/
def linkToWatcher (pipeline : LinkedPipeline) (c : Client) (secret : ObjectKey) : Client :=
  match c.watchers.lookup secret with
  | some w =>
    match link w.linked pipeline with
    | (true, linked) => { c with
        watchers := c.watchers.insert secret { w with linked := linked }
        watchersLinkedPipelines := c.watchersLinkedPipelines.inc (secret, pipeline.kind) }
    | (false, _) => c
  | none => { c with
      watchers := c.watchers.insert secret (startWatcher pipeline)
      watchersActive := c.watchersActive.inc secret
      watchersLinkedPipelines := c.watchersLinkedPipelines.inc (secret, pipeline.kind) }

/-- One round of `unlinkPipelineFromWatchers`. A watcher without pipelines is canceled and
removed. -/
def unlinkFromWatcher (pipeline : LinkedPipeline) (excludeSet : Option (Finset ObjectKey))
    (c : Client) (watchedSecret : ObjectKey) : Client :=
  if excludeSet.any fun excluded => watchedSecret ∈ excluded then c
  else
    match c.watchers.lookup watchedSecret with
    | none => c
    | some w =>
      if isLinked w.linked pipeline then
        let (hasPipelines, linked) := unlink w.linked pipeline
        let gauge := c.watchersLinkedPipelines.dec (watchedSecret, pipeline.kind)
        if hasPipelines then { c with
          watchers := c.watchers.insert watchedSecret { w with linked := linked }
          watchersLinkedPipelines := gauge }
        else { c with
          watchers := c.watchers.erase watchedSecret
          watchersActive := c.watchersActive.set watchedSecret 0
          watchersLinkedPipelines := gauge }
      else c

/-- Remove the pipeline from the watchers of all Secrets that are not excluded. -/
def unlinkPipelineFromWatchers (watcherOrder : Iteration ObjectKey) (pipeline : LinkedPipeline)
    (excludeSet : Option (Finset ObjectKey)) (c : Client) : Client :=
  (watcherOrder.order c.watchers.keys).foldl (unlinkFromWatcher pipeline excludeSet) c

def syncWatchers (secretOrder watcherOrder : Iteration ObjectKey) (pipeline : LinkedPipeline)
    (secrets : List ObjectKey) (c : Client) : Except GoError Unit × Client :=
  if c.stopped then (.error errClientStopped, c)
  else
    let secretSet := secrets.toFinset
    let c := (secretOrder.order secretSet).foldl (linkToWatcher pipeline) c
    (.ok (), c.unlinkPipelineFromWatchers watcherOrder pipeline (some secretSet))

def removeFromWatchers (watcherOrder : Iteration ObjectKey) (pipeline : LinkedPipeline)
    (c : Client) :
    Except GoError Unit × Client :=
  if c.stopped then (.error errClientStopped, c)
  else (.ok (), c.unlinkPipelineFromWatchers watcherOrder pipeline none)

def cancelWatcher (c : Client) (secret : ObjectKey) : Client :=
  match c.watchers.lookup secret with
  | some w => { c with watchers := c.watchers.insert secret { w with running := false } }
  | none => c

/-- Cancel all watchers. They stay in the map. -/
def stop (watcherOrder : Iteration ObjectKey) (c : Client) : Client :=
  (watcherOrder.order c.watchers.keys).foldl cancelWatcher { c with stopped := true }

end Client

/-! ## The part of one Secret -/

@[ext] structure Part where
  watcher : Option Watcher
  active : Int
  linkedPipelines : PipelineKind → Int

namespace Part

def linked (x : Part) : List LinkedPipeline := (x.watcher.map (·.linked)).getD []

def link (pipeline : LinkedPipeline) (x : Part) : Part :=
  match x.watcher with
  | some w =>
    if isLinked w.linked pipeline then x
    else { x with
      watcher := some { w with linked := w.linked ++ [pipeline] }
      linkedPipelines := GaugeVec.inc x.linkedPipelines pipeline.kind }
  | none => ⟨some (startWatcher pipeline), x.active + 1,
      GaugeVec.inc x.linkedPipelines pipeline.kind⟩

def unlink (pipeline : LinkedPipeline) (x : Part) : Part :=
  match x.watcher with
  | none => x
  | some w =>
    if isLinked w.linked pipeline then
      let linked := w.linked.filter fun p => !samePipeline p pipeline
      if linked = [] then ⟨none, 0, GaugeVec.dec x.linkedPipelines pipeline.kind⟩
      else { x with
        watcher := some { w with linked := linked }
        linkedPipelines := GaugeVec.dec x.linkedPipelines pipeline.kind }
    else x

def cancel (x : Part) : Part :=
  { x with watcher := x.watcher.map fun w => { w with running := false } }

end Part

namespace Client

def part (c : Client) (secret : ObjectKey) : Part where
  watcher := c.watchers.lookup secret
  active := c.watchersActive secret
  linkedPipelines := fun kind => c.watchersLinkedPipelines (secret, kind)

theorem ext_part {c c' : Client} (hstopped : c.stopped = c'.stopped)
    (hpart : ∀ secret, c.part secret = c'.part secret) : c = c' := by
  obtain ⟨watchers, stopped, active, linkedPipelines⟩ := c
  obtain ⟨watchers', stopped', active', linkedPipelines'⟩ := c'
  have hwatchers : watchers = watchers' :=
    Finmap.ext_lookup fun secret => congrArg Part.watcher (hpart secret)
  have hactive : active = active' := funext fun secret => congrArg Part.active (hpart secret)
  have hlinked : linkedPipelines = linkedPipelines' :=
    funext fun labels => congrFun (congrArg Part.linkedPipelines (hpart labels.1)) labels.2
  subst hwatchers hactive hlinked
  rw [show stopped = stopped' from hstopped]

/-- An update of one gauge, seen from its Secret. -/
theorem update_part (g : GaugeVec (ObjectKey × PipelineKind)) (secret : ObjectKey)
    (kind : PipelineKind) (value : Int) :
    (fun kind' => Function.update g (secret, kind) value (secret, kind')) =
      Function.update (fun kind' => g (secret, kind')) kind value := by
  funext kind'
  simp [Function.update_apply]

theorem link_eq (linked : List LinkedPipeline) (pipeline : LinkedPipeline) :
    link linked pipeline = if isLinked linked pipeline then (false, linked)
      else (true, linked ++ [pipeline]) := rfl

theorem unlink_eq (linked : List LinkedPipeline) (pipeline : LinkedPipeline) :
    SecretWatch.unlink linked pipeline =
      (!decide ((linked.filter fun p => !samePipeline p pipeline) = []),
        linked.filter fun p => !samePipeline p pipeline) := by
  simp only [SecretWatch.unlink, List.length_pos_iff, ne_eq, decide_not]

theorem linkToWatcher_local (pipeline : LinkedPipeline) :
    Local part (linkToWatcher pipeline) fun _ => Part.link pipeline where
  own := by
    intro c secret
    cases hw : c.watchers.lookup secret with
    | none => simp [linkToWatcher, hw, part, Part.link, GaugeVec.inc, update_part]
    | some w =>
      by_cases hlinked : isLinked w.linked pipeline
      · simp [linkToWatcher, hw, part, Part.link, link_eq, hlinked]
      · simp [linkToWatcher, hw, part, Part.link, link_eq, hlinked, GaugeVec.inc, update_part]
  other := by
    intro c secret secret' hne
    cases hw : c.watchers.lookup secret with
    | none => simp [linkToWatcher, hw, part, GaugeVec.inc, hne]
    | some w =>
      by_cases hlinked : isLinked w.linked pipeline
      · simp [linkToWatcher, hw, part, link_eq, hlinked]
      · simp [linkToWatcher, hw, part, link_eq, hlinked, GaugeVec.inc, hne]

theorem unlinkFromWatcher_local (pipeline : LinkedPipeline)
    (excludeSet : Option (Finset ObjectKey)) :
    Local part (unlinkFromWatcher pipeline excludeSet) fun secret x =>
      if excludeSet.any fun excluded => secret ∈ excluded then x else x.unlink pipeline where
  own := by
    intro c secret
    unfold unlinkFromWatcher
    split
    · rfl
    · cases hw : c.watchers.lookup secret with
      | none => simp [part, Part.unlink, hw]
      | some w =>
        by_cases hlinked : isLinked w.linked pipeline
        · by_cases hempty : (w.linked.filter fun p => !samePipeline p pipeline) = []
          · simp [hw, part, Part.unlink, hlinked, unlink_eq, hempty, GaugeVec.dec, GaugeVec.set,
              update_part]
          · simp [hw, part, Part.unlink, hlinked, unlink_eq, hempty, GaugeVec.dec, update_part]
        · simp [hw, part, Part.unlink, hlinked]
  other := by
    intro c secret secret' hne
    unfold unlinkFromWatcher
    split
    · rfl
    · cases hw : c.watchers.lookup secret with
      | none => rfl
      | some w =>
        by_cases hlinked : isLinked w.linked pipeline
        · by_cases hempty : (w.linked.filter fun p => !samePipeline p pipeline) = []
          · simp [part, hlinked, unlink_eq, hempty, GaugeVec.dec, GaugeVec.set, hne]
          · simp [part, hlinked, unlink_eq, hempty, GaugeVec.dec, hne]
        · simp [hlinked]

theorem cancelWatcher_local : Local part cancelWatcher fun _ => Part.cancel where
  own := by
    intro c secret
    cases hw : c.watchers.lookup secret <;> simp [cancelWatcher, hw, part, Part.cancel]
  other := by
    intro c secret secret' hne
    cases hw : c.watchers.lookup secret <;> simp [cancelWatcher, hw, part, hne]

variable (secretOrder watcherOrder : Iteration ObjectKey) (pipeline : LinkedPipeline)
  (secrets : List ObjectKey) (c : Client) (secret : ObjectKey)

theorem part_unlinkPipelineFromWatchers (excludeSet : Option (Finset ObjectKey)) :
    (c.unlinkPipelineFromWatchers watcherOrder pipeline excludeSet).part secret =
      if excludeSet.any fun excluded => secret ∈ excluded then c.part secret
      else (c.part secret).unlink pipeline := by
  rw [unlinkPipelineFromWatchers, (unlinkFromWatcher_local pipeline excludeSet).iterate]
  by_cases hwatched : secret ∈ c.watchers.keys
  · rw [if_pos hwatched]
  · -- a Secret that is not watched is not visited, and there is nothing to unlink
    have hnone : c.watchers.lookup secret = none :=
      Finmap.lookup_eq_none.mpr (mt Finmap.mem_keys.mpr hwatched)
    rw [if_neg hwatched]
    simp [part, Part.unlink, hnone]

theorem part_syncWatchers (hrunning : c.stopped = false) :
    (c.syncWatchers secretOrder watcherOrder pipeline secrets).2.part secret =
      if secret ∈ secrets then (c.part secret).link pipeline
      else (c.part secret).unlink pipeline := by
  have hstopped : ¬ c.stopped := by simp [hrunning]
  rw [syncWatchers, if_neg hstopped]
  dsimp only
  rw [part_unlinkPipelineFromWatchers, (linkToWatcher_local pipeline).iterate]
  by_cases hmem : secret ∈ secrets <;> simp [hmem]

theorem part_removeFromWatchers (hrunning : c.stopped = false) :
    (c.removeFromWatchers watcherOrder pipeline).2.part secret =
      (c.part secret).unlink pipeline := by
  have hstopped : ¬ c.stopped := by simp [hrunning]
  rw [removeFromWatchers, if_neg hstopped, part_unlinkPipelineFromWatchers]
  simp

theorem part_stop : (c.stop watcherOrder).part secret = (c.part secret).cancel := by
  rw [stop, cancelWatcher_local.iterate]
  by_cases hwatched : secret ∈ c.watchers.keys
  · rw [if_pos hwatched]
    rfl
  · have hnone : c.watchers.lookup secret = none :=
      Finmap.lookup_eq_none.mpr (mt Finmap.mem_keys.mpr hwatched)
    rw [if_neg hwatched]
    simp [part, Part.cancel, hnone]

theorem stopped_linkToWatcher : (linkToWatcher pipeline c secret).stopped = c.stopped := by
  unfold linkToWatcher
  split
  · split <;> rfl
  · rfl

theorem stopped_unlinkFromWatcher (excludeSet : Option (Finset ObjectKey)) :
    (unlinkFromWatcher pipeline excludeSet c secret).stopped = c.stopped := by
  unfold unlinkFromWatcher
  split
  · rfl
  · split
    · rfl
    · split
      · dsimp only
        split <;> rfl
      · rfl

theorem stopped_cancelWatcher : (cancelWatcher c secret).stopped = c.stopped := by
  unfold cancelWatcher
  split <;> rfl

theorem stopped_syncWatchers :
    (c.syncWatchers secretOrder watcherOrder pipeline secrets).2.stopped = c.stopped := by
  unfold syncWatchers
  split
  · rfl
  · dsimp only
    rw [unlinkPipelineFromWatchers,
      foldl_unchanged (fun c secret => stopped_unlinkFromWatcher pipeline c secret _),
      foldl_unchanged (fun c secret => stopped_linkToWatcher pipeline c secret)]

theorem stopped_removeFromWatchers :
    (c.removeFromWatchers watcherOrder pipeline).2.stopped = c.stopped := by
  unfold removeFromWatchers
  split
  · rfl
  · exact foldl_unchanged (fun c secret => stopped_unlinkFromWatcher pipeline c secret _) _ _

theorem stopped_stop : (c.stop watcherOrder).stopped := by
  rw [stop, foldl_unchanged stopped_cancelWatcher]

end Client

/-! ## Exact links and gauges -/

theorem samePipeline_iff {a b : LinkedPipeline} : samePipeline a b ↔ a = b := by
  rw [samePipeline, Bool.and_eq_true, beq_iff_eq, beq_iff_eq]
  constructor
  · rintro ⟨hname, hkind⟩
    cases a
    cases b
    simp_all
  · rintro rfl
    exact ⟨rfl, rfl⟩

theorem isLinked_iff {linked : List LinkedPipeline} {pipeline : LinkedPipeline} :
    isLinked linked pipeline ↔ pipeline ∈ linked := by
  simp [isLinked, samePipeline_iff]

theorem filter_samePipeline (linked : List LinkedPipeline) (pipeline : LinkedPipeline) :
    (linked.filter fun p => !samePipeline p pipeline) = linked.filter (· ≠ pipeline) := by
  refine List.filter_congr fun p _ => ?_
  rw [Bool.eq_iff_iff]
  simp [← samePipeline_iff]

namespace Part

variable {pipeline : LinkedPipeline} {x : Part}

theorem linked_of_watcher {w : Watcher} (h : x.watcher = some w) : x.linked = w.linked := by
  simp [linked, h]

theorem link_of_mem (h : pipeline ∈ x.linked) : x.link pipeline = x := by
  cases hw : x.watcher with
  | none => simp [linked, hw] at h
  | some w =>
    rw [linked_of_watcher hw] at h
    simp [link, hw, isLinked_iff.mpr h]

theorem unlink_of_notMem (h : pipeline ∉ x.linked) : x.unlink pipeline = x := by
  cases hw : x.watcher with
  | none => simp [unlink, hw]
  | some w =>
    rw [linked_of_watcher hw] at h
    simp [unlink, hw, mt isLinked_iff.mp h]

theorem linked_link : (x.link pipeline).linked =
    if pipeline ∈ x.linked then x.linked else x.linked ++ [pipeline] := by
  by_cases h : pipeline ∈ x.linked
  · rw [link_of_mem h, if_pos h]
  · rw [if_neg h]
    cases hw : x.watcher with
    | none => simp [link, linked, hw, startWatcher]
    | some w =>
      rw [linked_of_watcher hw] at h ⊢
      simp [link, linked, hw, mt isLinked_iff.mp h]

theorem mem_link : pipeline ∈ (x.link pipeline).linked := by
  rw [linked_link]
  split
  · assumption
  · simp

theorem unlink_last (hmem : pipeline ∈ x.linked) (hlast : x.linked.filter (· ≠ pipeline) = []) :
    x.unlink pipeline = ⟨none, 0, GaugeVec.dec x.linkedPipelines pipeline.kind⟩ := by
  cases hw : x.watcher with
  | none => simp [linked, hw] at hmem
  | some w =>
    rw [linked_of_watcher hw] at hmem hlast
    simp only [unlink, hw, isLinked_iff.mpr hmem, filter_samePipeline, hlast, if_true]

theorem unlink_others (hmem : pipeline ∈ x.linked) (hothers : x.linked.filter (· ≠ pipeline) ≠ []) :
    ∃ w, x.watcher = some w ∧ x.unlink pipeline = { x with
      watcher := some { w with linked := x.linked.filter (· ≠ pipeline) }
      linkedPipelines := GaugeVec.dec x.linkedPipelines pipeline.kind } := by
  cases hw : x.watcher with
  | none => simp [linked, hw] at hmem
  | some w =>
    rw [linked_of_watcher hw] at hmem hothers
    refine ⟨w, rfl, ?_⟩
    rw [linked_of_watcher hw]
    simp only [unlink, hw, isLinked_iff.mpr hmem, filter_samePipeline, hothers, if_true, if_false]

theorem linked_unlink : (x.unlink pipeline).linked = x.linked.filter (· ≠ pipeline) := by
  by_cases hmem : pipeline ∈ x.linked
  · by_cases hlast : x.linked.filter (· ≠ pipeline) = []
    · rw [unlink_last hmem hlast, hlast]
      rfl
    · obtain ⟨w, -, hunlink⟩ := unlink_others hmem hlast
      rw [hunlink]
      rfl
  · rw [unlink_of_notMem hmem, List.filter_eq_self.mpr]
    intro p hp
    rw [decide_eq_true_eq]
    rintro rfl
    exact hmem hp

structure Exact (x : Part) : Prop where
  linked_ne_nil : ∀ w, x.watcher = some w → w.linked ≠ []
  nodup : x.linked.Nodup
  active : x.active = if x.watcher.isSome then 1 else 0
  linkedPipelines : ∀ kind, x.linkedPipelines kind = x.linked.countP (·.kind = kind)

theorem linkedPipelines_link (h : pipeline ∉ x.linked) :
    (x.link pipeline).linkedPipelines = GaugeVec.inc x.linkedPipelines pipeline.kind := by
  cases hw : x.watcher with
  | none => simp [link, hw]
  | some w =>
    rw [linked_of_watcher hw] at h
    simp [link, hw, mt isLinked_iff.mp h]

theorem Exact.link (h : x.Exact) (pipeline : LinkedPipeline) : (x.link pipeline).Exact := by
  by_cases hmem : pipeline ∈ x.linked
  · rwa [link_of_mem hmem]
  have hlinked : (x.link pipeline).linked = x.linked ++ [pipeline] := by
    rw [linked_link, if_neg hmem]
  refine ⟨fun w hw => ?_, ?_, ?_, fun kind => ?_⟩
  · rw [← linked_of_watcher hw, hlinked]
    simp
  · rw [hlinked]
    exact h.nodup.append (List.nodup_singleton _) (by simpa using hmem)
  · have hactive := h.active
    cases hw : x.watcher with
    | none =>
      rw [hw] at hactive
      simp [Part.link, hw, hactive]
    | some w =>
      rw [hw] at hactive
      rw [linked_of_watcher hw] at hmem
      simp [Part.link, hw, mt isLinked_iff.mp hmem, hactive]
  · rw [linkedPipelines_link hmem, hlinked, List.countP_append, GaugeVec.inc,
      Function.update_apply, h.linkedPipelines, h.linkedPipelines]
    by_cases hkind : kind = pipeline.kind
    · simp [hkind]
    · simp [hkind, Ne.symm hkind]

theorem Exact.unlink (h : x.Exact) (pipeline : LinkedPipeline) : (x.unlink pipeline).Exact := by
  by_cases hmem : pipeline ∈ x.linked
  swap
  · rwa [unlink_of_notMem hmem]
  -- the gauge falls by the one link that is removed
  have hgauge : ∀ kind, GaugeVec.dec x.linkedPipelines pipeline.kind kind =
      (x.linked.filter (· ≠ pipeline)).countP (·.kind = kind) := by
    intro kind
    have hperm : x.linked.Perm (pipeline :: x.linked.filter (· ≠ pipeline)) := by
      have herase := List.perm_cons_erase hmem
      rwa [h.nodup.erase_eq_filter, show (fun p => p != pipeline) = fun p => decide (p ≠ pipeline)
        from funext fun p => by simp [bne, beq_eq_decide]] at herase
    rw [GaugeVec.dec, Function.update_apply, h.linkedPipelines, h.linkedPipelines, hperm.countP_eq,
      hperm.countP_eq, List.countP_cons, List.countP_cons]
    by_cases hkind : kind = pipeline.kind
    · simp [hkind]
    · simp [hkind, Ne.symm hkind]
  by_cases hlast : x.linked.filter (· ≠ pipeline) = []
  · rw [unlink_last hmem hlast]
    refine ⟨nofun, List.nodup_nil, rfl, fun kind => ?_⟩
    refine (hgauge kind).trans ?_
    rw [hlast]
    rfl
  · obtain ⟨w, hw, hunlink⟩ := unlink_others hmem hlast
    have hactive := h.active
    rw [hw] at hactive
    rw [hunlink]
    refine ⟨fun w' hw' => ?_, h.nodup.filter _, hactive, hgauge⟩
    cases hw'
    exact hlast

theorem Exact.cancel (h : x.Exact) : x.cancel.Exact := by
  have hlinked : x.cancel.linked = x.linked := by
    cases hw : x.watcher <;> simp [Part.cancel, linked, hw]
  refine ⟨fun w hw => ?_, hlinked ▸ h.nodup, ?_, fun kind => ?_⟩
  · obtain ⟨w', hw', rfl⟩ := Option.map_eq_some_iff.mp hw
    exact h.linked_ne_nil w' hw'
  · have hactive := h.active
    simpa [Part.cancel] using hactive
  · rw [hlinked]
    exact h.linkedPipelines kind

def Running (running : Bool) (x : Part) : Prop := ∀ w, x.watcher = some w → w.running = running

theorem Running.link (h : x.Running true) (pipeline : LinkedPipeline) :
    (x.link pipeline).Running true := by
  intro w hw
  unfold Part.link at hw
  split at hw
  · rename_i w' hw'
    split at hw
    · exact h w hw
    · cases hw
      exact h w' hw'
  · cases hw
    rfl

theorem Running.unlink {running : Bool} (h : x.Running running) (pipeline : LinkedPipeline) :
    (x.unlink pipeline).Running running := by
  by_cases hmem : pipeline ∈ x.linked
  · by_cases hlast : x.linked.filter (· ≠ pipeline) = []
    · rw [unlink_last hmem hlast]
      exact nofun
    · obtain ⟨w, hw, hunlink⟩ := unlink_others hmem hlast
      rw [hunlink]
      intro w' hw'
      cases hw'
      exact h w hw
  · rwa [unlink_of_notMem hmem]

theorem running_cancel (x : Part) : x.cancel.Running false := by
  intro w hw
  obtain ⟨w', -, rfl⟩ := Option.map_eq_some_iff.mp hw
  rfl

theorem Running.cancel_eq (h : x.Running false) : x.cancel = x := by
  cases hw : x.watcher with
  | none => simp [Part.cancel, hw, Part.ext_iff]
  | some w =>
    have hrunning : { w with running := false } = w := by rw [← h w hw]
    simp [Part.cancel, hw, hrunning, Part.ext_iff]

theorem exact_newClient (secret : ObjectKey) : (newClient.part secret).Exact where
  linked_ne_nil := nofun
  nodup := List.nodup_nil
  active := rfl
  linkedPipelines := fun _ => rfl

end Part

/-! ## Histories of calls -/

inductive Call where
  | syncWatchers (pipeline : LinkedPipeline) (secrets : List ObjectKey)
  | removeFromWatchers (pipeline : LinkedPipeline)
  | stop

structure Execution where
  call : Call
  secretOrder : Iteration ObjectKey
  watcherOrder : Iteration ObjectKey

def Execution.run (e : Execution) (c : Client) : Except GoError Unit × Client :=
  match e.call with
  | .syncWatchers pipeline secrets => c.syncWatchers e.secretOrder e.watcherOrder pipeline secrets
  | .removeFromWatchers pipeline => c.removeFromWatchers e.watcherOrder pipeline
  | .stop => (.ok (), c.stop e.watcherOrder)

/-- The calls are made one after the other: each one holds the lock of the client. -/
def calls : Machine Client Execution where
  Enabled := fun _ _ => True
  next := fun c e => (e.run c).2

abbrev Reaches (trace : List Execution) (c : Client) : Prop :=
  calls.Run (fun _ _ => True) newClient trace c

namespace Client

def linked (c : Client) (secret : ObjectKey) : List LinkedPipeline :=
  ((c.watchers.lookup secret).map (·.linked)).getD []

/-- Every watcher has a pipeline, no pipeline is linked twice, and the gauges show what is there. -/
structure Exact (c : Client) : Prop where
  linked_ne_nil : ∀ secret w, c.watchers.lookup secret = some w → w.linked ≠ []
  nodup : ∀ secret w, c.watchers.lookup secret = some w → w.linked.Nodup
  linkedPipelines : ∀ secret kind, c.watchersLinkedPipelines (secret, kind) =
    (c.linked secret).countP (·.kind = kind)
  active : ∀ secret, c.watchersActive secret = if secret ∈ c.watchers then 1 else 0

structure Synchronized (pipeline : LinkedPipeline) (secrets : List ObjectKey) (c c' : Client) :
    Prop where
  linked_iff : ∀ secret, pipeline ∈ c'.linked secret ↔ secret ∈ secrets
  others : ∀ secret, (c'.linked secret).filter (· ≠ pipeline) =
    (c.linked secret).filter (· ≠ pipeline)

theorem exact_of_parts {c : Client} (h : ∀ secret, (c.part secret).Exact) : c.Exact where
  linked_ne_nil := fun secret => (h secret).linked_ne_nil
  nodup := by
    intro secret w hw
    rw [← (c.part secret).linked_of_watcher hw]
    exact (h secret).nodup
  linkedPipelines := fun secret => (h secret).linkedPipelines
  active := by
    intro secret
    refine (h secret).active.trans ?_
    cases hw : c.watchers.lookup secret with
    | none => simp [part, hw, Finmap.lookup_eq_none.mp hw]
    | some w =>
      have hmem : secret ∈ c.watchers := Finmap.mem_iff.mpr ⟨w, hw⟩
      simp [part, hw, hmem]

variable {c : Client} (pipeline : LinkedPipeline) (secrets : List ObjectKey)
  (secretOrder watcherOrder : Iteration ObjectKey)

theorem filter_linked_link (x : Part) : (x.link pipeline).linked.filter (· ≠ pipeline) =
    x.linked.filter (· ≠ pipeline) := by
  rw [Part.linked_link]
  split <;> simp

theorem notMem_linked_unlink (x : Part) : pipeline ∉ (x.unlink pipeline).linked := by
  simp [Part.linked_unlink]

theorem synchronized_of_parts {c' : Client} (h : ∀ secret, c'.part secret =
      if secret ∈ secrets then (c.part secret).link pipeline
      else (c.part secret).unlink pipeline) : Synchronized pipeline secrets c c' := by
  have hlinked : ∀ secret, c'.linked secret =
    (if secret ∈ secrets then (c.part secret).link pipeline
      else (c.part secret).unlink pipeline).linked :=
    fun secret => congrArg Part.linked (h secret)
  refine ⟨fun secret => ?_, fun secret => ?_⟩
  · rw [hlinked]
    by_cases hmem : secret ∈ secrets
    · simp [hmem, Part.mem_link]
    · simp [hmem, notMem_linked_unlink]
  · rw [hlinked]
    by_cases hmem : secret ∈ secrets
    · rw [if_pos hmem, filter_linked_link]
      rfl
    · rw [if_neg hmem, Part.linked_unlink, List.filter_filter]
      simp only [Bool.and_self]
      rfl

theorem syncWatchers_ok_iff :
    (c.syncWatchers secretOrder watcherOrder pipeline secrets).1 = .ok () ↔ c.stopped = false := by
  cases hstopped : c.stopped <;> simp [syncWatchers, hstopped]

theorem removeFromWatchers_ok_iff :
    (c.removeFromWatchers watcherOrder pipeline).1 = .ok () ↔ c.stopped = false := by
  cases hstopped : c.stopped <;> simp [removeFromWatchers, hstopped]

/-- Repeating a synchronization, in any order, changes nothing. -/
theorem syncWatchers_syncWatchers (hrunning : c.stopped = false)
    (secretOrder' watcherOrder' : Iteration ObjectKey) :
    let c' := (c.syncWatchers secretOrder watcherOrder pipeline secrets).2
    c'.syncWatchers secretOrder' watcherOrder' pipeline secrets = (.ok (), c') := by
  intro c'
  have hstopped : c'.stopped = false := by
    rw [← hrunning]
    exact stopped_syncWatchers secretOrder watcherOrder pipeline secrets c
  refine Prod.ext ((syncWatchers_ok_iff pipeline secrets _ _).mpr hstopped) (ext_part ?_ ?_)
  · exact stopped_syncWatchers secretOrder' watcherOrder' pipeline secrets c'
  · intro secret
    rw [part_syncWatchers secretOrder' watcherOrder' pipeline secrets c' secret hstopped,
      part_syncWatchers secretOrder watcherOrder pipeline secrets c secret hrunning]
    split
    · exact Part.link_of_mem Part.mem_link
    · exact Part.unlink_of_notMem (notMem_linked_unlink pipeline _)

end Client

/-! ## Runs -/

structure Invariant (trace : List Execution) (c : Client) : Prop where
  exactParts : ∀ secret, (c.part secret).Exact
  running : ∀ secret, (c.part secret).Running (!c.stopped)
  stopped_iff : c.stopped ↔ ∃ e ∈ trace, e.call = .stop

theorem invariant_newClient : Invariant [] newClient where
  exactParts := Part.exact_newClient
  running := nofun
  stopped_iff := by simp [newClient]

section Step

variable {trace : List Execution} {c : Client}

/-- A call that changes the parts one by one and does not stop the client keeps the invariant. -/
theorem Invariant.of_parts (h : Invariant trace c) {e : Execution} {c' : Client}
    (hcall : e.call ≠ .stop) (hstopped : c'.stopped = c.stopped) (hrunning : c.stopped = false)
    (hparts : ∀ secret, (∃ p, c'.part secret = (c.part secret).link p) ∨
      ∃ p, c'.part secret = (c.part secret).unlink p) : Invariant (e :: trace) c' where
  exactParts := by
    intro secret
    rcases hparts secret with ⟨p, hpart⟩ | ⟨p, hpart⟩
    · rw [hpart]
      exact (h.exactParts secret).link p
    · rw [hpart]
      exact (h.exactParts secret).unlink p
  running := by
    intro secret
    have hbefore := h.running secret
    rw [hrunning] at hbefore
    rw [hstopped, hrunning]
    rcases hparts secret with ⟨p, hpart⟩ | ⟨p, hpart⟩
    · rw [hpart]
      exact hbefore.link p
    · rw [hpart]
      exact hbefore.unlink p
  stopped_iff := by
    rw [hstopped, h.stopped_iff]
    simp [hcall]

theorem Invariant.of_stopped (h : Invariant trace c) (e : Execution) (hstopped : c.stopped) :
    Invariant (e :: trace) c := by
  obtain ⟨e', he', hcall⟩ := h.stopped_iff.mp hstopped
  exact { h with
    stopped_iff := ⟨fun _ => ⟨e', List.mem_cons_of_mem e he', hcall⟩, fun _ => hstopped⟩ }

/-- A stopped client refuses all calls; stopping it again has no effect. -/
theorem Invariant.refuses (h : Invariant trace c) (hstopped : c.stopped) (e : Execution) :
    (e.run c).2 = c ∧ (e.call ≠ .stop → (e.run c).1 = .error errClientStopped) := by
  unfold Execution.run
  cases hcall : e.call with
  | syncWatchers pipeline secrets => simp [Client.syncWatchers, hstopped]
  | removeFromWatchers pipeline => simp [Client.removeFromWatchers, hstopped]
  | stop =>
    refine ⟨Client.ext_part ?_ fun secret => ?_, nofun⟩
    · rw [Client.stopped_stop, hstopped]
    · have hrunning := h.running secret
      rw [hstopped] at hrunning
      rw [Client.part_stop]
      exact hrunning.cancel_eq

theorem Invariant.next (h : Invariant trace c) (e : Execution) :
    Invariant (e :: trace) (e.run c).2 := by
  by_cases hstopped : c.stopped
  · rw [(h.refuses hstopped e).1]
    exact h.of_stopped e hstopped
  rw [Bool.not_eq_true] at hstopped
  cases hcall : e.call with
  | syncWatchers pipeline secrets =>
    refine h.of_parts (by simp [hcall]) ?_ hstopped fun secret => ?_
    · simp only [Execution.run, hcall, Client.stopped_syncWatchers]
    · simp only [Execution.run, hcall, Client.part_syncWatchers _ _ _ _ _ _ hstopped]
      by_cases hmem : secret ∈ secrets
      · exact .inl ⟨pipeline, by rw [if_pos hmem]⟩
      · exact .inr ⟨pipeline, by rw [if_neg hmem]⟩
  | removeFromWatchers pipeline =>
    refine h.of_parts (by simp [hcall]) ?_ hstopped fun secret => .inr ⟨pipeline, ?_⟩
    · simp only [Execution.run, hcall, Client.stopped_removeFromWatchers]
    · simp only [Execution.run, hcall, Client.part_removeFromWatchers _ _ _ _ hstopped]
  | stop =>
    refine ⟨fun secret => ?_, fun secret => ?_, ?_⟩
    · simp only [Execution.run, hcall, Client.part_stop]
      exact (h.exactParts secret).cancel
    · simp only [Execution.run, hcall, Client.part_stop, Client.stopped_stop]
      exact (c.part secret).running_cancel
    · simp [Execution.run, hcall, Client.stopped_stop]

theorem invariant_of_reaches (h : Reaches trace c) : Invariant trace c :=
  h.invariant invariant_newClient fun _ _ e hinv _ _ => hinv.next e

end Step

structure Guarantees (trace : List Execution) (c : Client) : Prop where
  isExact : c.Exact
  synchronizes : ∀ (e : Execution) pipeline secrets, e.call = .syncWatchers pipeline secrets →
    (e.run c).1 = .ok () → c.Synchronized pipeline secrets (e.run c).2 ∧
      ∀ e' : Execution, e'.call = e.call → e'.run (e.run c).2 = (.ok (), (e.run c).2)
  removes : ∀ (e : Execution) pipeline, e.call = .removeFromWatchers pipeline →
    (e.run c).1 = .ok () →
    c.Synchronized pipeline [] (e.run c).2
  succeeds : (∀ e ∈ trace, e.call ≠ .stop) → ∀ e : Execution, (e.run c).1 = .ok ()
  stopped : (∃ e ∈ trace, e.call = .stop) → ∀ e : Execution, (e.run c).2 = c ∧
    (e.call ≠ .stop → (e.run c).1 = .error errClientStopped)

/-- After any calls, watchers, links and gauges are exact, and the next call does what it says. -/
theorem watch_client_exact (trace : List Execution) (c : Client) (hreach : Reaches trace c) :
    Guarantees trace c := by
  have hinv := invariant_of_reaches hreach
  refine ⟨Client.exact_of_parts hinv.exactParts, ?_, ?_, ?_, ?_⟩
  · intro e pipeline secrets hcall hok
    simp only [Execution.run, hcall] at hok ⊢
    have hrunning := (Client.syncWatchers_ok_iff pipeline secrets _ _).mp hok
    refine ⟨Client.synchronized_of_parts pipeline secrets fun secret =>
      Client.part_syncWatchers _ _ pipeline secrets c secret hrunning, fun e' hcall' => ?_⟩
    simp only [hcall']
    exact Client.syncWatchers_syncWatchers pipeline secrets _ _ hrunning _ _
  · intro e pipeline hcall hok
    simp only [Execution.run, hcall] at hok ⊢
    have hrunning := (Client.removeFromWatchers_ok_iff pipeline _).mp hok
    refine Client.synchronized_of_parts pipeline [] fun secret => ?_
    rw [Client.part_removeFromWatchers _ _ _ _ hrunning, if_neg (List.not_mem_nil)]
  · intro hnever e
    have hrunning : c.stopped = false := by
      rw [← Bool.not_eq_true, hinv.stopped_iff]
      rintro ⟨e', he', hcall⟩
      exact hnever e' he' hcall
    unfold Execution.run
    cases hcall : e.call with
    | syncWatchers pipeline secrets =>
      exact (Client.syncWatchers_ok_iff pipeline secrets _ _).mpr hrunning
    | removeFromWatchers pipeline =>
      exact (Client.removeFromWatchers_ok_iff pipeline _).mpr hrunning
    | stop => rfl
  · exact fun hstop e => hinv.refuses (hinv.stopped_iff.mpr hstop) e

noncomputable def someOrder : Iteration ObjectKey where
  order := Finset.toList
  nodup := Finset.nodup_toList
  mem_order := fun _ _ => Finset.mem_toList

noncomputable def executed (call : Call) : Execution := ⟨call, someOrder, someOrder⟩

def credentials : ObjectKey := ⟨"default", "credentials"⟩

/-- A TracePipeline and a LogPipeline refer to one Secret, and the client is stopped. The latest
call comes first. -/
noncomputable def sharedSecretTrace : List Execution :=
  [executed .stop, executed (.syncWatchers ⟨.logPipeline, "backend"⟩ [credentials]),
    executed (.syncWatchers ⟨.tracePipeline, "backend"⟩ [credentials, credentials])]

theorem shared_secret_exact :
    ∃ c, Reaches sharedSecretTrace c ∧ c.stopped ∧ Guarantees sharedSecretTrace c := by
  have hreach : Reaches sharedSecretTrace (calls.after newClient sharedSecretTrace) :=
    Machine.run_of_possible
      ⟨⟨⟨trivial, trivial, trivial⟩, trivial, trivial⟩, trivial, trivial⟩
  exact ⟨_, hreach, Client.stopped_stop _ _, watch_client_exact sharedSecretTrace _ hreach⟩

end TelemetryManager.SecretWatchClient
