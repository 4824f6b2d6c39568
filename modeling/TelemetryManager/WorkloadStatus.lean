import Mathlib.Data.Finmap
import Mathlib.Data.List.Forall2
import Mathlib.Data.Prod.Lex
import Mathlib.Data.String.Basic
import TelemetryManager.Library.KeySort
import TelemetryManager.TelemetryStatus

/-! The readiness probes for DaemonSets and Deployments.
A workload that is not ready has a rollout in progress, unless one of its pods has a problem. The
problems are searched for in loops that end at the first finding. -/
namespace TelemetryManager.WorkloadStatus

open TelemetryStatus (ConditionStatus)

/-! ## Pods -/

inductive PodPhase where
  | pending
  | running
  | succeeded
  | failed
  | unknown
  deriving DecidableEq

structure PodCondition where
  type : String
  status : ConditionStatus
  message : String

structure Waiting where
  reason : String
  message : String

structure ContainerStatus where
  name : String
  waiting : Option Waiting
  lastTerminated : Option String

open ContainerStatus

structure PodStatus where
  phase : PodPhase
  message : String
  conditions : List PodCondition
  containerStatuses : List ContainerStatus

inductive ProbeError where
  | noPodsDeployed
  | daemonSetNotFound
  | daemonSetFetching
  | deploymentNotFound
  | deploymentFetching
  | failedToGetLatestReplicaSet
  | failedToListReplicaSet (err : ApiError)
  | failedToFetchReplicaSet (err : ApiError)
  | podIsPending (containerName reason message : String)
  | podIsFailing (message : String)
  | rolloutInProgress
  | api (err : ApiError)
  deriving DecidableEq

def findPodCondition (conditions : List PodCondition) (type : String) : Option PodCondition :=
  conditions.find? fun c => c.type = type

/-- A pod can wait for these reasons for a long time without an error. -/
def Waiting.isStarting (w : Waiting) : Bool :=
  w.reason = "PodInitializing" || w.reason = "ContainerCreating"

/-- The first container that waits decides, also if it waits without an error. -/
def checkPendingContainers : List ContainerStatus → Option ProbeError
  | [] => none
  | c :: rest =>
    match c.waiting with
    | none => checkPendingContainers rest
    | some w => if w.isStarting then none else some (.podIsPending c.name w.reason w.message)

def checkPodPendingState (status : PodStatus) : Option ProbeError :=
  if status.phase ≠ .pending then none
  else
    match findPodCondition status.conditions "PodScheduled" with
    | some ⟨_, .conditionFalse, message⟩ => some (.podIsPending "" "" message)
    | _ => checkPendingContainers status.containerStatuses

def checkPodFailedState (status : PodStatus) : Option ProbeError :=
  if status.phase ≠ .failed then none else some (.podIsFailing status.message)

def checkPodsWaitingState (status : PodStatus) (c : ContainerStatus) : Option ProbeError :=
  match c.waiting with
  | none => none
  | some w =>
    if status.phase ≠ .running then none
    else some (.podIsPending c.name (c.lastTerminated.getD "") w.message)

def isRunningAndReady (status : PodStatus) : Bool :=
  status.phase = .running &&
    (findPodCondition status.conditions "Ready").any (·.status = .conditionTrue)

def checkPod (status : PodStatus) : Option ProbeError :=
  if isRunningAndReady status then none
  else checkPodPendingState status <|> checkPodFailedState status <|>
    status.containerStatuses.findSome? (checkPodsWaitingState status)

def checkPodStatus : Except ApiError (List PodStatus) → Except ProbeError Unit
  | .error err => .error (.api err)
  | .ok pods =>
    if pods = [] then .error .noPodsDeployed
    else
      match pods.findSome? checkPod with
      | some err => .error err
      | none => .ok ()

/-- What follows for a workload that is not ready. -/
def probePods (pods : Except ApiError (List PodStatus)) : Except ProbeError Unit :=
  match checkPodStatus pods with
  | .error err => .error err
  | .ok () => .error .rolloutInProgress

/-! ## DaemonSets -/

structure DaemonSet where
  updatedNumberScheduled : Int
  desiredNumberScheduled : Int
  numberReady : Int

def DaemonSet.isRolledOut (ds : DaemonSet) : Bool :=
  ds.updatedNumberScheduled = ds.desiredNumberScheduled &&
    ds.desiredNumberScheduled ≤ ds.numberReady

def daemonSetIsReady (get : Except ApiError DaemonSet) (pods : Except ApiError (List PodStatus)) :
    Except ProbeError Unit :=
  match get with
  | .error err => if err.isNotFound then .error .daemonSetNotFound else .error .daemonSetFetching
  | .ok ds => if ds.isRolledOut then .ok () else probePods pods

/-- The specification stands for everything in the template but the labels. -/
structure PodTemplate (Spec : Type) where
  labels : Finmap fun _ : String => String
  spec : Spec

structure OwnerReference where
  uid : String
  controller : Bool

structure Deployment (Spec : Type) where
  uid : String
  replicas : Int
  template : PodTemplate Spec

structure ReplicaSet (Spec : Type) where
  name : String
  creationTimestamp : Int
  ownerReferences : List OwnerReference
  template : PodTemplate Spec
  readyReplicas : Int

section Deployments

variable {Spec : Type} [DecidableEq Spec]

def isControlledBy (rs : ReplicaSet Spec) (d : Deployment Spec) : Bool :=
  (rs.ownerReferences.find? (·.controller)).any (·.uid = d.uid)

def defaultDeploymentUniqueLabelKey : String := "pod-template-hash"

def equalIgnoreHash (t1 t2 : PodTemplate Spec) : Bool :=
  t1.labels.erase defaultDeploymentUniqueLabelKey = t2.labels.erase defaultDeploymentUniqueLabelKey
    && t1.spec = t2.spec

def less (a b : ReplicaSet Spec) : Bool :=
  if a.creationTimestamp = b.creationTimestamp then a.name < b.name
  else a.creationTimestamp < b.creationTimestamp

def sortByCreationTimestamp (l : List (ReplicaSet Spec)) : List (ReplicaSet Spec) :=
  l.insertionSort fun a b => ¬ less b a

/-- The oldest ReplicaSet with the template of the Deployment. -/
def findNewReplicaSet (d : Deployment Spec) (l : List (ReplicaSet Spec)) :
    Option (ReplicaSet Spec) :=
  (sortByCreationTimestamp l).find? fun rs => equalIgnoreHash rs.template d.template

def getLatestReplicaSet (d : Deployment Spec) (all : List (ReplicaSet Spec)) :
    Option (ReplicaSet Spec) :=
  let owned := all.filter fun rs => isControlledBy rs d
  if owned = [] then none else findNewReplicaSet d owned

/-- The Deployment is read a second time after its ReplicaSets. -/
def deploymentIsReady (get : Except ApiError (Deployment Spec))
    (replicaSets : Except ApiError (List (ReplicaSet Spec)))
    (getAgain : Except ApiError (Deployment Spec)) (pods : Except ApiError (List PodStatus)) :
    Except ProbeError Unit :=
  match get with
  | .error err => if err.isNotFound then .error .deploymentNotFound else .error .deploymentFetching
  | .ok first =>
    match replicaSets with
    | .error err => .error (.failedToListReplicaSet err)
    | .ok all =>
      match getAgain with
      | .error err => .error (.failedToFetchReplicaSet err)
      | .ok d =>
        match getLatestReplicaSet d all with
        | none => .error .failedToGetLatestReplicaSet
        | some rs => if first.replicas ≤ rs.readyReplicas then .ok () else probePods pods

end Deployments

/-! ## What a probe reports -/

inductive Report where
  | ready
  | rolloutInProgress
  | podFailure
  | other (err : ProbeError)
  deriving DecidableEq

def report : Except ProbeError Unit → Report
  | .ok () => .ready
  | .error .rolloutInProgress => .rolloutInProgress
  | .error (.podIsPending _ _ _) => .podFailure
  | .error (.podIsFailing _) => .podFailure
  | .error err => .other err

def fails (p : PodStatus) : Bool := (checkPod p).isSome

def isUnscheduled (p : PodStatus) : Bool :=
  (findPodCondition p.conditions "PodScheduled").any (·.status = .conditionFalse)

section Report

variable {p p' : PodStatus} {pods : List PodStatus} {cs : List ContainerStatus} {err : ProbeError}

theorem report_checkPendingContainers (h : checkPendingContainers cs = some err) :
    report (.error err) = .podFailure := by
  induction cs with
  | nil => cases h
  | cons c rest ih =>
    rw [checkPendingContainers] at h
    cases hwaiting : c.waiting with
    | none =>
      rw [hwaiting] at h
      exact ih h
    | some w =>
      rw [hwaiting] at h
      dsimp only at h
      split at h
      · cases h
      · cases h
        rfl

theorem report_checkPodsWaitingState {c : ContainerStatus}
    (h : checkPodsWaitingState p c = some err) : report (.error err) = .podFailure := by
  unfold checkPodsWaitingState at h
  split at h
  · cases h
  · split at h
    · cases h
    · cases h
      rfl

theorem report_checkPodPendingState (h : checkPodPendingState p = some err) :
    report (.error err) = .podFailure := by
  unfold checkPodPendingState at h
  split at h
  · cases h
  · split at h
    · cases h
      rfl
    · exact report_checkPendingContainers h

theorem report_checkPodFailedState (h : checkPodFailedState p = some err) :
    report (.error err) = .podFailure := by
  unfold checkPodFailedState at h
  split at h
  · cases h
  · cases h
    rfl

theorem report_checkPod (h : checkPod p = some err) : report (.error err) = .podFailure := by
  unfold checkPod at h
  split at h
  · cases h
  · simp only [Option.orElse_eq_orElse, Option.orElse_eq_or, Option.or_eq_some_iff] at h
    rcases h with h | ⟨-, h | ⟨-, h⟩⟩
    · exact report_checkPodPendingState h
    · exact report_checkPodFailedState h
    · obtain ⟨c, -, hc⟩ := List.exists_of_findSome?_eq_some h
      exact report_checkPodsWaitingState hc

theorem report_probePods (pods : List PodStatus) : report (probePods (.ok pods)) =
    if pods = [] then .other .noPodsDeployed
    else if pods.any fails then .podFailure else .rolloutInProgress := by
  simp only [probePods, checkPodStatus]
  by_cases hnil : pods = []
  · rw [if_pos hnil, if_pos hnil]
    rfl
  · rw [if_neg hnil, if_neg hnil]
    cases hfind : pods.findSome? checkPod with
    | some err =>
      obtain ⟨p, hp, hcheck⟩ := List.exists_of_findSome?_eq_some hfind
      have hany : pods.any fails = true := List.any_eq_true.mpr ⟨p, hp, by simp [fails, hcheck]⟩
      rw [if_pos hany]
      exact report_checkPod hcheck
    | none =>
      have hany : pods.any fails = false := by
        rw [List.any_eq_false]
        intro p hp
        simp [fails, List.findSome?_eq_none_iff.mp hfind p hp]
      rw [hany]
      rfl

end Report

/-! ## The order of the containers -/

def ContainerStatus.isStarting (c : ContainerStatus) : Bool := c.waiting.any Waiting.isStarting

def ContainerStatus.isStuck (c : ContainerStatus) : Bool := c.waiting.any fun w => !w.isStarting

structure Mixed (p : PodStatus) : Prop where
  pending : p.phase = .pending
  scheduled : isUnscheduled p = false
  starting : ∃ c ∈ p.containerStatuses, c.isStarting
  stuck : ∃ c ∈ p.containerStatuses, c.isStuck

structure SameUpToContainers (p p' : PodStatus) : Prop where
  phase : p'.phase = p.phase
  message : p'.message = p.message
  conditions : p'.conditions = p.conditions
  containers : p'.containerStatuses.Perm p.containerStatuses

section Containers

variable {p p' : PodStatus} {cs cs' : List ContainerStatus} {c : ContainerStatus}

theorem isSome_checkPendingContainers_cons (rest : List ContainerStatus) :
    (checkPendingContainers (c :: rest)).isSome =
      (!c.isStarting && (c.isStuck || (checkPendingContainers rest).isSome)) := by
  unfold isStarting isStuck
  cases hwaiting : c.waiting with
  | none => simp [checkPendingContainers, hwaiting]
  | some w => cases hw : w.isStarting <;> simp [checkPendingContainers, hwaiting, hw]

theorem not_isStarting_of_isStuck (h : c.isStuck) : c.isStarting = false := by
  unfold isStuck at h
  unfold isStarting
  cases hwaiting : c.waiting <;> simp_all

/-- Without containers of both sorts those that are stuck decide. -/
theorem isSome_checkPendingContainers
    (h : (∀ c ∈ cs, c.isStuck = false) ∨ ∀ c ∈ cs, c.isStarting = false) :
    (checkPendingContainers cs).isSome = cs.any (·.isStuck) := by
  induction cs with
  | nil => rfl
  | cons c rest ih =>
    simp only [List.forall_mem_cons] at h
    rw [isSome_checkPendingContainers_cons, List.any_cons, ih (h.imp And.right And.right)]
    rcases h with ⟨hc, hrest⟩ | ⟨hc, -⟩
    · have hnone : rest.any (·.isStuck) = false := by simpa using hrest
      simp [hc, hnone]
    · simp [hc]

/-- Without containers of both sorts the order does not matter. -/
theorem isSome_checkPendingContainers_perm (hperm : cs'.Perm cs)
    (h : (∀ c ∈ cs, c.isStuck = false) ∨ ∀ c ∈ cs, c.isStarting = false) :
    (checkPendingContainers cs').isSome = (checkPendingContainers cs).isSome := by
  rw [isSome_checkPendingContainers h, isSome_checkPendingContainers (by simpa [hperm.mem_iff]),
    Bool.eq_iff_iff, List.any_eq_true, List.any_eq_true]
  simp only [hperm.mem_iff]

theorem isSome_checkPodPendingState : (checkPodPendingState p).isSome ↔
    p.phase = .pending ∧
      (isUnscheduled p ∨ (checkPendingContainers p.containerStatuses).isSome) := by
  unfold checkPodPendingState isUnscheduled
  by_cases hphase : p.phase = .pending
  · rw [if_neg (not_not.mpr hphase)]
    cases findPodCondition p.conditions "PodScheduled" with
    | none => simp [hphase]
    | some condition =>
      obtain ⟨type, status, message⟩ := condition
      cases status <;> simp [hphase]
  · simp [hphase]

theorem fails_iff : fails p ↔ isRunningAndReady p = false ∧
    ((p.phase = .pending ∧
        (isUnscheduled p ∨ (checkPendingContainers p.containerStatuses).isSome)) ∨
      p.phase = .failed ∨
      (p.phase = .running ∧ ∃ c ∈ p.containerStatuses, c.waiting ≠ none)) := by
  have hwaiting : (p.containerStatuses.findSome? (checkPodsWaitingState p)).isSome ↔
      p.phase = .running ∧ ∃ c ∈ p.containerStatuses, c.waiting ≠ none := by
    rw [List.findSome?_isSome_iff]
    constructor
    · rintro ⟨c, hc, hsome⟩
      unfold checkPodsWaitingState at hsome
      cases hw : c.waiting with
      | none => simp [hw] at hsome
      | some w =>
        rw [hw] at hsome
        by_cases hphase : p.phase = .running
        · exact ⟨hphase, c, hc, by simp [hw]⟩
        · simp [hphase] at hsome
    · rintro ⟨hphase, c, hc, hw⟩
      obtain ⟨w, hw⟩ := Option.ne_none_iff_exists'.mp hw
      exact ⟨c, hc, by simp [checkPodsWaitingState, hw, hphase]⟩
  have hfailed : (checkPodFailedState p).isSome ↔ p.phase = .failed := by
    unfold checkPodFailedState
    by_cases hphase : p.phase = .failed <;> simp [hphase]
  unfold fails checkPod
  cases isRunningAndReady p with
  | true => simp
  | false =>
    rw [← isSome_checkPodPendingState, ← hfailed, ← hwaiting]
    simp [Option.isSome_or]

theorem fails_eq_of_not_mixed (h : SameUpToContainers p p') (hmixed : ¬ Mixed p) :
    fails p' = fails p := by
  have hready : isRunningAndReady p' = isRunningAndReady p := by
    simp only [isRunningAndReady, h.phase, h.conditions]
  have hunscheduled : isUnscheduled p' = isUnscheduled p := by
    simp only [isUnscheduled, h.conditions]
  rw [Bool.eq_iff_iff, fails_iff, fails_iff, hready, h.phase, hunscheduled]
  simp only [h.containers.mem_iff]
  refine and_congr_right fun _ => or_congr_left (and_congr_right fun hpending => ?_)
  by_cases hsched : isUnscheduled p
  · simp [hsched]
  refine or_congr_right ?_
  rw [isSome_checkPendingContainers_perm h.containers]
  by_cases hstuck : ∃ c ∈ p.containerStatuses, c.isStuck
  · refine .inr fun c hc => ?_
    by_contra hstarting
    exact hmixed ⟨hpending, by simpa using hsched, ⟨c, hc, by simpa using hstarting⟩, hstuck⟩
  · refine .inl fun c hc => ?_
    by_contra hc'
    exact hstuck ⟨c, hc, by simpa using hc'⟩

/-- The pod with the containers of one sort in front. -/
def inFront (q : ContainerStatus → Bool) (p : PodStatus) : PodStatus :=
  { p with containerStatuses :=
      p.containerStatuses.filter q ++ p.containerStatuses.filter fun c => !q c }

theorem sameUpToContainers_inFront (q : ContainerStatus → Bool) (p : PodStatus) :
    SameUpToContainers p (inFront q p) :=
  ⟨rfl, rfl, rfl, List.filter_append_perm q p.containerStatuses⟩

theorem exists_inFront_eq_cons {q : ContainerStatus → Bool} (h : ∃ c ∈ p.containerStatuses, q c) :
    ∃ c rest, (inFront q p).containerStatuses = c :: rest ∧ q c := by
  obtain ⟨c, hc, hq⟩ := h
  cases hfilter : p.containerStatuses.filter q with
  | nil =>
    have hmem := List.mem_filter.mpr ⟨hc, hq⟩
    rw [hfilter] at hmem
    cases hmem
  | cons d rest =>
    have hd : q d = true := (List.mem_filter.mp (hfilter ▸ List.mem_cons_self)).2
    exact ⟨d, _, by simp [inFront, hfilter]; rfl, hd⟩

theorem fails_inFront_isStuck (h : Mixed p) : fails (inFront isStuck p) := by
  obtain ⟨c, rest, heq, hc⟩ := exists_inFront_eq_cons h.stuck
  refine fails_iff.mpr ⟨?_, .inl ⟨h.pending, .inr ?_⟩⟩
  · simp [isRunningAndReady, inFront, h.pending]
  · rw [heq]
    simp [isSome_checkPendingContainers_cons, hc, not_isStarting_of_isStuck hc]

theorem not_fails_inFront_isStarting (h : Mixed p) :
    fails (inFront isStarting p) = false := by
  obtain ⟨c, rest, heq, hc⟩ := exists_inFront_eq_cons h.starting
  have hpending : (inFront isStarting p).phase = .pending := h.pending
  have hscheduled : isUnscheduled (inFront isStarting p) = false := h.scheduled
  rw [Bool.eq_false_iff, ne_eq, fails_iff, heq, hpending, hscheduled,
    isSome_checkPendingContainers_cons, hc]
  simp

end Containers

/-- The same pods in any order, with their containers in any order. -/
def Reordered (pods pods' : List PodStatus) : Prop :=
  ∃ mid, List.Forall₂ SameUpToContainers pods mid ∧ mid.Perm pods'

/-- There are no pods, or a pod fails whatever the order of its containers is, or no pod depends on
the order of its containers. -/
def OrderFree (pods : List PodStatus) : Prop :=
  pods = [] ∨ (∃ p ∈ pods, fails p ∧ ¬ Mixed p) ∨ ∀ p ∈ pods, ¬ Mixed p

section Pods

variable {pods pods' : List PodStatus} {p p' : PodStatus}

theorem forall₂_exists {l l' : List PodStatus} (h : List.Forall₂ SameUpToContainers l l') :
    (∀ p ∈ l, ∃ p' ∈ l', SameUpToContainers p p') ∧
      ∀ p' ∈ l', ∃ p ∈ l, SameUpToContainers p p' := by
  induction h with
  | nil => simp
  | cons hhead _ ih =>
    refine ⟨List.forall_mem_cons.mpr ⟨⟨_, .head _, hhead⟩, fun p hp => ?_⟩,
      List.forall_mem_cons.mpr ⟨⟨_, .head _, hhead⟩, fun p' hp' => ?_⟩⟩
    · obtain ⟨p', hp', h⟩ := ih.1 p hp
      exact ⟨p', .tail _ hp', h⟩
    · obtain ⟨p, hp, h⟩ := ih.2 p' hp'
      exact ⟨p, .tail _ hp, h⟩

theorem Reordered.exists_right (h : Reordered pods pods') (hp : p ∈ pods) :
    ∃ p' ∈ pods', SameUpToContainers p p' := by
  obtain ⟨mid, hsame, hperm⟩ := h
  simpa only [hperm.mem_iff] using (forall₂_exists hsame).1 p hp

theorem Reordered.exists_left (h : Reordered pods pods') (hp' : p' ∈ pods') :
    ∃ p ∈ pods, SameUpToContainers p p' := by
  obtain ⟨mid, hsame, hperm⟩ := h
  exact (forall₂_exists hsame).2 p' (hperm.mem_iff.mpr hp')

theorem Reordered.eq_nil_iff (h : Reordered pods pods') : pods' = [] ↔ pods = [] := by
  constructor
  · rintro rfl
    refine List.eq_nil_iff_forall_not_mem.mpr fun p hp => ?_
    obtain ⟨p', hp', -⟩ := h.exists_right hp
    cases hp'
  · rintro rfl
    refine List.eq_nil_iff_forall_not_mem.mpr fun p' hp' => ?_
    obtain ⟨p, hp, -⟩ := h.exists_left hp'
    cases hp

theorem reordered_map_inFront (q : ContainerStatus → Bool) (pods : List PodStatus) :
    Reordered pods (pods.map (inFront q)) := by
  refine ⟨_, ?_, .refl _⟩
  induction pods with
  | nil => exact .nil
  | cons p rest ih => exact .cons (sameUpToContainers_inFront q p) ih

theorem OrderFree.report_eq (h : OrderFree pods) (hreordered : Reordered pods pods') :
    report (probePods (.ok pods')) = report (probePods (.ok pods)) := by
  have hany : pods ≠ [] → pods'.any fails = pods.any fails := by
    intro hne
    rcases h with hnil | ⟨p, hp, hfails, hmixed⟩ | hnone
    · exact absurd hnil hne
    · obtain ⟨p', hp', hsame⟩ := hreordered.exists_right hp
      have hfails' : fails p' := (fails_eq_of_not_mixed hsame hmixed).trans hfails
      rw [List.any_eq_true.mpr ⟨p, hp, hfails⟩, List.any_eq_true.mpr ⟨p', hp', hfails'⟩]
    · rw [Bool.eq_iff_iff, List.any_eq_true, List.any_eq_true]
      constructor
      · rintro ⟨p', hp', hfails⟩
        obtain ⟨p, hp, hsame⟩ := hreordered.exists_left hp'
        exact ⟨p, hp, (fails_eq_of_not_mixed hsame (hnone p hp)).symm.trans hfails⟩
      · rintro ⟨p, hp, hfails⟩
        obtain ⟨p', hp', hsame⟩ := hreordered.exists_right hp
        exact ⟨p', hp', (fails_eq_of_not_mixed hsame (hnone p hp)).trans hfails⟩
  rw [report_probePods, report_probePods]
  by_cases hnil : pods = []
  · rw [if_pos hnil, if_pos (hreordered.eq_nil_iff.mpr hnil)]
  · rw [if_neg hnil, if_neg (mt hreordered.eq_nil_iff.mp hnil), hany hnil]

/-- If the pods are not free of the order, one order reports a failure and another one a rollout. -/
theorem reports_of_not_orderFree (h : ¬ OrderFree pods) :
    report (probePods (.ok (pods.map (inFront isStuck)))) = .podFailure ∧
      report (probePods (.ok (pods.map (inFront isStarting)))) = .rolloutInProgress := by
  simp only [OrderFree, not_or, not_exists, not_forall, not_and, not_not] at h
  obtain ⟨hne, hmixed, p, hp, hpmixed⟩ := h
  have hne' : ∀ q, pods.map (inFront q) ≠ [] := fun q => mt List.map_eq_nil_iff.mp hne
  constructor
  · have hany : (pods.map (inFront isStuck)).any fails = true :=
      List.any_eq_true.mpr ⟨_, List.mem_map_of_mem hp, fails_inFront_isStuck hpmixed⟩
    rw [report_probePods, if_neg (hne' _), if_pos hany]
  · have hnone : (pods.map (inFront isStarting)).any fails = false := by
      rw [List.any_eq_false]
      intro p' hp' hfails
      obtain ⟨p, hp, rfl⟩ := List.mem_map.mp hp'
      by_cases hpmixed : Mixed p
      · rw [not_fails_inFront_isStarting hpmixed] at hfails
        cases hfails
      · rw [fails_eq_of_not_mixed (sameUpToContainers_inFront _ p) hpmixed] at hfails
        exact hpmixed (hmixed p hp hfails)
    rw [report_probePods, if_neg (hne' _), hnone]
    rfl

theorem report_probePods_orderFree_iff : (∀ pods', Reordered pods pods' →
    report (probePods (.ok pods')) = report (probePods (.ok pods))) ↔ OrderFree pods := by
  constructor
  · intro h
    by_contra hnot
    obtain ⟨hfailure, hrollout⟩ := reports_of_not_orderFree hnot
    rw [h _ (reordered_map_inFront _ _)] at hfailure hrollout
    cases hfailure.symm.trans hrollout
  · intro h pods' hreordered
    exact h.report_eq hreordered

end Pods

section ReplicaSets

variable {Spec : Type} {l l' : List (ReplicaSet Spec)}

def sortKey (rs : ReplicaSet Spec) : Int ×ₗ String := toLex (rs.creationTimestamp, rs.name)

theorem not_less_iff (a b : ReplicaSet Spec) : ¬ less b a ↔ sortKey a ≤ sortKey b := by
  unfold less sortKey
  rw [Prod.Lex.toLex_le_toLex]
  by_cases htime : b.creationTimestamp = a.creationTimestamp
  · simp only [htime, if_true, decide_eq_true_eq, not_lt, lt_irrefl, true_and, false_or]
  · simp only [if_neg htime, decide_eq_true_eq, not_lt, Ne.symm htime, false_and, or_false]
    constructor
    · intro h
      exact lt_of_le_of_ne h (Ne.symm htime)
    · exact le_of_lt

theorem sortByCreationTimestamp_eq_of_perm (hperm : l'.Perm l) (hnames : (l.map (·.name)).Nodup) :
    sortByCreationTimestamp l' = sortByCreationTimestamp l := by
  have hkeys : (l'.map sortKey).Nodup := by
    have hnames' : (l'.map (·.name)).Nodup := (hperm.map _).nodup_iff.mpr hnames
    refine List.Nodup.of_map (fun key : Int ×ₗ String => (ofLex key).2) ?_
    rw [List.map_map]
    exact hnames'
  simp only [sortByCreationTimestamp, not_less_iff]
  exact KeySort.insertionSort_eq_of_perm hperm hkeys

variable [DecidableEq Spec]

theorem getLatestReplicaSet_perm (d : Deployment Spec) (hperm : l'.Perm l)
    (hnames : (l.map (·.name)).Nodup) : getLatestReplicaSet d l' = getLatestReplicaSet d l := by
  have howned := hperm.filter fun rs => isControlledBy rs d
  have hnames' : ((l.filter fun rs => isControlledBy rs d).map (·.name)).Nodup :=
    hnames.sublist (List.filter_sublist.map _)
  simp only [getLatestReplicaSet, findNewReplicaSet]
  rw [sortByCreationTimestamp_eq_of_perm howned hnames']
  have hnil : (l'.filter fun rs => isControlledBy rs d) = [] ↔
      (l.filter fun rs => isControlledBy rs d) = [] := by
    rw [← List.length_eq_zero_iff, ← List.length_eq_zero_iff, howned.length_eq]
  simp only [hnil]

end ReplicaSets

/-! ## The order for the probes -/

def DaemonSetReachesPods (get : Except ApiError DaemonSet) : Prop :=
  ∃ ds, get = .ok ds ∧ ds.isRolledOut = false

def DeploymentReachesPods {Spec : Type} [DecidableEq Spec] (get : Except ApiError (Deployment Spec))
    (replicaSets : List (ReplicaSet Spec)) (getAgain : Except ApiError (Deployment Spec)) : Prop :=
  ∃ first d rs, get = .ok first ∧ getAgain = .ok d ∧ getLatestReplicaSet d replicaSets = some rs ∧
    rs.readyReplicas < first.replicas

theorem daemonSetIsReady_of_reaches {get : Except ApiError DaemonSet}
    (h : DaemonSetReachesPods get) (pods : Except ApiError (List PodStatus)) :
    daemonSetIsReady get pods = probePods pods := by
  obtain ⟨ds, rfl, hds⟩ := h
  simp [daemonSetIsReady, hds]

theorem daemonSetIsReady_of_not_reaches {get : Except ApiError DaemonSet}
    (h : ¬ DaemonSetReachesPods get) (pods pods' : Except ApiError (List PodStatus)) :
    daemonSetIsReady get pods = daemonSetIsReady get pods' := by
  cases get with
  | error err => rfl
  | ok ds =>
    cases hds : ds.isRolledOut with
    | true => simp [daemonSetIsReady, hds]
    | false => exact absurd ⟨ds, rfl, hds⟩ h

section Deployment

variable {Spec : Type} [DecidableEq Spec] {get getAgain : Except ApiError (Deployment Spec)}
  {replicaSets replicaSets' : List (ReplicaSet Spec)}

theorem deploymentIsReady_of_reaches (h : DeploymentReachesPods get replicaSets getAgain)
    (pods : Except ApiError (List PodStatus)) :
    deploymentIsReady get (.ok replicaSets) getAgain pods = probePods pods := by
  obtain ⟨first, d, rs, rfl, rfl, hrs, hready⟩ := h
  simp only [deploymentIsReady, hrs]
  exact if_neg (not_le.mpr hready)

theorem deploymentIsReady_of_not_reaches (h : ¬ DeploymentReachesPods get replicaSets getAgain)
    (pods pods' : Except ApiError (List PodStatus)) :
    deploymentIsReady get (.ok replicaSets) getAgain pods =
      deploymentIsReady get (.ok replicaSets) getAgain pods' := by
  cases get with
  | error err => rfl
  | ok first =>
    cases getAgain with
    | error err => rfl
    | ok d =>
      cases hrs : getLatestReplicaSet d replicaSets with
      | none => simp only [deploymentIsReady, hrs]
      | some rs =>
        have hready : first.replicas ≤ rs.readyReplicas := by
          by_contra hnot
          exact h ⟨first, d, rs, rfl, rfl, hrs, not_le.mp hnot⟩
        simp only [deploymentIsReady, hrs, if_pos hready]

theorem deploymentIsReady_perm (hperm : replicaSets'.Perm replicaSets)
    (hnames : (replicaSets.map (·.name)).Nodup) (pods : Except ApiError (List PodStatus)) :
    deploymentIsReady get (.ok replicaSets') getAgain pods =
      deploymentIsReady get (.ok replicaSets) getAgain pods := by
  cases get with
  | error err => rfl
  | ok first =>
    cases getAgain with
    | error err => rfl
    | ok d => simp only [deploymentIsReady, getLatestReplicaSet_perm d hperm hnames]

end Deployment

/-- The reports of both probes do not depend on the order, exactly if the probe does not look at the
pods or the pods are free of the order of their containers. -/
theorem readiness_order_independent_iff {Spec : Type} [DecidableEq Spec]
    (getDaemonSet : Except ApiError DaemonSet) (get getAgain : Except ApiError (Deployment Spec))
    (replicaSets : List (ReplicaSet Spec)) (hnames : (replicaSets.map (·.name)).Nodup)
    (pods : List PodStatus) :
    ((∀ pods', Reordered pods pods' →
        report (daemonSetIsReady getDaemonSet (.ok pods')) =
          report (daemonSetIsReady getDaemonSet (.ok pods))) ↔
      ¬ DaemonSetReachesPods getDaemonSet ∨ OrderFree pods) ∧
    ((∀ replicaSets' pods', replicaSets'.Perm replicaSets → Reordered pods pods' →
        report (deploymentIsReady get (.ok replicaSets') getAgain (.ok pods')) =
          report (deploymentIsReady get (.ok replicaSets) getAgain (.ok pods))) ↔
      ¬ DeploymentReachesPods get replicaSets getAgain ∨ OrderFree pods) := by
  constructor
  · by_cases hreaches : DaemonSetReachesPods getDaemonSet
    · simp only [daemonSetIsReady_of_reaches hreaches, hreaches, not_true_eq_false, false_or]
      exact report_probePods_orderFree_iff
    · refine ⟨fun _ => .inl hreaches, fun _ pods' _ => ?_⟩
      rw [daemonSetIsReady_of_not_reaches hreaches]
  · by_cases hreaches : DeploymentReachesPods get replicaSets getAgain
    · rw [← report_probePods_orderFree_iff]
      simp only [hreaches, not_true_eq_false, false_or, deploymentIsReady_of_reaches hreaches]
      constructor
      · intro h pods' hreordered
        rw [← h replicaSets pods' (.refl _) hreordered, deploymentIsReady_of_reaches hreaches]
      · intro h replicaSets' pods' hperm hreordered
        rw [deploymentIsReady_perm hperm hnames, deploymentIsReady_of_reaches hreaches]
        exact h pods' hreordered
    · refine ⟨fun _ => .inl hreaches, fun _ replicaSets' pods' hperm _ => ?_⟩
      rw [deploymentIsReady_perm hperm hnames, deploymentIsReady_of_not_reaches hreaches]

def startingContainer : ContainerStatus where
  name := "istio-proxy"
  waiting := some ⟨"PodInitializing", ""⟩
  lastTerminated := none

def stuckContainer : ContainerStatus where
  name := "collector"
  waiting := some ⟨"ErrImagePull", "pull access denied"⟩
  lastTerminated := none

def readyContainer : ContainerStatus where
  name := "exporter"
  waiting := none
  lastTerminated := none

def waitingPod (containers : List ContainerStatus) : PodStatus where
  phase := .pending
  message := ""
  conditions := [⟨"PodScheduled", .conditionTrue, ""⟩]
  containerStatuses := containers

def gatewayDaemonSet : DaemonSet where
  updatedNumberScheduled := 0
  desiredNumberScheduled := 1
  numberReady := 0

def gatewayDeployment : Deployment Unit := ⟨"9f1c", 1, ⟨∅, ()⟩⟩

def replicaSet (name : String) : ReplicaSet Unit := ⟨name, 0, [⟨"9f1c", true⟩], ⟨∅, ()⟩, 0⟩

/-- The order of two pods, of the containers of one of them and of the replica sets. -/
theorem readiness_of_waitingPods :
    (([replicaSet "gateway-5d4f", replicaSet "gateway-6e5a"].map (·.name)).Nodup) ∧
    report (deploymentIsReady (.ok gatewayDeployment)
      (.ok [replicaSet "gateway-6e5a", replicaSet "gateway-5d4f"]) (.ok gatewayDeployment)
      (.ok [waitingPod [startingContainer], waitingPod [readyContainer, stuckContainer]])) =
    report (deploymentIsReady (.ok gatewayDeployment)
      (.ok [replicaSet "gateway-5d4f", replicaSet "gateway-6e5a"]) (.ok gatewayDeployment)
      (.ok [waitingPod [stuckContainer, readyContainer], waitingPod [startingContainer]])) := by
  have hnames : ([replicaSet "gateway-5d4f", replicaSet "gateway-6e5a"].map (·.name)).Nodup := by
    decide
  have hfree : OrderFree
      [waitingPod [stuckContainer, readyContainer], waitingPod [startingContainer]] :=
    .inr (.inl ⟨_, .head _, by decide, fun h => absurd h.starting (by decide)⟩)
  refine ⟨hnames, (readiness_order_independent_iff (.ok gatewayDaemonSet) (.ok gatewayDeployment)
    (.ok gatewayDeployment) _ hnames _).2.mpr (.inr hfree) _ _ (.swap _ _ _) ⟨_, ?_, .swap _ _ _⟩⟩
  exact .cons ⟨rfl, rfl, rfl, .swap _ _ _⟩ (.cons ⟨rfl, rfl, rfl, .refl _⟩ .nil)

/-- The same pod is reported as a rollout and as a failure. -/
theorem container_order_decides :
    Reordered [waitingPod [startingContainer, stuckContainer]]
      [waitingPod [stuckContainer, startingContainer]] ∧
    report (daemonSetIsReady (.ok gatewayDaemonSet)
      (.ok [waitingPod [startingContainer, stuckContainer]])) = .rolloutInProgress ∧
    report (daemonSetIsReady (.ok gatewayDaemonSet)
      (.ok [waitingPod [stuckContainer, startingContainer]])) = .podFailure := by
  have hsame : SameUpToContainers (waitingPod [startingContainer, stuckContainer])
      (waitingPod [stuckContainer, startingContainer]) := ⟨rfl, rfl, rfl, .swap _ _ _⟩
  refine ⟨⟨_, .cons hsame .nil, .refl _⟩, ?_, ?_⟩
  · decide
  · decide

end TelemetryManager.WorkloadStatus
