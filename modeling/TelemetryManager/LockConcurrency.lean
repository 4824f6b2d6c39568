import TelemetryManager.CoordinationConcurrency
import TelemetryManager.ResourceLock

/-! Concurrent acquisitions of a pipeline-count lock.
Every pipeline reads the lock, adds itself if there is room and writes the lock back. The API server
accepts a write only from the current version. The garbage collector removes the references of
pipelines that are gone, and the lock itself with its last owner. -/
namespace TelemetryManager.ResourceLock

open Interaction OptimisticStore Coordination

section OwnerReferences

variable {owner ref : OwnerReference} {refs : List OwnerReference}

theorem holds_iff : holds owner refs ↔
    ∃ ref ∈ refs, ref.name = owner.name ∧ ref.uid = owner.uid := by
  simp [holds]

theorem holds_of_mem (h : owner ∈ refs) : holds owner refs :=
  holds_iff.mpr ⟨owner, h, rfl, rfl⟩

theorem length_setOwnerReference_le (owner : OwnerReference) (refs : List OwnerReference) :
    (setOwnerReference owner refs).length ≤ refs.length + 1 := by
  induction refs with
  | nil => exact le_rfl
  | cons ref refs ih =>
    unfold setOwnerReference
    split
    · simp
    · simpa using ih

theorem mem_setOwnerReference (owner : OwnerReference) (refs : List OwnerReference) :
    owner ∈ setOwnerReference owner refs := by
  induction refs with
  | nil => exact List.mem_singleton_self owner
  | cons ref refs ih =>
    unfold setOwnerReference
    split
    · exact List.mem_cons_self
    · exact List.mem_cons_of_mem ref ih

/-- Only a reference of the same kind and name is replaced. -/
theorem mem_setOwnerReference_of_mem (href : ref ∈ refs)
    (hother : ¬ (ref.kind = owner.kind ∧ ref.name = owner.name)) :
    ref ∈ setOwnerReference owner refs := by
  induction refs with
  | nil => cases href
  | cons first refs ih =>
    unfold setOwnerReference
    rcases List.mem_cons.mp href with rfl | href
    · rw [if_neg hother]
      exact List.mem_cons_self
    · split
      · exact List.mem_cons_of_mem owner href
      · exact List.mem_cons_of_mem first (ih href)

end OwnerReferences

def owners (s : ConfigMapStore) : List OwnerReference :=
  (s.current.map (·.ownerReferences)).getD []

theorem owners_put (s : ConfigMapStore) (cm : ConfigMap) : owners (s.put cm) = cm.ownerReferences :=
  rfl

theorem owners_of_current {s : ConfigMapStore} {cm : ConfigMap} (h : s.current = some cm) :
    owners s = cm.ownerReferences := by
  simp [owners, h]

/-- The answers of the API server for the lock `key`. Every request may fail, with any error and
without effect. -/
inductive Serve (key : ObjectKey) :
    ConfigMapStore → (r : ApiReq) → ApiResp r → ConfigMapStore → Prop where
  | fails (s : ConfigMapStore) (r : ApiReq) (err : ApiError) : Serve key s r (.error err) s
  | get (s : ConfigMapStore) (cm : ConfigMap) (h : s.current = some cm) :
      Serve key s (.getConfigMap key) (.ok cm) s
  | create (s : ConfigMapStore) (cm : ConfigMap) (hkey : cm.key = key) (h : s.AcceptsCreate) :
      Serve key s (.createConfigMap cm) (.ok ()) (s.put cm)
  | update (s : ConfigMapStore) (cm : ConfigMap) (hkey : cm.key = key) (h : s.AcceptsUpdate cm) :
      Serve key s (.updateConfigMap cm) (.ok ()) (s.put cm)

inductive Collection where
  | references (kept : List OwnerReference)
  | lock

/-- The garbage collector may remove any references, or the lock, at any time. -/
inductive Collects : ConfigMapStore → Collection → ConfigMapStore → Prop where
  | references (s : ConfigMapStore) (cm : ConfigMap) (kept : List OwnerReference)
      (hcurrent : s.current = some cm) (hkept : kept.Sublist cm.ownerReferences) :
      Collects s (.references kept) (s.put { cm with ownerReferences := kept })
  | lock (s : ConfigMapStore) : Collects s .lock s.delete

variable {s t : ConfigMapStore}

theorem Collects.length_le {a : Collection} (h : Collects s a t) :
    (owners t).length ≤ (owners s).length := by
  cases h with
  | references cm kept hcurrent hkept =>
    rw [owners_put, owners_of_current hcurrent]
    exact hkept.length_le
  | lock => exact Nat.zero_le _

theorem Collects.mayRead {a : Collection} (h : Collects s a t)
    {cm : ConfigMap} (hread : s.MayRead cm) : t.MayRead cm := by
  cases h with
  | references => exact List.mem_cons_of_mem _ hread
  | lock => exact hread

theorem Collects.recorded {a : Collection} (h : Collects s a t) :
    t.Recorded := by
  cases h with
  | references => exact s.recorded_put _
  | lock => exact s.recorded_delete

def currentLock (s : ConfigMapStore) : Except ApiError ConfigMap :=
  match s.current with
  | some cm => .ok cm
  | none => .error .notFound

def Holder (c : Checker) (owner : OwnerReference) (s : ConfigMapStore) : Prop :=
  ∀ answer : ApiTable, answer (.getConfigMap c.lockName) = currentLock s →
    evalE answer (c.isLockHolder owner) = .ok ()

theorem holder_of_holds (c : Checker) {owner : OwnerReference} {s : ConfigMapStore}
    (h : holds owner (owners s)) : Holder c owner s := by
  intro answer hanswer
  have hread : (getConfigMap c.lockName).eval answer = currentLock s := hanswer
  cases hcurrent : s.current with
  | none => simp [owners, hcurrent, holds] at h
  | some cm =>
    rw [owners_of_current hcurrent] at h
    rw [Checker.isLockHolder, evalE_bind, evalE_lift, hread, currentLock, hcurrent]
    change evalE answer (if holds owner cm.ownerReferences then pure () else _) = _
    rw [if_pos h]
    rfl

section Programs

variable (c : Checker) (owner : OwnerReference)

def acquiredLock (lock : ConfigMap) : ConfigMap :=
  { lock with key := c.lockName, ownerReferences := setOwnerReference owner lock.ownerReferences }

def updateLock (lock : ConfigMap) : Api (Except GoError Unit) :=
  .call (.updateConfigMap (acquiredLock c owner lock)) fun answer : Except ApiError Unit =>
    .done (answer.mapError fun err => .errorf "failed to update lock: " (.api err) "")

def afterGet (answer : Except ApiError ConfigMap) : Api (Except GoError Unit) :=
  match answer with
  | .error err =>
    if err.isNotFound then (c.createLock owner).run
    else .done (.error (.errorf "failed to get lock: " (.api err) ""))
  | .ok lock =>
    if holds owner lock.ownerReferences then .done (.ok ())
    else if c.maxOwners = 0 ∨ canAddOwner lock.ownerReferences.length c.maxOwners then
      updateLock c owner lock
    else .done (.error (.sentinel .errMaxPipelinesExceeded))

theorem createLock_run :
    (c.createLock owner).run =
      .call (.createConfigMap { key := c.lockName, ownerReferences := [owner] })
        fun answer : Except ApiError Unit => .done
          (answer.mapError fun err => .errorf "failed to create lock: " (.api err) "") := by
  change Prog.call _ _ = _
  congr 1
  funext answer
  cases answer <;> rfl

theorem tryAcquireLock_run :
    (c.tryAcquireLock owner).run = .call (.getConfigMap c.lockName) (afterGet c owner) := by
  change Prog.call _ _ = _
  congr 1
  funext answer
  cases answer with
  | error err => cases err <;> rfl
  | ok lock =>
    change ExceptT.run (if holds owner lock.ownerReferences then pure ()
      else if c.maxOwners = 0 ∨ canAddOwner lock.ownerReferences.length c.maxOwners then _
      else throw _) = _
    dsimp only [afterGet]
    by_cases hholds : holds owner lock.ownerReferences
    · rw [if_pos hholds, if_pos hholds]
      rfl
    · rw [if_neg hholds, if_neg hholds]
      by_cases hroom : c.maxOwners = 0 ∨ canAddOwner lock.ownerReferences.length c.maxOwners
      · rw [if_pos hroom, if_pos hroom]
        change Prog.call _ _ = _
        congr 1
        funext answer
        cases answer <;> rfl
      · rw [if_neg hroom, if_neg hroom]
        rfl

end Programs

section Runs

variable (c : Checker)

inductive Phase (owner : OwnerReference) (s : ConfigMapStore) :
    Api (Except GoError Unit) → Prop where
  | reading : Phase owner s (c.tryAcquireLock owner).run
  | creating : Phase owner s (c.createLock owner).run
  | updating (lock : ConfigMap) (hread : s.MayRead lock)
      (hnew : holds owner lock.ownerReferences = false)
      (hroom : c.maxOwners = 0 ∨ canAddOwner lock.ownerReferences.length c.maxOwners) :
      Phase owner s (updateLock c owner lock)
  | finished (r : Except GoError Unit) : Phase owner s (.done r)

structure Acquires (owner : OwnerReference) (s t : ConfigMapStore) : Prop where
  owners_eq : owners t = setOwnerReference owner (owners s)
  new : holds owner (owners s) = false
  room : owners s = [] ∨ c.maxOwners = 0 ∨ canAddOwner (owners s).length c.maxOwners

variable {c} {owner : OwnerReference} {s t : ConfigMapStore}

theorem Phase.mono {p : Api (Except GoError Unit)} (h : Phase c owner s p)
    (hpast : ∀ cm, s.MayRead cm → t.MayRead cm) : Phase c owner t p := by
  cases h with
  | reading => exact .reading
  | creating => exact .creating
  | updating lock hread hnew hroom => exact .updating lock (hpast lock hread) hnew hroom
  | finished r => exact .finished r

theorem Phase.afterGet_ok {lock : ConfigMap} (hread : s.MayRead lock) :
    Phase c owner s (afterGet c owner (.ok lock)) := by
  dsimp only [afterGet]
  by_cases hholds : holds owner lock.ownerReferences
  · rw [if_pos hholds]
    exact .finished _
  · rw [if_neg hholds]
    by_cases hroom : c.maxOwners = 0 ∨ canAddOwner lock.ownerReferences.length c.maxOwners
    · rw [if_pos hroom]
      exact .updating lock hread (by simpa using hholds) hroom
    · rw [if_neg hroom]
      exact .finished _

theorem Phase.afterGet_error (err : ApiError) :
    Phase c owner s (afterGet c owner (.error err)) := by
  dsimp only [afterGet]
  by_cases hnotFound : err.isNotFound
  · rw [if_pos hnotFound]
    exact .creating
  · rw [if_neg hnotFound]
    exact .finished _

theorem afterGet_eq_ok {answer : Except ApiError ConfigMap}
    (h : afterGet c owner answer = .done (.ok ())) :
    ∃ lock, answer = .ok lock ∧ holds owner lock.ownerReferences := by
  unfold afterGet at h
  split at h
  · split at h
    · rw [createLock_run] at h
      cases h
    · cases h
  · split at h
    · exact ⟨_, rfl, ‹_›⟩
    · split at h <;> cases h

/-- What one step of an acquisition can do: go on without an effect, and succeed only if the owner
holds the lock, or write the lock and succeed. -/
theorem Phase.step {r : ApiReq} {next : ApiResp r → Api (Except GoError Unit)} {x : ApiResp r}
    (h : Phase c owner s (.call r next)) (hrecorded : s.Recorded)
    (hserve : Serve c.lockName s r x t) :
    (t = s ∧ Phase c owner s (next x) ∧
      (next x = .done (.ok ()) → holds owner (owners s))) ∨
    (∃ cm, t = s.put cm ∧ next x = .done (.ok ()) ∧ Acquires c owner s t) := by
  generalize hp : Prog.call r next = p at h
  cases h with
  | reading =>
    rw [tryAcquireLock_run] at hp
    cases hp
    refine .inl ?_
    cases hserve with
    | fails _ err =>
      refine ⟨rfl, .afterGet_error err, fun hok => ?_⟩
      obtain ⟨lock, hlock, -⟩ := afterGet_eq_ok hok
      cases hlock
    | get cm hcurrent =>
      refine ⟨rfl, .afterGet_ok (hrecorded cm hcurrent), fun hok => ?_⟩
      obtain ⟨lock, hlock, hholds⟩ := afterGet_eq_ok hok
      cases hlock
      rwa [owners_of_current hcurrent]
  | creating =>
    rw [createLock_run] at hp
    cases hp
    cases hserve with
    | fails _ err => exact .inl ⟨rfl, .finished _, nofun⟩
    | create _ _ hfree =>
      have hempty : owners s = [] := by simp [owners, show s.current = none from hfree]
      refine .inr ⟨_, rfl, rfl, ?_, ?_, .inl hempty⟩
      · rw [owners_put, hempty]
        rfl
      · rw [hempty]
        rfl
  | updating lock hread hnew hroom =>
    cases hp
    cases hserve with
    | fails _ err => exact .inl ⟨rfl, .finished _, nofun⟩
    | update _ _ haccepts =>
      -- the accepted version shows that the lock read is the current one
      have hcurrent : s.current = some lock := haccepts.current_eq hread rfl
      have howners := owners_of_current hcurrent
      refine .inr ⟨_, rfl, rfl, ?_, ?_, .inr ?_⟩
      · rw [owners_put, howners]
        rfl
      · rwa [howners]
      · rwa [howners]
  | finished r => cases hp

theorem Acquires.length_le (h : Acquires c owner s t) (hlimit : 1 ≤ c.maxOwners) :
    ((owners t).length : Int) ≤ c.maxOwners := by
  have hlength := length_setOwnerReference_le owner (owners s)
  rw [← h.owners_eq] at hlength
  rcases h.room with hempty | hzero | hroom
  · rw [hempty] at hlength
    simp only [List.length_nil] at hlength
    omega
  · omega
  · simp only [canAddOwner, unlimitedPipelineCount, Bool.or_eq_true, beq_iff_eq,
      decide_eq_true_eq] at hroom
    omega

theorem Acquires.holds (h : Acquires c owner s t) : holds owner (owners t) := by
  rw [h.owners_eq]
  exact holds_of_mem (mem_setOwnerReference owner _)

structure Replaces (owner ref : OwnerReference) : Prop where
  kind_eq : ref.kind = owner.kind
  name_eq : ref.name = owner.name
  stale : ref.uid ≠ owner.uid

theorem Acquires.replaces (h : Acquires c owner s t) {ref : OwnerReference}
    (hbefore : ref ∈ owners s)
    (hafter : ref ∉ owners t) : Replaces owner ref := by
  rw [h.owners_eq] at hafter
  obtain ⟨hkind, hname⟩ : ref.kind = owner.kind ∧ ref.name = owner.name := by
    by_contra hother
    exact hafter (mem_setOwnerReference_of_mem hbefore hother)
  refine ⟨hkind, hname, fun huid => ?_⟩
  have hholds := holds_iff.mpr ⟨ref, hbefore, hname, huid⟩
  rw [h.new] at hholds
  cases hholds

structure Advances (c : Checker) (owner : OwnerReference) (s t : ConfigMapStore)
    (rest : Api (Except GoError Unit)) : Prop where
  recorded : t.Recorded
  mayRead : ∀ cm, s.MayRead cm → t.MayRead cm
  phase : Phase c owner t rest
  limit : ((owners s).length : Int) ≤ c.maxOwners → ((owners t).length : Int) ≤ c.maxOwners
  replaces : ∀ ref ∈ owners s, ref ∉ owners t → Replaces owner ref
  held : rest = .done (.ok ()) → ResourceLock.holds owner (owners t)
  unchanged : rest ≠ .done (.ok ()) → t = s

theorem Phase.advances {r : ApiReq} {next : ApiResp r → Api (Except GoError Unit)} {x : ApiResp r}
    (h : Phase c owner s (.call r next)) (hlimit : 1 ≤ c.maxOwners) (hrecorded : s.Recorded)
    (hserve : Serve c.lockName s r x t) : Advances c owner s t (next x) := by
  rcases h.step hrecorded hserve with ⟨rfl, hphase, hheld⟩ | ⟨cm, rfl, hnext, hacquires⟩
  · exact ⟨hrecorded, fun _ => id, hphase, id, fun ref hbefore hafter => absurd hbefore hafter,
      hheld, fun _ => rfl⟩
  · rw [hnext]
    exact ⟨s.recorded_put cm, fun _ => List.mem_cons_of_mem _, .finished _,
      fun _ => hacquires.length_le hlimit, fun _ => hacquires.replaces, fun _ => hacquires.holds,
      fun hne => absurd rfl hne⟩

end Runs

section Safety

variable {ι : Type} (c : Checker) (owner : ι → OwnerReference)

abbrev LockSystem (ι : Type) := System ApiReq ApiResp ConfigMapStore ι (Except GoError Unit)

abbrev LockEvent (ι : Type) := Event ConfigMapStore (Collection ⊕ ι)

/-- All acquisitions before their first request. A pipeline may make any number of them. -/
def start (init : Option ConfigMap) : LockSystem ι where
  server := .init configMapVersions init
  procs := fun i => (c.tryAcquireLock (owner i)).run

def Loses (ref : OwnerReference) (e : LockEvent ι) : Prop :=
  ref ∈ owners e.before ∧ ref ∉ owners e.after

def Removes (pipeline : OwnerReference) (e : LockEvent ι) : Prop :=
  ∃ ref, ref.name = pipeline.name ∧ ref.uid = pipeline.uid ∧ Loses ref e

/-- The call returned with an event of the trace, and `post` is what happened since. -/
def Returned (i : ι) (trace post : List (LockEvent ι)) : Prop :=
  ∃ pre e, trace = pre ++ e :: post ∧ e.process = .inr i ∧ ∀ e' ∈ post, e'.process ≠ .inr i

structure Safe (trace : List (LockEvent ι)) (s : LockSystem ι) : Prop where
  limit : ((owners s.server).length : Int) ≤ c.maxOwners
  losses : ∀ e ∈ trace, ∀ ref, Loses ref e →
    (∃ a, e.process = .inl a) ∨ ∃ i, e.process = .inr i ∧ Replaces (owner i) ref
  holders : ∀ i, s.procs i = .done (.ok ()) → ∃ post, Returned i trace post ∧
    (Holder c (owner i) s.server ∨ ∃ e ∈ post, Removes (owner i) e)
  failed : ∀ i err, s.procs i = .done (.error err) → ∀ e ∈ trace, e.process = .inr i →
    e.after = e.before

structure LockInvariant (trace : List (LockEvent ι)) (s : LockSystem ι) : Prop where
  recorded : s.server.Recorded
  phases : ∀ i, Phase c (owner i) s.server (s.procs i)
  limit : ((owners s.server).length : Int) ≤ c.maxOwners
  losses : ∀ e ∈ trace, ∀ ref, Loses ref e →
    (∃ a, e.process = .inl a) ∨ ∃ i, e.process = .inr i ∧ Replaces (owner i) ref
  holders : ∀ i, s.procs i = .done (.ok ()) → ∃ post, Returned i trace post ∧
    (holds (owner i) (owners s.server) ∨ ∃ e ∈ post, Removes (owner i) e)
  unchanged : ∀ i, s.procs i ≠ .done (.ok ()) → ∀ e ∈ trace, e.process = .inr i →
    e.after = e.before

variable {c owner}

theorem LockInvariant.start {init : Option ConfigMap}
    (hinit : ((owners (.init configMapVersions init)).length : Int) ≤ c.maxOwners) :
    LockInvariant c owner [] (start c owner init) where
  recorded := Store.recorded_init init
  phases := fun _ => .reading
  limit := hinit
  losses := nofun
  holders := by
    intro i hdone
    have hrun := tryAcquireLock_run c (owner i)
    rw [show (c.tryAcquireLock (owner i)).run = .done (.ok ()) from hdone] at hrun
    cases hrun
  unchanged := nofun

section Returned

variable {i : ι} {trace post : List (LockEvent ι)} {e : LockEvent ι}

theorem returned_last (trace : List (LockEvent ι)) (h : e.process = .inr i) :
    Returned i (trace ++ [e]) [] :=
  ⟨trace, e, rfl, h, nofun⟩

theorem Returned.append (h : Returned i trace post) (hne : e.process ≠ .inr i) :
    Returned i (trace ++ [e]) (post ++ [e]) := by
  obtain ⟨pre, last, rfl, hlast, hpost⟩ := h
  refine ⟨pre, last, by simp, hlast, fun e' he' => ?_⟩
  rcases List.mem_append.mp he' with he' | he'
  · exact hpost e' he'
  · rw [List.mem_singleton.mp he']
    exact hne

theorem holds_or_removes {pipeline : OwnerReference} (h : holds pipeline (owners e.before)) :
    holds pipeline (owners e.after) = true ∨ Removes pipeline e := by
  obtain ⟨ref, href, hname, huid⟩ := holds_iff.mp h
  by_cases hafter : ref ∈ owners e.after
  · exact .inl (holds_iff.mpr ⟨ref, hafter, hname, huid⟩)
  · exact .inr ⟨ref, hname, huid, href, hafter⟩

theorem held_append {pipeline : OwnerReference} (hne : e.process ≠ .inr i)
    (h : ∃ post, Returned i trace post ∧
      (holds pipeline (owners e.before) ∨ ∃ e ∈ post, Removes pipeline e)) :
    ∃ post, Returned i (trace ++ [e]) post ∧
      (holds pipeline (owners e.after) ∨ ∃ e ∈ post, Removes pipeline e) := by
  obtain ⟨post, hreturned, hheld⟩ := h
  refine ⟨post ++ [e], hreturned.append hne, ?_⟩
  rcases hheld with hheld | ⟨e', he', hremoves⟩
  · rcases holds_or_removes hheld with hheld | hremoves
    · exact .inl hheld
    · exact .inr ⟨e, by simp, hremoves⟩
  · exact .inr ⟨e', List.mem_append_left _ he', hremoves⟩

end Returned

theorem LockInvariant.collect {trace : List (LockEvent ι)} {s : LockSystem ι} {a : Collection}
    {t : ConfigMapStore} (h : LockInvariant c owner trace s) (hcollects : Collects s.server a t) :
    LockInvariant c owner (trace ++ [⟨.inl a, s.server, t⟩]) { s with server := t } where
  recorded := hcollects.recorded
  phases := fun i => (h.phases i).mono fun _ => hcollects.mayRead
  limit := by
    have hlength := hcollects.length_le
    have hlimit := h.limit
    dsimp only
    omega
  losses := by
    intro e he ref hloses
    rcases List.mem_append.mp he with he | he
    · exact h.losses e he ref hloses
    · rw [List.mem_singleton.mp he]
      exact .inl ⟨a, rfl⟩
  holders := fun i hdone => held_append nofun (h.holders i hdone)
  unchanged := by
    intro i hi e he hprocess
    rcases List.mem_append.mp he with he | he
    · exact h.unchanged i hi e he hprocess
    · rw [List.mem_singleton.mp he] at hprocess
      cases hprocess

variable [DecidableEq ι]

theorem LockInvariant.answer (hlimit : 1 ≤ c.maxOwners) {trace : List (LockEvent ι)}
    {s t : LockSystem ι} {e : Event ConfigMapStore ι} (h : LockInvariant c owner trace s)
    (hstep : Step (Serve c.lockName) s e t) :
    LockInvariant c owner (trace ++ [⟨.inr e.process, e.before, e.after⟩]) t := by
  cases hstep with
  | @answer i r next x server hproc hserve =>
    have hphase := h.phases i
    rw [hproc] at hphase
    have hadvances := hphase.advances hlimit h.recorded hserve
    refine ⟨hadvances.recorded, fun j => ?_, hadvances.limit h.limit, ?_, fun j hdone => ?_,
      fun j hj e he hprocess => ?_⟩
    · by_cases hj : j = i
      · subst hj
        simpa using hadvances.phase
      · simpa [hj] using (h.phases j).mono hadvances.mayRead
    · intro e he ref hloses
      rcases List.mem_append.mp he with he | he
      · exact h.losses e he ref hloses
      · rw [List.mem_singleton.mp he] at hloses ⊢
        exact .inr ⟨i, rfl, hadvances.replaces ref hloses.1 hloses.2⟩
    · by_cases hj : j = i
      · subst hj
        simp only [Function.update_self] at hdone
        exact ⟨[], returned_last trace rfl, .inl (hadvances.held hdone)⟩
      · simp only [Function.update_of_ne hj] at hdone
        refine held_append (fun hprocess => hj ?_) (h.holders j hdone)
        exact (Sum.inr.inj hprocess).symm
    · rcases List.mem_append.mp he with he | he
      · refine h.unchanged j ?_ e he hprocess
        -- an acquisition that has a request to make is not over
        by_cases hij : j = i
        · rw [hij, hproc]
          exact nofun
        · simpa [hij] using hj
      · rw [List.mem_singleton.mp he] at hprocess ⊢
        cases hprocess
        simp only [Function.update_self] at hj
        exact hadvances.unchanged hj

theorem LockInvariant.of_run (hlimit : 1 ≤ c.maxOwners) {init : Option ConfigMap}
    (hinit : ((owners (.init configMapVersions init)).length : Int) ≤ c.maxOwners)
    {trace : List (LockEvent ι)} {s : LockSystem ι}
    (hrun : OpenRun Collects (Serve c.lockName) (ResourceLock.start c owner init) trace s) :
    LockInvariant c owner trace s := by
  refine hrun.invariant (.start hinit) fun trace s e t h hstep => ?_
  cases hstep with
  | act hcollects => exact h.collect hcollects
  | answer hstep => exact h.answer hlimit hstep

variable (c owner)

/-- However acquisitions, failing requests and the garbage collector interleave, a lock never has
more owners than its limit, and nobody loses it to another pipeline. -/
theorem lock_calls_safe (hlimit : 1 ≤ c.maxOwners) (init : Option ConfigMap)
    (hinit : ((owners (.init configMapVersions init)).length : Int) ≤ c.maxOwners)
    (trace : List (LockEvent ι)) (s : LockSystem ι)
    (hrun : OpenRun Collects (Serve c.lockName) (start c owner init) trace s) :
    Safe c owner trace s := by
  have hinv := LockInvariant.of_run hlimit hinit hrun
  refine ⟨hinv.limit, hinv.losses, fun i hdone => ?_, fun i err hfailed => ?_⟩
  · obtain ⟨post, hreturned, hheld⟩ := hinv.holders i hdone
    exact ⟨post, hreturned, hheld.imp_left (holder_of_holds c)⟩
  · refine hinv.unchanged i ?_
    rw [hfailed]
    exact nofun

end Safety

def onePlace : Checker := newLocker ⟨"kyma-system", "telemetry-tracepipeline-lock"⟩ 1

def racingOwner : Bool → OwnerReference
  | true => ⟨.tracePipeline, "first", "1"⟩
  | false => ⟨.tracePipeline, "second", "2"⟩

/-- Both pipelines find no lock; the one that creates it first gets the place until it is collected,
the other one fails. -/
theorem racing_acquisitions_safe :
    ∃ trace s, OpenRun Collects (Serve onePlace.lockName)
      (start onePlace racingOwner none) trace s ∧
      s.procs true = .done (.ok ()) ∧
      s.procs false = .done (.error (.errorf "failed to create lock: " (.api .alreadyExists) "")) ∧
      owners s.server = [] ∧ Safe onePlace racingOwner trace s := by
  have hrun : ∃ trace s, OpenRun Collects (Serve onePlace.lockName)
      (start onePlace racingOwner none) trace s ∧ s.procs true = .done (.ok ()) ∧
      s.procs false = .done (.error (.errorf "failed to create lock: " (.api .alreadyExists) "")) ∧
      owners s.server = [] :=
    ⟨_, _, .tail (.tail (.tail (.tail (.tail .refl
      (.answer (.answer (i := true) (tryAcquireLock_run _ _) (.fails _ _ .notFound))))
      (.answer (.answer (i := false) (tryAcquireLock_run _ _) (.fails _ _ .notFound))))
      (.answer (.answer (i := true) (createLock_run _ _) (.create _ _ rfl rfl))))
      (.answer (.answer (i := false) (createLock_run _ _) (.fails _ _ .alreadyExists))))
      (.act (.references _ _ [] rfl (List.nil_sublist _))), rfl, rfl, rfl⟩
  obtain ⟨trace, s, hrun, htrue, hfalse, hcollected⟩ := hrun
  exact ⟨trace, s, hrun, htrue, hfalse, hcollected,
    lock_calls_safe onePlace racingOwner (by decide) none (by decide) trace s hrun⟩

end TelemetryManager.ResourceLock
