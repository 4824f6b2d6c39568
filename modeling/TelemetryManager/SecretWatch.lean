import TelemetryManager.KubeClient
import TelemetryManager.Library.Machine

/-! The watcher of one Secret.
The watcher lists the Secret, watches it from the version of the list and triggers every linked
pipeline for each event. It starts over after every end of the stream. -/
namespace TelemetryManager.SecretWatch

structure LinkedPipeline where
  kind : PipelineKind
  name : String
  deriving DecidableEq

def samePipeline (a b : LinkedPipeline) : Bool := a.name == b.name && a.kind == b.kind

/-- Add a pipeline, and whether it was added. -/
def link (linked : List LinkedPipeline) (pipeline : LinkedPipeline) : Bool × List LinkedPipeline :=
  if linked.any fun p => samePipeline p pipeline then (false, linked)
  else (true, linked ++ [pipeline])

/-- Remove a pipeline, and whether others are left. -/
def unlink (linked : List LinkedPipeline) (pipeline : LinkedPipeline) :
    Bool × List LinkedPipeline :=
  let linked := linked.filter fun p => !samePipeline p pipeline
  (decide (0 < linked.length), linked)

inductive ChangeType where
  | added
  | modified
  | deleted
  deriving DecidableEq

structure Change where
  type : ChangeType
  revision : Nat
  deriving DecidableEq

/-- The events of a stream. An event without a Secret is skipped. -/
inductive WatchEvent where
  | secret (change : Change)
  | error
  | other

inductive Phase where
  | listing
  | watching (resourceVersion : Option Nat)
  | receiving
  | routing (pipelines : List LinkedPipeline)
  | waiting
  | stopped

/-- The Secret and its watcher. `changes` are those since the watcher was created. The field
`received` records the highest revision of the Secret events that the watcher took, at first the
revision at which the watcher was created. -/
structure State where
  revision : Nat
  object : Option Nat
  changes : List Change := []
  linked : List LinkedPipeline
  phase : Phase := .listing
  pending : List WatchEvent := []
  isOpen : Bool := false
  received : Nat

def newWatcher (pipeline : LinkedPipeline) (revision : Nat) (object : Option Nat) : State where
  revision := revision
  object := object
  linked := [pipeline]
  received := revision

inductive Event where
  | change (c : Change)
  | otherObject
  | link (pipeline : LinkedPipeline)
  | unlink (pipeline : LinkedPipeline)
  | list (answer : Except ApiError Nat)
  | watch (answer : Except ApiError Unit)
  | sendError
  | sendOther
  | close (delivered : Nat)
  | receive
  | route (pipeline : LinkedPipeline)
  | routed
  | streamEnd
  | reconnect
  | stop
  deriving DecidableEq

/-- The version of the list, or none if it failed. -/
def fetchLatestResourceVersion : Except ApiError Nat → Option Nat
  | .error _ => none
  | .ok resourceVersion => some resourceVersion

/-- What a new stream starts with: the changes behind the version, or the current object if no
version is given. -/
def startEvents (s : State) : Option Nat → List WatchEvent
  | some resourceVersion =>
    (s.changes.filter fun c => resourceVersion < c.revision).map .secret
  | none =>
    match s.object with
    | some revision => [.secret ⟨.added, revision⟩]
    | none => []

def processEvent (linked : List LinkedPipeline) : WatchEvent → Phase
  | .error => .waiting
  | .other => .receiving
  | .secret _ => .routing linked

/-- A Secret is created only if there is none, and changed or deleted only if there is one. -/
def CanChange (object : Option Nat) : ChangeType → Prop
  | .added => object = none
  | .modified | .deleted => object ≠ none

def Enabled (s : State) : Event → Prop
  | .change c => CanChange s.object c.type ∧ c.revision = s.revision + 1
  | .otherObject => True
  | .link pipeline => (link s.linked pipeline).1 = true
  | .unlink _ => True
  | .list answer => s.phase = .listing ∧ ∀ version, answer = .ok version → version = s.revision
  | .watch _ => ∃ version, s.phase = .watching version
  | .sendError | .sendOther | .close _ => s.isOpen = true
  | .receive => s.phase = .receiving ∧ s.pending ≠ []
  | .route pipeline => ∃ rest, s.phase = .routing (pipeline :: rest)
  | .routed => s.phase = .routing []
  | .streamEnd => s.phase = .receiving ∧ s.pending = [] ∧ s.isOpen = false
  | .reconnect | .stop => s.phase = .waiting

def Change.object (c : Change) : Option Nat :=
  match c.type with
  | .deleted => none
  | _ => some c.revision

/-- An open stream delivers what happens, in its order. -/
def State.deliver (s : State) (e : WatchEvent) : State :=
  if s.isOpen then { s with pending := s.pending ++ [e] } else s

def next (s : State) : Event → State
  | .change c =>
    { s with
      revision := c.revision
      object := c.object
      changes := s.changes ++ [c] }.deliver (.secret c)
  | .otherObject => { s with revision := s.revision + 1 }
  | .link pipeline => { s with linked := (link s.linked pipeline).2 }
  | .unlink pipeline => { s with linked := (unlink s.linked pipeline).2 }
  | .list answer => { s with phase := .watching (fetchLatestResourceVersion answer) }
  | .watch answer =>
    match s.phase, answer with
    | .watching version, .ok () =>
      { s with phase := .receiving, pending := startEvents s version, isOpen := true }
    | _, _ => { s with phase := .waiting }
  | .sendError => s.deliver .error
  | .sendOther => s.deliver .other
  -- what was not delivered yet may be lost with the connection
  | .close delivered => { s with pending := s.pending.take delivered, isOpen := false }
  | .receive =>
    match s.pending with
    | [] => s
    | e :: rest =>
      let received := match e with
        | .secret c => max s.received c.revision
        | _ => s.received
      match processEvent s.linked e with
      | .waiting => { s with phase := .waiting, pending := [], isOpen := false }
      | phase => { s with phase := phase, pending := rest, received := received }
  | .route _ =>
    match s.phase with
    | .routing (_ :: rest) => { s with phase := .routing rest }
    | _ => s
  | .routed => { s with phase := .receiving }
  | .streamEnd => { s with phase := .waiting }
  | .reconnect => { s with phase := .listing }
  | .stop => { s with phase := .stopped }

def watcher : Machine State Event := ⟨Enabled, next⟩

/-- There is an established watch and all events delivered on it are processed. -/
def IsIdle (s : State) : Prop := s.phase = .receiving ∧ s.isOpen ∧ s.pending = []

/-- Since every change the pipeline was triggered, unless it was linked after the change. -/
def Announced (pipeline : LinkedPipeline) (trace : List Event) : Prop :=
  ∀ later c earlier, trace = later ++ .change c :: earlier →
    .route pipeline ∈ later ∨ .link pipeline ∈ later

/-- If the Secret has changed since the last event that was received, a new stream starts with an
event. -/
def NoGap (s : State) : Event → Prop
  | .watch (.ok ()) => ∀ version, s.phase = .watching version →
      (∃ c ∈ s.changes, s.received < c.revision) → startEvents s version ≠ []
  | _ => True

/-- The revisions that the server and the watcher know are in order, and an open stream makes up for
all that was not received yet. -/
structure Sound (s : State) : Prop where
  changes : ∀ c ∈ s.changes, c.revision ≤ s.revision
  object : ∀ version, s.object = some version → version ≤ s.revision
  newest : ∀ version, s.object = some version → ∀ c ∈ s.changes, c.revision ≤ version
  pending : ∀ c, .secret c ∈ s.pending → c.revision ≤ s.revision
  received : s.received ≤ s.revision
  isOpen : s.isOpen → s.phase = .receiving ∨ ∃ pipelines, s.phase = .routing pipelines
  covered : s.isOpen → ∀ c ∈ s.changes, s.received < c.revision →
    ∃ c', .secret c' ∈ s.pending ∧ c.revision ≤ c'.revision

variable {s : State} {e : Event} {trace : List Event}

/-- The server's side of the invariant depends on the phase only through the stream. -/
theorem Sound.withPhase (h : Sound s) (phase : Phase)
    (hphase : s.isOpen → phase = .receiving ∨ ∃ pipelines, phase = .routing pipelines) :
    Sound { s with phase := phase } :=
  { h with isOpen := hphase }

theorem Sound.closed (h : Sound s) {phase : Phase} (hphase : s.phase = phase)
    (hreceiving : phase ≠ .receiving) (hrouting : ∀ pipelines, phase ≠ .routing pipelines) :
    ¬ s.isOpen := by
  subst hphase
  intro hopen
  rcases h.isOpen hopen with hs | ⟨pipelines, hs⟩
  · exact hreceiving hs
  · exact hrouting pipelines hs

theorem Sound.deliver (h : Sound s) {e : WatchEvent}
    (he : ∀ c, e = .secret c → c.revision ≤ s.revision) :
    Sound (s.deliver e) := by
  unfold State.deliver
  split
  · refine { h with pending := ?_, covered := ?_ }
    · intro c hc
      rcases List.mem_append.mp hc with hc | hc
      · exact h.pending c hc
      · exact he c (List.mem_singleton.mp hc).symm
    · intro hopen c hc hlt
      obtain ⟨c', hc', hle⟩ := h.covered hopen c hc hlt
      exact ⟨c', List.mem_append_left _ hc', hle⟩
  · exact h

theorem Sound.change (h : Sound s) {c : Change} (hrevision : c.revision = s.revision + 1) :
    Sound (next s (.change c)) := by
  have hobject : ∀ version, c.object = some version → version = c.revision := by
    intro version hversion
    unfold Change.object at hversion
    split at hversion <;> cases hversion
    rfl
  have hchanges : ∀ c' ∈ s.changes ++ [c], c'.revision ≤ c.revision := by
    intro c' hc'
    rcases List.mem_append.mp hc' with hc' | hc'
    · have hle := h.changes c' hc'
      omega
    · exact Nat.le_of_eq (congrArg Change.revision (List.mem_singleton.mp hc'))
  have hnewest : ∀ version, c.object = some version → ∀ c' ∈ s.changes ++ [c],
      c'.revision ≤ version := by
    intro version hversion
    rw [hobject version hversion]
    exact hchanges
  have hpending : ∀ c', .secret c' ∈ s.pending → c'.revision ≤ c.revision := by
    intro c' hc'
    have hle := h.pending c' hc'
    omega
  have hreceived : s.received ≤ c.revision := by
    have hle := h.received
    omega
  simp only [next, State.deliver]
  split
  · refine ⟨hchanges, fun version hversion => Nat.le_of_eq (hobject version hversion), hnewest, ?_,
      hreceived, h.isOpen, ?_⟩
    · intro c' hc'
      rcases List.mem_append.mp hc' with hc' | hc'
      · exact hpending c' hc'
      · cases List.mem_singleton.mp hc'
        exact Nat.le_refl _
    · intro _ c' hc' _
      exact ⟨c, List.mem_append_right _ List.mem_cons_self, hchanges c' hc'⟩
  · next hclosed =>
    exact ⟨hchanges, fun version hversion => Nat.le_of_eq (hobject version hversion), hnewest,
      hpending, hreceived, h.isOpen, fun hopen => absurd hopen hclosed⟩

theorem startEvents_le (h : Sound s) {version : Option Nat} {c : Change}
    (hc : .secret c ∈ startEvents s version) : c.revision ≤ s.revision := by
  cases version with
  | some version =>
    simp only [startEvents, List.mem_map, List.mem_filter] at hc
    obtain ⟨c', ⟨hc', -⟩, heq⟩ := hc
    cases heq
    exact h.changes c hc'
  | none =>
    simp only [startEvents] at hc
    split at hc
    · next revision hobject =>
      cases List.mem_singleton.mp hc
      exact h.object revision hobject
    · cases hc

/-- A stream that starts with an event covers all changes before. -/
theorem startEvents_covers (h : Sound s) {version : Option Nat} (hne : startEvents s version ≠ [])
    {c : Change} (hc : c ∈ s.changes) :
    ∃ c', .secret c' ∈ startEvents s version ∧ c.revision ≤ c'.revision := by
  cases version with
  | some version =>
    simp only [startEvents] at hne ⊢
    by_cases hlt : version < c.revision
    · refine ⟨c, List.mem_map_of_mem (List.mem_filter.mpr ⟨hc, by simpa using hlt⟩),
        Nat.le_refl _⟩
    · -- the changes that the stream starts with are newer
      obtain ⟨e, he⟩ := List.exists_mem_of_ne_nil _ hne
      obtain ⟨c', hc', rfl⟩ := List.mem_map.mp he
      have hnewer : version < c'.revision := by simpa using (List.mem_filter.mp hc').2
      exact ⟨c', he, by omega⟩
  | none =>
    simp only [startEvents] at hne ⊢
    split at hne
    · next revision hobject => exact ⟨_, List.mem_cons_self, h.newest revision hobject c hc⟩
    · exact absurd rfl hne

theorem Sound.receive (h : Sound s) : Sound (next s .receive) := by
  cases hpending : s.pending with
  | nil =>
    simp only [next, hpending]
    exact h
  | cons e rest =>
    have hrest : ∀ c, .secret c ∈ rest → c.revision ≤ s.revision := by
      intro c hc
      refine h.pending c ?_
      rw [hpending]
      exact List.mem_cons_of_mem _ hc
    cases e with
    | error =>
      simp only [next, hpending, processEvent]
      exact { h with pending := nofun, isOpen := nofun, covered := nofun }
    | other =>
      simp only [next, hpending, processEvent]
      refine { h with pending := hrest, isOpen := fun _ => .inl rfl, covered := ?_ }
      intro hopen c hc hlt
      obtain ⟨c', hc', hle⟩ := h.covered hopen c hc hlt
      rw [hpending] at hc'
      rcases List.mem_cons.mp hc' with hc' | hc'
      · cases hc'
      · exact ⟨c', hc', hle⟩
    | secret c₀ =>
      have hc₀ : c₀.revision ≤ s.revision :=
        h.pending c₀ (by rw [hpending]; exact List.mem_cons_self)
      simp only [next, hpending, processEvent]
      refine ⟨h.changes, h.object, h.newest, hrest, Nat.max_le.mpr ⟨h.received, hc₀⟩,
        fun _ => .inr ⟨s.linked, rfl⟩, ?_⟩
      intro hopen c hc hlt
      obtain ⟨hold, hnew⟩ := Nat.max_lt.mp hlt
      obtain ⟨c', hc', hle⟩ := h.covered hopen c hc hold
      rw [hpending] at hc'
      rcases List.mem_cons.mp hc' with hc' | hc'
      · cases hc'
        omega
      · exact ⟨c', hc', hle⟩

theorem Sound.next (h : Sound s) (henabled : Enabled s e) (hgap : NoGap s e) :
    Sound (next s e) := by
  cases e with
  | change c => exact h.change henabled.2
  | otherObject =>
    refine ⟨?_, ?_, h.newest, ?_, Nat.le_succ_of_le h.received, h.isOpen, h.covered⟩
    · exact fun c hc => Nat.le_succ_of_le (h.changes c hc)
    · exact fun version hversion => Nat.le_succ_of_le (h.object version hversion)
    · exact fun c hc => Nat.le_succ_of_le (h.pending c hc)
  | link pipeline | unlink pipeline => exact { h with }
  | list answer => exact h.withPhase _ fun hopen => absurd hopen (h.closed henabled.1 nofun nofun)
  | watch answer =>
    obtain ⟨version, hphase⟩ := henabled
    have hclosed := h.closed hphase nofun nofun
    simp only [SecretWatch.next, hphase]
    cases answer with
    | error err => exact h.withPhase _ fun hopen => absurd hopen hclosed
    | ok u =>
      refine { h with
        pending := fun c hc => startEvents_le h hc, isOpen := fun _ => .inl rfl, covered := ?_ }
      intro _ c hc hlt
      exact startEvents_covers h (hgap version hphase ⟨c, hc, hlt⟩) hc
  | sendError | sendOther => exact h.deliver nofun
  | close delivered =>
    exact { h with
      pending := fun c hc => h.pending c (List.mem_of_mem_take hc)
      isOpen := nofun
      covered := nofun }
  | receive => exact h.receive
  | route pipeline =>
    obtain ⟨rest, hphase⟩ := henabled
    simp only [SecretWatch.next, hphase]
    exact h.withPhase _ fun _ => .inr ⟨rest, rfl⟩
  | routed => exact h.withPhase _ fun _ => .inl rfl
  | streamEnd =>
    refine h.withPhase _ fun hopen => ?_
    rw [henabled.2.2] at hopen
    cases hopen
  | reconnect | stop =>
    exact h.withPhase _ fun hopen => absurd hopen (h.closed henabled nofun nofun)

def AnnouncedUpTo (revision : Nat) (pipeline : LinkedPipeline) (trace : List Event) : Prop :=
  ∀ later c earlier, trace = later ++ .change c :: earlier → c.revision ≤ revision →
    .route pipeline ∈ later ∨ .link pipeline ∈ later

theorem AnnouncedUpTo.cons {revision : Nat} {pipeline : LinkedPipeline}
    (h : AnnouncedUpTo revision pipeline trace) (he : ∀ c, e = .change c → revision < c.revision) :
    AnnouncedUpTo revision pipeline (e :: trace) := by
  intro later c earlier htrace hle
  cases later with
  | nil =>
    obtain ⟨hchange, -⟩ := List.cons.inj htrace
    have hlt := he c hchange
    omega
  | cons e' later =>
    obtain ⟨-, htrace⟩ := List.cons.inj htrace
    exact (h later c earlier htrace hle).imp (List.mem_cons_of_mem _) (List.mem_cons_of_mem _)

/-- A pipeline that was just triggered or linked misses nothing. -/
theorem announcedUpTo_of_head {revision : Nat} {pipeline : LinkedPipeline}
    (he : e = .route pipeline ∨ e = .link pipeline) :
    AnnouncedUpTo revision pipeline (e :: trace) := by
  intro later c earlier htrace _
  cases later with
  | nil =>
    obtain ⟨rfl, -⟩ := List.cons.inj htrace
    rcases he with he | he <;> cases he
  | cons e' later =>
    obtain ⟨rfl, -⟩ := List.cons.inj htrace
    rcases he with rfl | rfl <;> simp

/-- What was received is announced, except to the pipelines that are still to be triggered. -/
def AnnouncedIn (trace : List Event) (s : State) : Prop :=
  ∀ pipeline ∈ s.linked, (∀ pipelines, s.phase = .routing pipelines → pipeline ∉ pipelines) →
    AnnouncedUpTo s.received pipeline trace

/-- Most events neither link nor trigger a pipeline. -/
theorem AnnouncedIn.keep {t : State} (h : AnnouncedIn trace s)
    (he : ∀ c, e = .change c → s.received < c.revision) (hlinked : t.linked = s.linked)
    (hreceived : t.received = s.received)
    (hphase : ∀ pipelines, s.phase = .routing pipelines → pipelines = [] ∨ t.phase = s.phase) :
    AnnouncedIn (e :: trace) t := by
  intro pipeline hpipeline hrouting
  rw [hlinked] at hpipeline
  rw [hreceived]
  refine (h pipeline hpipeline fun pipelines hs => ?_).cons he
  rcases hphase pipelines hs with rfl | hsame
  · exact List.not_mem_nil
  · exact hrouting pipelines (hsame.trans hs)

theorem AnnouncedIn.deliver (h : AnnouncedIn trace s) (w : WatchEvent)
    (he : ∀ c, e = .change c → s.received < c.revision) :
    AnnouncedIn (e :: trace) (s.deliver w) := by
  unfold State.deliver
  split <;> exact h.keep he rfl rfl fun _ _ => .inr rfl

theorem AnnouncedIn.next (h : AnnouncedIn trace s) (hsound : Sound s) (henabled : Enabled s e) :
    AnnouncedIn (e :: trace) (next s e) := by
  -- the loop is at another place than in a round of triggers
  have hleave : ∀ {t : State} {phase : Phase}, (∀ c, e ≠ .change c) → t.linked = s.linked →
      t.received = s.received → s.phase = phase → (∀ pipelines, phase ≠ .routing pipelines) →
      AnnouncedIn (e :: trace) t := by
    intro t phase he hlinked hreceived hphase hne
    refine h.keep (fun c hc => absurd hc (he c)) hlinked hreceived fun pipelines hs => ?_
    exact absurd (hphase.symm.trans hs) (hne pipelines)
  cases e with
  | change c =>
    have hlt : s.received < c.revision := by
      have hle := hsound.received
      have hrevision := henabled.2
      omega
    have hrecord : AnnouncedIn trace
        { s with revision := c.revision, object := c.object, changes := s.changes ++ [c] } := h
    exact hrecord.deliver _ fun c' hc' => by cases hc'; exact hlt
  | otherObject => exact h.keep nofun rfl rfl fun _ _ => .inr rfl
  | link pipeline =>
    intro p hp hrouting
    have hadded : (link s.linked pipeline).2 = s.linked ++ [pipeline] := by
      have hnew : (link s.linked pipeline).1 := henabled
      unfold link at hnew ⊢
      split at hnew
      · cases hnew
      · next hany => rw [if_neg hany]
    have hp : p ∈ s.linked ++ [pipeline] := by rwa [← hadded]
    rcases List.mem_append.mp hp with hp | hp
    · exact (h p hp hrouting).cons nofun
    · rw [List.mem_singleton.mp hp]
      exact announcedUpTo_of_head (.inr rfl)
  | unlink pipeline =>
    intro p hp hrouting
    exact (h p (List.mem_of_mem_filter hp) hrouting).cons nofun
  | list answer => exact hleave nofun rfl rfl henabled.1 nofun
  | watch answer =>
    obtain ⟨version, hphase⟩ := henabled
    simp only [SecretWatch.next, hphase]
    cases answer <;> exact hleave nofun rfl rfl hphase nofun
  | sendError | sendOther => exact h.deliver _ nofun
  | close delivered => exact h.keep nofun rfl rfl fun _ _ => .inr rfl
  | receive =>
    cases hpending : s.pending with
    | nil => exact absurd hpending henabled.2
    | cons w rest =>
      cases w with
      | error | other =>
        simp only [SecretWatch.next, hpending, processEvent]
        exact hleave nofun rfl rfl henabled.1 nofun
      | secret c =>
        simp only [SecretWatch.next, hpending, processEvent]
        -- every linked pipeline is to be triggered
        intro p hp hrouting
        exact absurd hp (hrouting s.linked rfl)
  | route pipeline =>
    obtain ⟨rest, hphase⟩ := henabled
    simp only [SecretWatch.next, hphase]
    intro p hp hrouting
    by_cases heq : p = pipeline
    · exact announcedUpTo_of_head (.inl (by rw [heq]))
    · refine (h p hp fun pipelines hs => ?_).cons nofun
      cases hphase.symm.trans hs
      have hrest := hrouting rest rfl
      simp [heq, hrest]
  | routed =>
    refine h.keep nofun rfl rfl fun pipelines hs => .inl ?_
    cases henabled.symm.trans hs
    rfl
  | streamEnd => exact hleave nofun rfl rfl henabled.1 nofun
  | reconnect | stop => exact hleave nofun rfl rfl henabled nofun

theorem mem_next_changes {c : Change} (hc : c ∈ s.changes ∨ e = .change c) :
    c ∈ (next s e).changes := by
  have hdeliver : ∀ (t : State) (w : WatchEvent), (t.deliver w).changes = t.changes := by
    intro t w
    unfold State.deliver
    split <;> rfl
  cases e with
  | change c' =>
    simp only [next, hdeliver, List.mem_append, List.mem_singleton]
    exact hc.imp_right fun heq => by cases heq; rfl
  | _ =>
    have hmem : c ∈ s.changes := by
      refine hc.resolve_right fun heq => ?_
      cases heq
    simp only [next, hdeliver]
    repeat' split
    all_goals exact hmem

structure Inv (trace : List Event) (s : State) : Prop where
  sound : Sound s
  recorded : ∀ c, .change c ∈ trace → c ∈ s.changes
  announced : AnnouncedIn trace s

theorem inv_newWatcher {pipeline : LinkedPipeline} {revision : Nat} {object : Option Nat}
    (hobject : ∀ version, object = some version → version ≤ revision) :
    Inv [] (newWatcher pipeline revision object) where
  sound := ⟨nofun, hobject, nofun, nofun, Nat.le_refl _, nofun, nofun⟩
  recorded := nofun
  announced := by
    intro p _ _ later c earlier htrace
    simp at htrace

theorem Inv.next (h : Inv trace s) (henabled : Enabled s e) (hgap : NoGap s e) :
    Inv (e :: trace) (next s e) where
  sound := h.sound.next henabled hgap
  recorded := by
    intro c hc
    refine mem_next_changes ?_
    rcases List.mem_cons.mp hc with rfl | hc
    · exact .inr rfl
    · exact .inl (h.recorded c hc)
  announced := h.announced.next h.sound henabled

/-- In every run without a gap, whenever the watcher is idle, every linked pipeline was triggered
after the latest change since it was linked. -/
theorem no_gap_announces_changes {pipeline : LinkedPipeline} {revision : Nat} {object : Option Nat}
    (hobject : ∀ version, object = some version → version ≤ revision)
    (hrun : watcher.Run NoGap (newWatcher pipeline revision object) trace s) (hidle : IsIdle s) :
    ∀ p ∈ s.linked, Announced p trace := by
  have hinv : Inv trace s := hrun.invariant (inv_newWatcher hobject)
    fun _ _ _ hinv henabled hgap => hinv.next henabled hgap
  obtain ⟨hphase, hopen, hpending⟩ := hidle
  intro p hp later c earlier htrace
  refine hinv.announced p hp (fun pipelines hrouting => ?_) later c earlier htrace ?_
  · cases hphase.symm.trans hrouting
  · -- nothing is left to be received
    by_contra hlt
    have hc : c ∈ s.changes := hinv.recorded c (by simp [htrace])
    obtain ⟨c', hc', -⟩ := hinv.sound.covered hopen c hc (by omega)
    rw [hpending] at hc'
    cases hc'

def samplePipeline : LinkedPipeline := ⟨.tracePipeline, "backend"⟩

/-- The Secret is changed while it is watched. -/
def watchedTrace : List Event :=
  [.routed, .route samplePipeline, .receive, .change ⟨.modified, 2⟩, .watch (.ok ()), .list (.ok 1)]

theorem watched_change_announced :
    IsIdle (watcher.after (newWatcher samplePipeline 1 (some 1)) watchedTrace) ∧
      Announced samplePipeline watchedTrace := by
  have hidle : IsIdle (watcher.after (newWatcher samplePipeline 1 (some 1)) watchedTrace) :=
    ⟨rfl, rfl, rfl⟩
  have hpossible : watcher.Possible NoGap (newWatcher samplePipeline 1 (some 1)) watchedTrace := by
    simp [watchedTrace, newWatcher, Machine.Possible, Machine.after, watcher, Enabled, next, NoGap,
      CanChange, State.deliver, startEvents, fetchLatestResourceVersion, processEvent]
  exact ⟨hidle, no_gap_announces_changes (by simp) (Machine.run_of_possible hpossible) hidle
    samplePipeline (by decide)⟩

/-- The stream ends, and the Secret is changed before the watcher lists it again. -/
def reconnectTrace : List Event :=
  [.watch (.ok ()), .list (.ok 2), .reconnect, .change ⟨.modified, 2⟩, .streamEnd, .close 0,
   .watch (.ok ()), .list (.ok 1)]

/-- The watcher is idle again and the change was never announced. -/
theorem reconnect_loses_change :
    watcher.Run (fun _ _ => True) (newWatcher samplePipeline 1 (some 1)) reconnectTrace
        (watcher.after (newWatcher samplePipeline 1 (some 1)) reconnectTrace) ∧
      IsIdle (watcher.after (newWatcher samplePipeline 1 (some 1)) reconnectTrace) ∧
      samplePipeline ∈ (watcher.after
        (newWatcher samplePipeline 1 (some 1)) reconnectTrace).linked ∧
      ¬ Announced samplePipeline reconnectTrace := by
  refine ⟨Machine.run_of_possible ?_, ⟨rfl, rfl, rfl⟩, by decide, ?_⟩
  · simp [reconnectTrace, newWatcher, Machine.Possible, Machine.after, watcher, Enabled, next,
      CanChange, State.deliver, startEvents, fetchLatestResourceVersion]
  · intro hannounced
    have hlater := hannounced (reconnectTrace.take 3) ⟨.modified, 2⟩ (reconnectTrace.drop 4) rfl
    revert hlater
    decide

end TelemetryManager.SecretWatch
