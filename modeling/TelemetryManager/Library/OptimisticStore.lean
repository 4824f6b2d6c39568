import Mathlib.Data.List.Basic

/-! A store for one object under optimistic concurrency control.
Every write gives the object a fresh version. A write is accepted only if it carries the current
version, so that it was computed from the current object, however stale reads may be. -/
namespace OptimisticStore

structure Versioned (α : Type) where
  version : α → Nat
  stamp : Nat → α → α
  version_stamp : ∀ n a, version (stamp n a) = n

/-- The current object, all objects stored so far and the last version given. A version is
never given twice. -/
structure Store {α : Type} (v : Versioned α) where
  current : Option α
  past : List α
  lastVersion : Nat
  bounded : ∀ a ∈ past, v.version a ≤ lastVersion
  latest : ∀ c, current = some c → ∀ a ∈ past, v.version a = v.version c → a = c

variable {α : Type} {v : Versioned α}

def Store.init (v : Versioned α) (current : Option α) : Store v where
  current := current
  past := current.toList
  lastVersion := (current.map v.version).getD 0
  bounded := by
    intro a ha
    cases current with
    | none => cases ha
    | some c =>
      simp only [Option.toList_some, List.mem_singleton] at ha
      simp [ha]
  latest := by
    intro c hc a ha _
    subst hc
    simpa using ha

def Store.put (s : Store v) (a : α) : Store v where
  current := some (v.stamp (s.lastVersion + 1) a)
  past := v.stamp (s.lastVersion + 1) a :: s.past
  lastVersion := s.lastVersion + 1
  bounded := by
    intro b hb
    rcases List.mem_cons.mp hb with rfl | hb
    · exact Nat.le_of_eq (v.version_stamp _ a)
    · exact Nat.le_succ_of_le (s.bounded b hb)
  latest := by
    intro c hc b hb hversion
    cases hc
    rcases List.mem_cons.mp hb with rfl | hb
    · rfl
    · have hle := s.bounded b hb
      rw [hversion, v.version_stamp] at hle
      omega

def Store.delete (s : Store v) : Store v := { s with current := none, latest := nofun }

/-- The answers of the store to a read: it may be stale. -/
def Store.MayRead (s : Store v) (a : α) : Prop := a ∈ s.past

def Store.Recorded (s : Store v) : Prop := ∀ c, s.current = some c → s.MayRead c

theorem Store.recorded_init (current : Option α) : (Store.init v current).Recorded := by
  intro c hc
  change c ∈ current.toList
  rw [show current = some c from hc]
  exact List.mem_singleton_self c

theorem Store.recorded_put (s : Store v) (a : α) : (s.put a).Recorded := by
  intro c hc
  cases hc
  exact List.mem_cons_self

theorem Store.recorded_delete (s : Store v) : s.delete.Recorded := nofun

/-- The store accepts the creation of an object only if there is none. -/
def Store.AcceptsCreate (s : Store v) : Prop := s.current = none

/-- The store accepts an object only if it carries the current version. -/
def Store.AcceptsUpdate (s : Store v) (a : α) : Prop :=
  ∃ c, s.current = some c ∧ v.version c = v.version a

/-- An accepted update was computed from the current object. -/
theorem Store.AcceptsUpdate.current_eq {s : Store v} {a b : α} (h : s.AcceptsUpdate a)
    (hread : s.MayRead b) (hversion : v.version b = v.version a) : s.current = some b := by
  obtain ⟨c, hc, hv⟩ := h
  rw [hc, s.latest c hc b hread (hversion.trans hv.symm)]

end OptimisticStore
