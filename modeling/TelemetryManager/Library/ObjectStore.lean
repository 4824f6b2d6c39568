import Mathlib.Data.List.AList
import TelemetryManager.Library.Hoare

/-! A server for objects under keys. The server remembers which keys it has created objects under.
It may store an object differently from how it was sent, and a request that fails may have had its
effect. -/
namespace ObjectStore

open Interaction

variable (Key Val : Type)

inductive Req where
  | get (key : Key)
  | create (key : Key) (val : Val)
  | update (key : Key) (val : Val)
  | delete (key : Key)
  | list (selects : Key → Val → Bool)

variable (Err : Type)

abbrev Resp : Req Key Val → Type
  | .get _ => Except Err Val
  | .create _ _ | .update _ _ | .delete _ => Except Err Unit
  | .list _ => Except Err (List Key)

structure Store where
  objects : AList fun _ : Key => Val
  created : List Key

variable {Key Val Err} [DecidableEq Key]

namespace Store

def get (s : Store Key Val) (key : Key) : Option Val := s.objects.lookup key

def create (s : Store Key Val) (key : Key) (val : Val) : Store Key Val where
  objects := s.objects.insert key val
  created := key :: s.created

def put (s : Store Key Val) (key : Key) (val : Val) : Store Key Val :=
  { s with objects := s.objects.insert key val }

def remove (s : Store Key Val) (key : Key) : Store Key Val :=
  { s with objects := s.objects.erase key }

def list (s : Store Key Val) (selects : Key → Val → Bool) : List Key :=
  (s.objects.entries.filter fun e => selects e.1 e.2).map Sigma.fst

variable {s : Store Key Val} {key k : Key} {val : Val}

@[simp] theorem get_create_self : (s.create key val).get key = some val :=
  AList.lookup_insert _

@[simp] theorem get_put_self : (s.put key val).get key = some val :=
  AList.lookup_insert _

@[simp] theorem get_remove_self : (s.remove key).get key = none :=
  AList.lookup_erase _ _

theorem get_create_of_ne (h : k ≠ key) : (s.create key val).get k = s.get k :=
  AList.lookup_insert_ne h

theorem get_put_of_ne (h : k ≠ key) : (s.put key val).get k = s.get k :=
  AList.lookup_insert_ne h

theorem get_remove_of_ne (h : k ≠ key) : (s.remove key).get k = s.get k :=
  AList.lookup_erase_ne h

@[simp] theorem created_create : (s.create key val).created = key :: s.created := rfl

@[simp] theorem created_put : (s.put key val).created = s.created := rfl

@[simp] theorem created_remove : (s.remove key).created = s.created := rfl

theorem mem_list_iff {selects : Key → Val → Bool} :
    key ∈ s.list selects ↔ ∃ val, s.get key = some val ∧ selects key val := by
  simp only [list, List.mem_map, List.mem_filter]
  constructor
  · rintro ⟨⟨k, val⟩, ⟨hmem, hselects⟩, rfl⟩
    exact ⟨val, AList.mem_lookup_iff.mpr hmem, hselects⟩
  · rintro ⟨val, hget, hselects⟩
    exact ⟨⟨key, val⟩, ⟨AList.mem_lookup_iff.mp hget, hselects⟩, rfl⟩

omit [DecidableEq Key] in
theorem nodup_list (selects : Key → Val → Bool) : (s.list selects).Nodup :=
  s.objects.nodupKeys.sublist List.filter_sublist

end Store

/-- The answers of the server. `Stores` relates what is sent to what is stored for it, and only
objects that do not exist are not found. -/
inductive Serves (Stores : Val → Val → Prop) (notFound : Err) :
    Store Key Val → (r : Req Key Val) → Resp Key Val Err r → Store Key Val → Prop where
  | get {s : Store Key Val} {key : Key} {val : Val} (h : s.get key = some val) :
      Serves Stores notFound s (.get key) (.ok val) s
  | getMissing {s : Store Key Val} {key : Key} (h : s.get key = none) :
      Serves Stores notFound s (.get key) (.error notFound) s
  | getFails {s : Store Key Val} {key : Key} {err : Err} (h : err ≠ notFound) :
      Serves Stores notFound s (.get key) (.error err) s
  | create {s : Store Key Val} {key : Key} {val stored : Val} (h : s.get key = none)
      (hstores : Stores val stored) :
      Serves Stores notFound s (.create key val) (.ok ()) (s.create key stored)
  | createFails {s t : Store Key Val} {key : Key} {val : Val} {err : Err}
      (h : t = s ∨ ∃ stored, s.get key = none ∧ Stores val stored ∧ t = s.create key stored) :
      Serves Stores notFound s (.create key val) (.error err) t
  | update {s : Store Key Val} {key : Key} {val stored : Val} (h : s.get key ≠ none)
      (hstores : Stores val stored) :
      Serves Stores notFound s (.update key val) (.ok ()) (s.put key stored)
  | updateFails {s t : Store Key Val} {key : Key} {val : Val} {err : Err}
      (h : t = s ∨ ∃ stored, s.get key ≠ none ∧ Stores val stored ∧ t = s.put key stored) :
      Serves Stores notFound s (.update key val) (.error err) t
  | delete {s : Store Key Val} {key : Key} (h : s.get key ≠ none) :
      Serves Stores notFound s (.delete key) (.ok ()) (s.remove key)
  | deleteMissing {s : Store Key Val} {key : Key} (h : s.get key = none) :
      Serves Stores notFound s (.delete key) (.error notFound) s
  | deleteFails {s t : Store Key Val} {key : Key} {err : Err} (herr : err ≠ notFound)
      (h : t = s ∨ t = s.remove key) : Serves Stores notFound s (.delete key) (.error err) t
  | list {s : Store Key Val} {selects : Key → Val → Bool} {keys : List Key}
      (h : keys.Perm (s.list selects)) : Serves Stores notFound s (.list selects) (.ok keys) s
  | listFails {s : Store Key Val} {selects : Key → Val → Bool} {err : Err} (h : err ≠ notFound) :
      Serves Stores notFound s (.list selects) (.error err) s

section Requests

variable {Stores : Val → Val → Prop} {notFound : Err} {s t : Store Key Val} {r : Req Key Val}
  {x : Resp Key Val Err r}

theorem Serves.effect (h : Serves Stores notFound s r x t) :
    t = s ∨
    (∃ key val stored, r = .create key val ∧ s.get key = none ∧ Stores val stored ∧
      t = s.create key stored) ∨
    (∃ key val stored, r = .update key val ∧ s.get key ≠ none ∧ Stores val stored ∧
      t = s.put key stored) ∨
    ∃ key, r = .delete key ∧ t = s.remove key := by
  cases h with
  | create h hstored => exact .inr (.inl ⟨_, _, _, rfl, h, hstored, rfl⟩)
  | createFails h =>
    rcases h with rfl | ⟨_, h, hstored, rfl⟩
    · exact .inl rfl
    · exact .inr (.inl ⟨_, _, _, rfl, h, hstored, rfl⟩)
  | update h hstored => exact .inr (.inr (.inl ⟨_, _, _, rfl, h, hstored, rfl⟩))
  | updateFails h =>
    rcases h with rfl | ⟨_, h, hstored, rfl⟩
    · exact .inl rfl
    · exact .inr (.inr (.inl ⟨_, _, _, rfl, h, hstored, rfl⟩))
  | delete => exact .inr (.inr (.inr ⟨_, rfl, rfl⟩))
  | deleteFails _ h =>
    rcases h with rfl | rfl
    · exact .inl rfl
    · exact .inr (.inr (.inr ⟨_, rfl, rfl⟩))
  | _ => exact .inl rfl

theorem get_of_delete {key : Key} {x : Except Err Unit}
    (h : Serves Stores notFound s (.delete key) x t)
    (hx : ∀ err, x = .error err → err = notFound) : t.get key = none := by
  cases h with
  | delete => exact Store.get_remove_self
  | deleteMissing h => exact h
  | deleteFails herr => exact absurd (hx _ rfl) herr

/-- Objects are created under keys in `K` only, and everything written is in `L`. -/
def Permits (K : Key → Prop) (L : Val → Prop) : Req Key Val → Prop
  | .create key val => K key ∧ L val
  | .update _ val => L val
  | _ => True

/-- The keys with a created object are in `K`, and their objects are in `L`. -/
def Accounted (K : Key → Prop) (L : Val → Prop) (s : Store Key Val) : Prop :=
  ∀ key ∈ s.created, K key ∧ ∀ val, s.get key = some val → L val

variable {K : Key → Prop} {L : Val → Prop} {k : Key}

theorem Accounted.served (hstores : ∀ val stored, Stores val stored → L val → L stored)
    (hr : Permits K L r) (h : Serves Stores notFound s r x t) (hs : Accounted K L s) :
    Accounted K L t := by
  rcases h.effect with rfl | ⟨key, val, stored, rfl, -, hstored, rfl⟩ |
    ⟨key, val, stored, rfl, -, hstored, rfl⟩ | ⟨key, rfl, rfl⟩
  · exact hs
  · intro k hk
    by_cases hkey : k = key
    · subst hkey
      refine ⟨hr.1, fun v hv => ?_⟩
      cases Store.get_create_self.symm.trans hv
      exact hstores _ _ hstored hr.2
    · rw [Store.get_create_of_ne hkey]
      exact hs k (List.mem_of_ne_of_mem hkey hk)
  · intro k hk
    refine ⟨(hs k hk).1, fun v hv => ?_⟩
    by_cases hkey : k = key
    · subst hkey
      cases Store.get_put_self.symm.trans hv
      exact hstores _ _ hstored hr
    · exact (hs k hk).2 v (Store.get_put_of_ne hkey ▸ hv)
  · intro k hk
    refine ⟨(hs k hk).1, fun v hv => ?_⟩
    by_cases hkey : k = key
    · subst hkey
      cases Store.get_remove_self.symm.trans hv
    · exact (hs k hk).2 v (Store.get_remove_of_ne hkey ▸ hv)

theorem created_of_served (h : Serves Stores notFound s r x t)
    (hs : s.get k = none ∨ k ∈ s.created) : t.get k = none ∨ k ∈ t.created := by
  rcases h.effect with rfl | ⟨key, _, _, rfl, -, -, rfl⟩ | ⟨key, _, _, rfl, hkey, -, rfl⟩ |
    ⟨key, rfl, rfl⟩
  · exact hs
  · by_cases hk : k = key
    · exact .inr (by simp [hk])
    · rw [Store.get_create_of_ne hk]
      exact hs.imp_right (List.mem_cons_of_mem _)
  · by_cases hk : k = key
    · subst hk
      exact .inr (hs.resolve_left hkey)
    · rwa [Store.get_put_of_ne hk]
  · by_cases hk : k = key
    · exact .inl (by simp [hk])
    · rwa [Store.get_remove_of_ne hk]

/-- The object under the key is not deleted. -/
def Spares (key : Key) : Req Key Val → Prop
  | .delete k => k ≠ key
  | _ => True

theorem present_of_served (hr : Spares k r) (h : Serves Stores notFound s r x t)
    (hs : s.get k ≠ none) : t.get k ≠ none := by
  rcases h.effect with rfl | ⟨key, _, _, rfl, -, -, rfl⟩ | ⟨key, _, _, rfl, -, -, rfl⟩ |
    ⟨key, rfl, rfl⟩
  · exact hs
  · by_cases hk : k = key
    · simp [hk]
    · rwa [Store.get_create_of_ne hk]
  · by_cases hk : k = key
    · simp [hk]
    · rwa [Store.get_put_of_ne hk]
  · rwa [Store.get_remove_of_ne (Ne.symm hr)]

theorem notCreated_of_served (h : Serves Stores notFound s r x t) (hs : s.get k ≠ none)
    (hcreated : k ∉ s.created) : k ∉ t.created := by
  rcases h.effect with rfl | ⟨key, _, _, rfl, hkey, -, rfl⟩ | ⟨_, _, _, rfl, -, -, rfl⟩ |
    ⟨_, rfl, rfl⟩
  · exact hcreated
  · have hk : k ≠ key := by
      rintro rfl
      exact hs hkey
    simp [hk, hcreated]
  · exact hcreated
  · exact hcreated

/-- Nothing is written. -/
def Shrinks : Req Key Val → Prop
  | .create _ _ | .update _ _ => False
  | _ => True

/-- The later store has some of the objects of the earlier one. -/
def Within (t s : Store Key Val) : Prop :=
  t.created = s.created ∧ ∀ key val, t.get key = some val → s.get key = some val

theorem Within.refl (s : Store Key Val) : Within s s := ⟨rfl, fun _ _ => id⟩

theorem Within.trans {u : Store Key Val} (h : Within u t) (h' : Within t s) : Within u s :=
  ⟨h.1.trans h'.1, fun key val hu => h'.2 key val (h.2 key val hu)⟩

theorem within_of_served (hr : Shrinks r) (h : Serves Stores notFound s r x t) : Within t s := by
  rcases h.effect with rfl | ⟨_, _, _, rfl, -⟩ | ⟨_, _, _, rfl, -⟩ | ⟨key, rfl, rfl⟩
  · exact .refl _
  · exact hr.elim
  · exact hr.elim
  · refine ⟨rfl, fun k val hget => ?_⟩
    by_cases hkey : k = key
    · subst hkey
      cases Store.get_remove_self.symm.trans hget
    · rwa [Store.get_remove_of_ne hkey] at hget

end Requests

def Store.answer (notFound alreadyExists : Err) (s : Store Key Val) :
    (r : Req Key Val) → Resp Key Val Err r × Store Key Val
  | .get key => ((s.get key).elim (.error notFound) .ok, s)
  | .create key val =>
    if (s.get key).isSome then (.error alreadyExists, s) else (.ok (), s.create key val)
  | .update key val =>
    if (s.get key).isSome then (.ok (), s.put key val) else (.error notFound, s)
  | .delete key => if (s.get key).isSome then (.ok (), s.remove key) else (.error notFound, s)
  | .list selects => (.ok (s.list selects), s)

theorem serves_answer {Stores : Val → Val → Prop} (hstores : ∀ val, Stores val val)
    (notFound alreadyExists : Err) (s : Store Key Val) (r : Req Key Val) :
    Serves Stores notFound s r (s.answer notFound alreadyExists r).1
      (s.answer notFound alreadyExists r).2 := by
  cases r with
  | get key =>
    cases hget : s.get key with
    | none =>
      simp only [Store.answer, hget]
      exact .getMissing hget
    | some val =>
      simp only [Store.answer, hget]
      exact .get hget
  | create key val =>
    cases hget : s.get key with
    | none =>
      simp only [Store.answer, hget]
      exact .create hget (hstores val)
    | some _ =>
      simp only [Store.answer, hget]
      exact .createFails (.inl rfl)
  | update key val =>
    cases hget : s.get key with
    | none =>
      simp only [Store.answer, hget]
      exact .updateFails (.inl rfl)
    | some _ =>
      simp only [Store.answer, hget]
      exact .update (by simp [hget]) (hstores val)
  | delete key =>
    cases hget : s.get key with
    | none =>
      simp only [Store.answer, hget]
      exact .deleteMissing hget
    | some _ =>
      simp only [Store.answer, hget]
      exact .delete (by simp [hget])
  | list selects => exact .list (.refl _)

end ObjectStore
