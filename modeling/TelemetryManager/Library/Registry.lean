import Mathlib.Data.List.AList

/-! A registry in which the first registration of a key wins.
Later registrations of the same key are ignored, so everyone finds the value they registered
exactly if no two registrations disagree. -/
namespace Registry

variable {K V : Type} [DecidableEq K]

/-- Finite maps with non-dependent values. -/
abbrev Map (K V : Type) := AList fun _ : K => V

def insertNew (k : K) (v : V) (m : Map K V) : Map K V := if k ∈ m then m else m.insert k v

theorem lookup_insertNew (k k' : K) (v : V) (m : Map K V) :
    (insertNew k v m).lookup k' = (m.lookup k').or (if k' = k then some v else none) := by
  unfold insertNew
  by_cases hk : k ∈ m
  · rw [if_pos hk]
    by_cases hkk : k' = k
    · subst hkk
      have hsome := AList.lookup_isSome.mpr hk
      cases hl : m.lookup k' with
      | none => simp [hl] at hsome
      | some w => simp
    · simp [hkk]
  · rw [if_neg hk]
    by_cases hkk : k' = k
    · subst hkk
      simp [AList.lookup_insert, AList.lookup_eq_none.mpr hk]
    · simp [AList.lookup_insert_ne hkk, hkk]

theorem mem_insertNew {k k' : K} {v : V} {m : Map K V} :
    k' ∈ insertNew k v m ↔ k' = k ∨ k' ∈ m := by
  unfold insertNew
  split <;> simp_all

def registerAll (entries : List (K × V)) (m : Map K V) : Map K V :=
  entries.foldl (fun m e => insertNew e.1 e.2 m) m

@[simp] theorem registerAll_nil (m : Map K V) : registerAll [] m = m := rfl

@[simp] theorem registerAll_cons (e : K × V) (entries : List (K × V)) (m : Map K V) :
    registerAll (e :: entries) m = registerAll entries (insertNew e.1 e.2 m) := rfl

theorem registerAll_append (entries entries' : List (K × V)) (m : Map K V) :
    registerAll (entries ++ entries') m = registerAll entries' (registerAll entries m) :=
  List.foldl_append

theorem mem_registerAll {entries : List (K × V)} {m : Map K V} {k : K} :
    k ∈ registerAll entries m ↔ k ∈ m ∨ k ∈ entries.map Prod.fst := by
  induction entries generalizing m with
  | nil => simp
  | cons e entries ih => simp only [registerAll_cons, ih, mem_insertNew, List.map_cons,
      List.mem_cons, or_left_comm, or_assoc]

theorem lookup_registerAll (entries : List (K × V)) (m : Map K V) (k : K) :
    (registerAll entries m).lookup k = (m.lookup k).or (entries.lookup k) := by
  induction entries generalizing m with
  | nil => simp
  | cons e entries ih =>
    rw [registerAll_cons, ih, lookup_insertNew, List.lookup_cons]
    by_cases hk : k = e.1
    · simp [hk]
    · have hne : (k == e.1) = false := by simpa using hk
      simp [hk, hne]

theorem lookup_registerAll_of_agree {entries : List (K × V)} {e : K × V} (he : e ∈ entries)
    (hagree : ∀ e' ∈ entries, e.1 = e'.1 → e.2 = e'.2) :
    (registerAll entries ∅).lookup e.1 = some e.2 := by
  rw [lookup_registerAll, AList.lookup_empty, Option.none_or]
  obtain ⟨v, hv⟩ : ∃ v, entries.lookup e.1 = some v :=
    Option.isSome_iff_exists.mp (List.lookup_isSome_iff.mpr ⟨e, he, by simp⟩)
  obtain ⟨pre, post, hsplit, _⟩ := List.lookup_eq_some_iff.mp hv
  have hmem : (e.1, v) ∈ entries := by simp [hsplit]
  rw [hv, hagree (e.1, v) hmem rfl]

/-- Every entry is found as it was registered if and only if entries of one key agree. -/
theorem registerAll_faithful_iff (entries : List (K × V)) :
    (∀ e ∈ entries, (registerAll entries ∅).lookup e.1 = some e.2) ↔
      ∀ e ∈ entries, ∀ e' ∈ entries, e.1 = e'.1 → e.2 = e'.2 := by
  constructor
  · intro h e he e' he' hkey
    have hfirst := h e he
    have hsecond := h e' he'
    rw [hkey, hsecond] at hfirst
    exact (Option.some.inj hfirst).symm
  · intro h e he
    exact lookup_registerAll_of_agree he (h e he)

end Registry
