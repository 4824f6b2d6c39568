import TelemetryManager.Library.Registry

/-! Maps that are filled position by position under computed keys.
The last write of a key wins, so every position finds the value written for it if no two positions
have the same key. -/
namespace Assignment

open Registry

variable {X K V : Type} [DecidableEq K]

def copy (m source : Map K V) : Map K V :=
  source.entries.foldl (fun m e => m.insert e.1 e.2) m

theorem lookup_copy (m source : Map K V) (k : K) :
    (copy m source).lookup k = (source.lookup k).or (m.lookup k) := by
  suffices h : ∀ (l : List (Sigma fun _ : K => V)) (m : Map K V), l.NodupKeys →
      (l.foldl (fun m e => m.insert e.1 e.2) m).lookup k = (l.dlookup k).or (m.lookup k) from
    h source.entries m source.nodupKeys
  intro l
  induction l with
  | nil => simp
  | cons e l ih =>
    intro m hnodup
    obtain ⟨hnot, hnodup⟩ := List.nodupKeys_cons.mp hnodup
    rw [List.foldl_cons, ih _ hnodup]
    by_cases hk : k = e.1
    · subst hk
      rw [List.dlookup_eq_none.mpr hnot, AList.lookup_insert, List.dlookup_cons_eq]
      rfl
    · rw [AList.lookup_insert_ne hk, List.dlookup_cons_ne _ _ hk]

section Fill

variable (key : X → K) (value : X → V)

def fill (entries : List X) (m : Map K V) : Map K V :=
  entries.foldl (fun m x => m.insert (key x) (value x)) m

def last (k : K) (entries : List X) : Option X := entries.reverse.find? fun x => key x = k

theorem last_append (k : K) (entries entries' : List X) :
    last key k (entries ++ entries') = (last key k entries').or (last key k entries) := by
  rw [last, List.reverse_append, List.find?_append]
  rfl

theorem last_singleton (k : K) (x : X) : last key k [x] = if key x = k then some x else none := by
  by_cases hk : key x = k <;> simp [last, hk]

variable {key} in
theorem last_mem {k : K} {entries : List X} {x : X} (h : last key k entries = some x) :
    x ∈ entries ∧ key x = k := by
  refine ⟨List.mem_reverse.mp (List.mem_of_find?_eq_some h), ?_⟩
  simpa using List.find?_some h

variable {key} in
theorem exists_last {entries : List X} {x : X} (hx : x ∈ entries) :
    ∃ y, last key (key x) entries = some y :=
  Option.isSome_iff_exists.mp (List.find?_isSome.mpr ⟨x, List.mem_reverse.mpr hx, by simp⟩)

theorem lookup_fill (entries : List X) (m : Map K V) (k : K) :
    (fill key value entries m).lookup k = ((last key k entries).map value).or (m.lookup k) := by
  induction entries generalizing m with
  | nil => simp [fill, last]
  | cons x entries ih =>
    have hlast := last_append key k [x] entries
    rw [List.singleton_append, last_singleton] at hlast
    have hfill : fill key value (x :: entries) m =
        fill key value entries (m.insert (key x) (value x)) := rfl
    rw [hfill, ih, hlast]
    by_cases hk : key x = k
    · subst hk
      cases last key (key x) entries <;> simp
    · rw [AList.lookup_insert_ne (Ne.symm hk), if_neg hk, Option.or_none]

variable {key} in
theorem lookup_fill_unique {entries : List X} {m : Map K V} {x : X} (hx : x ∈ entries)
    (hunique : ∀ y ∈ entries, key y = key x → y = x) :
    (fill key value entries m).lookup (key x) = some (value x) := by
  obtain ⟨y, hy⟩ : ∃ y, last key (key x) entries = some y := exists_last hx
  obtain ⟨hmem, hkey⟩ := last_mem hy
  rw [lookup_fill, hy, hunique y hmem hkey]
  rfl

end Fill

structure Filled (key : X → K) (Value : X → V → Prop) (positions : List X) (m : Map K V) :
    Prop where
  sound : ∀ k v, m.lookup k = some v → ∃ x ∈ positions, key x = k ∧ Value x v
  covered : ∀ x ∈ positions, key x ∈ m

namespace Filled

variable {key : X → K} {Value : X → V → Prop} {positions positions' : List X} {m m' : Map K V}

theorem empty (key : X → K) (Value : X → V → Prop) : Filled key Value [] ∅ where
  sound := by simp
  covered := by simp

variable (h : Filled key Value positions m)

include h

theorem insert {x : X} {v : V} (hv : Value x v) :
    Filled key Value (positions ++ [x]) (m.insert (key x) v) where
  sound := by
    intro k w hk
    by_cases heq : k = key x
    · subst heq
      rw [AList.lookup_insert] at hk
      cases hk
      exact ⟨x, by simp, rfl, hv⟩
    · rw [AList.lookup_insert_ne heq] at hk
      obtain ⟨y, hy, hkey, hvalue⟩ := h.sound k w hk
      exact ⟨y, by simp [hy], hkey, hvalue⟩
  covered := by
    intro y hy
    rw [AList.mem_insert]
    rcases List.mem_append.mp hy with hy | hy
    · exact .inr (h.covered y hy)
    · exact .inl (by rw [List.mem_singleton.mp hy])

theorem copy (h' : Filled key Value positions' m') :
    Filled key Value (positions ++ positions') (copy m m') where
  sound := by
    intro k v hk
    rw [lookup_copy, Option.or_eq_some_iff] at hk
    rcases hk with hk | ⟨-, hk⟩
    · obtain ⟨x, hx, hkey, hvalue⟩ := h'.sound k v hk
      exact ⟨x, List.mem_append_right _ hx, hkey, hvalue⟩
    · obtain ⟨x, hx, hkey, hvalue⟩ := h.sound k v hk
      exact ⟨x, List.mem_append_left _ hx, hkey, hvalue⟩
  covered := by
    intro x hx
    rw [← AList.lookup_isSome, lookup_copy, Option.isSome_or, Bool.or_eq_true, AList.lookup_isSome,
      AList.lookup_isSome]
    rcases List.mem_append.mp hx with hx | hx
    · exact .inr (h.covered x hx)
    · exact .inl (h'.covered x hx)

theorem mem_iff {k : K} : k ∈ m ↔ ∃ x ∈ positions, key x = k := by
  constructor
  · intro hk
    obtain ⟨v, hv⟩ := Option.isSome_iff_exists.mp (AList.lookup_isSome.mpr hk)
    obtain ⟨x, hx, hkey, -⟩ := h.sound k v hv
    exact ⟨x, hx, hkey⟩
  · rintro ⟨x, hx, rfl⟩
    exact h.covered x hx

/-- If positions of one key have the same values, every position finds a value that belongs to
it. -/
theorem lookup {x : X} (hx : x ∈ positions)
    (hkeys : ∀ y ∈ positions, key y = key x → ∀ v, Value y v → Value x v) :
    ∃ v, m.lookup (key x) = some v ∧ Value x v := by
  obtain ⟨v, hv⟩ := Option.isSome_iff_exists.mp (AList.lookup_isSome.mpr (h.covered x hx))
  obtain ⟨y, hy, hkey, hvalue⟩ := h.sound _ v hv
  exact ⟨v, hv, hkeys y hy hkey v hvalue⟩

end Filled
end Assignment
