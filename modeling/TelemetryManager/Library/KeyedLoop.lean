import Mathlib.Data.Finset.Dedup

/-! Loops over the keys of a map. The order of the keys is not specified. If every round reads and
writes the part of its own key only, the loop changes each part once, whatever the order is. -/
namespace KeyedLoop

variable {K V σ : Type} [DecidableEq K]

structure Iteration (K : Type) where
  order : Finset K → List K
  nodup : ∀ keys, (order keys).Nodup
  mem_order : ∀ keys k, k ∈ order keys ↔ k ∈ keys

structure Local (part : σ → K → V) (round : σ → K → σ) (change : K → V → V) : Prop where
  own : ∀ s k, part (round s k) k = change k (part s k)
  other : ∀ s k k', k' ≠ k → part (round s k) k' = part s k'

variable {part : σ → K → V} {round : σ → K → σ} {change : K → V → V}

theorem Local.foldl (h : Local part round change) {order : List K} (hnodup : order.Nodup) (s : σ)
    (k : K) : part (order.foldl round s) k =
      if k ∈ order then change k (part s k) else part s k := by
  induction order generalizing s with
  | nil => simp
  | cons first order ih =>
    obtain ⟨hfirst, hnodup⟩ := List.nodup_cons.mp hnodup
    rw [List.foldl_cons, ih hnodup]
    by_cases hk : k = first
    · subst hk
      rw [if_neg hfirst, if_pos List.mem_cons_self, h.own]
    · simp [hk, h.other s first k hk]

theorem Local.iterate (h : Local part round change) (iteration : Iteration K)
    (keys : Finset K) (s : σ)
    (k : K) : part ((iteration.order keys).foldl round s) k =
      if k ∈ keys then change k (part s k) else part s k := by
  rw [h.foldl (iteration.nodup keys)]
  simp only [iteration.mem_order]

omit [DecidableEq K] in
theorem foldl_unchanged {β : Type} {f : σ → β} (h : ∀ s k, f (round s k) = f s) (order : List K)
    (s : σ) : f (order.foldl round s) = f s := by
  induction order generalizing s with
  | nil => rfl
  | cons first order ih => rw [List.foldl_cons, ih, h]

end KeyedLoop
