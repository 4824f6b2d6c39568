import Mathlib.Data.List.Destutter
import Mathlib.Data.List.Sort

/-! Sorting by a key.
If no two elements have the same key, they have one sorted arrangement, whatever the algorithm that
finds it and the order in which they were given. So have the distinct elements of a list. -/
namespace KeySort

variable {α κ : Type} [LinearOrder κ] {key : α → κ} {l l' : List α}

def Sorted (key : α → κ) (l : List α) : Prop := l.Pairwise fun a b => key a ≤ key b

theorem Sorted.eq_of_perm (h : Sorted key l) (h' : Sorted key l') (hperm : l.Perm l')
    (hkeys : (l.map key).Nodup) : l = l' := by
  refine hperm.eq_of_pairwise (fun a b ha hb hab hba => ?_) h h'
  exact List.inj_on_of_nodup_map hkeys ha (hperm.mem_iff.mpr hb) (le_antisymm hab hba)

variable [DecidableRel fun a b : α => key a ≤ key b]

theorem sorted_insertionSort (l : List α) :
    Sorted key (l.insertionSort fun a b => key a ≤ key b) := by
  have : Std.Total fun a b : α => key a ≤ key b := ⟨fun a b => le_total (key a) (key b)⟩
  have : IsTrans α fun a b => key a ≤ key b := ⟨fun _ _ _ => le_trans⟩
  exact List.pairwise_insertionSort _ l

theorem insertionSort_eq_of_perm (hperm : l.Perm l') (hkeys : (l.map key).Nodup) :
    (l.insertionSort fun a b => key a ≤ key b) = l'.insertionSort fun a b => key a ≤ key b := by
  have hsorted := List.perm_insertionSort (fun a b : α => key a ≤ key b) l
  refine (sorted_insertionSort l).eq_of_perm (sorted_insertionSort l') ?_ ?_
  · exact hsorted.trans (hperm.trans (List.perm_insertionSort _ l').symm)
  · exact (hsorted.map key).nodup_iff.mpr hkeys

section Distinct

variable {α : Type} [LinearOrder α] {l l' : List α}

def sortCompact (l : List α) : List α := (l.insertionSort (· ≤ ·)).destutter (· ≠ ·)

theorem mem_destutter'_ne_iff {a b : α} :
    a ∈ l.destutter' (· ≠ ·) b ↔ a = b ∨ a ∈ l := by
  induction l generalizing b with
  | nil => simp
  | cons c l ih =>
    by_cases hbc : b = c
    · rw [List.destutter'_cons_neg _ (not_not.mpr hbc), ih]
      simp [hbc]
    · rw [List.destutter'_cons_pos _ hbc, List.mem_cons, ih, List.mem_cons]

@[simp]
theorem mem_sortCompact_iff {a : α} : a ∈ sortCompact l ↔ a ∈ l := by
  rw [sortCompact, ← (List.perm_insertionSort (· ≤ ·) l).mem_iff]
  cases l.insertionSort (· ≤ ·) with
  | nil => simp
  | cons b l => rw [List.destutter_cons', mem_destutter'_ne_iff, List.mem_cons]

theorem sortCompact_pairwise (l : List α) : (sortCompact l).Pairwise (· < ·) := by
  have hsorted : (sortCompact l).Pairwise (· ≤ ·) :=
    (List.pairwise_insertionSort (· ≤ ·) l).sublist (List.destutter_sublist _ _)
  have hchain : (sortCompact l).IsChain (· ≠ ·) := List.isChain_destutter _ _
  rw [← List.isChain_iff_pairwise] at hsorted ⊢
  rw [List.isChain_iff_getElem] at hsorted hchain ⊢
  intro i hi
  exact lt_of_le_of_ne (hsorted i hi) (hchain i hi)

/-- Distinct elements in order are given by which elements they are. -/
theorem eq_of_mem_iff (h : l.Pairwise (· < ·)) (h' : l'.Pairwise (· < ·))
    (hmem : ∀ a, a ∈ l ↔ a ∈ l') : l = l' := by
  have hperm : l.Perm l' := (List.perm_ext_iff_of_nodup h.nodup h'.nodup).mpr hmem
  exact hperm.eq_of_pairwise (fun a b _ _ hab hba => absurd hba hab.not_gt) h h'

end Distinct

end KeySort
