import Mathlib.Algebra.BigOperators.Group.List.Basic
import Mathlib.Algebra.GroupWithZero.Nat
import Mathlib.Data.List.Count
import Mathlib.Logic.Relation

/-! Delivery of items through a network.
A node is a place with the item as it arrives there. It hands the item on to a list of nodes, to
some of them perhaps several times. Counting the ways on which the item comes to a place counts how
often it arrives there. -/
namespace Delivery

variable {N : Type}

/-- How often an item at `a` comes to a node of the target within the given number of hops. -/
def arrivals (next : N → List N) (target : N → Bool) : Nat → N → Nat
  | 0, a => if target a then 1 else 0
  | hops + 1, a => (if target a then 1 else 0) + ((next a).map (arrivals next target hops)).sum

variable {next : N → List N} {target : N → Bool} {a : N}

theorem arrivals_of_last (hlast : next a = []) (hops : Nat) :
    arrivals next target hops a = if target a then 1 else 0 := by
  cases hops <;> simp [arrivals, hlast]

theorem sum_arrivals_of_last {l : List N} (hlast : ∀ a ∈ l, next a = []) (hops : Nat) :
    (l.map (arrivals next target hops)).sum = l.countP target := by
  induction l with
  | nil => rfl
  | cons a l ih =>
    rw [List.map_cons, List.sum_cons, arrivals_of_last (hlast a (by simp)),
      ih fun b hb => hlast b (by simp [hb]), List.countP_cons, Nat.add_comm]

theorem arrivals_succ_of_not (hnot : target a = false) (hops : Nat) :
    arrivals next target (hops + 1) a = ((next a).map (arrivals next target hops)).sum := by
  simp [arrivals, hnot]

/-- A relation along which some rank rises has no cycles. -/
theorem acyclic_of_rank {E : N → N → Prop} {rank : N → Nat} (hrank : ∀ a b, E a b → rank a < rank b)
    (a : N) : ¬ Relation.TransGen E a a := by
  have hlt : ∀ {b}, Relation.TransGen E a b → rank a < rank b := by
    intro b hpath
    induction hpath with
    | single hedge => exact hrank _ _ hedge
    | tail _ hedge ih => exact Nat.lt_trans ih (hrank _ _ hedge)
  exact fun hcycle => Nat.lt_irrefl _ (hlt hcycle)

end Delivery
