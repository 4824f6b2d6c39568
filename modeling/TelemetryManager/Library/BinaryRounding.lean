import Mathlib.Algebra.Order.Ring.Nat
import Mathlib.Data.Nat.Log

/-! Natural numbers rounded to a number of significant bits, to the nearest one and to an even
significand between two. This is what a binary floating-point format does to whole numbers. -/
namespace BinaryRounding

variable {p n m u : Nat}

/-- The quotient by the unit, rounded to the nearest number, and to an even one between two. -/
def nearest (u n : Nat) : Nat :=
  if 2 * (n % u) < u ∨ (2 * (n % u) = u ∧ n / u % 2 = 0) then n / u else n / u + 1

def unit (p n : Nat) : Nat := 2 ^ (Nat.log 2 n + 1 - p)

def roundToBits (p n : Nat) : Nat :=
  if n < 2 ^ p then n else nearest (unit p n) n * unit p n

def Representable (p n : Nat) : Prop :=
  ∃ significand e, significand < 2 ^ p ∧ n = significand * 2 ^ e

theorem div_le_nearest (u n : Nat) : n / u ≤ nearest u n := by
  unfold nearest
  split <;> omega

theorem nearest_le_div_add_one (u n : Nat) : nearest u n ≤ n / u + 1 := by
  unfold nearest
  split <;> omega

theorem nearest_mono (u : Nat) (h : n ≤ m) : nearest u n ≤ nearest u m := by
  by_cases hdiv : n / u < m / u
  · calc nearest u n ≤ n / u + 1 := nearest_le_div_add_one u n
      _ ≤ m / u := hdiv
      _ ≤ nearest u m := div_le_nearest u m
  · have hle : n / u ≤ m / u := Nat.div_le_div_right h
    have heq : n / u = m / u := by omega
    have hmod : n % u ≤ m % u := by
      have hn := Nat.div_add_mod n u
      have hm := Nat.div_add_mod m u
      rw [heq] at hn
      omega
    unfold nearest
    rw [heq]
    split <;> split <;> omega

theorem nearest_mul_self (hu : 0 < u) (q : Nat) : nearest u (q * u) = q := by
  unfold nearest
  simp [Nat.mul_div_cancel _ hu, hu]

theorem unit_pos (p n : Nat) : 0 < unit p n := Nat.two_pow_pos _

theorem roundToBits_of_lt (h : n < 2 ^ p) : roundToBits p n = n := if_pos h

theorem pow_log_le (h : n ≠ 0) : 2 ^ Nat.log 2 n ≤ n := Nat.pow_log_le_self 2 h

theorem lt_pow_succ_log (n : Nat) : n < 2 ^ (Nat.log 2 n + 1) :=
  Nat.lt_pow_succ_log_self (by omega) n

theorem le_log_of_le (h : 2 ^ p ≤ n) : p ≤ Nat.log 2 n := Nat.le_log_of_pow_le (by omega) h

theorem unit_mul_pow (h : 2 ^ p ≤ n) : unit p n * 2 ^ p = 2 ^ (Nat.log 2 n + 1) := by
  have hp := le_log_of_le h
  rw [unit, ← pow_add]
  congr 1
  omega

theorem pow_pred_mul_unit (hp : 0 < p) (h : 2 ^ p ≤ n) :
    2 ^ (p - 1) * unit p n = 2 ^ Nat.log 2 n := by
  have hlog := le_log_of_le h
  rw [unit, ← pow_add]
  congr 1
  omega

theorem nearest_le_pow (h : 2 ^ p ≤ n) : nearest (unit p n) n ≤ 2 ^ p := by
  calc nearest (unit p n) n ≤ n / unit p n + 1 := nearest_le_div_add_one _ _
    _ ≤ 2 ^ p := by
      apply Nat.div_lt_of_lt_mul
      rw [unit_mul_pow h]
      exact lt_pow_succ_log n

theorem roundToBits_le_pow (p n : Nat) : roundToBits p n ≤ 2 ^ (Nat.log 2 n + 1) := by
  by_cases h : n < 2 ^ p
  · rw [roundToBits_of_lt h]
    exact le_of_lt (lt_pow_succ_log n)
  · rw [roundToBits, if_neg h, ← unit_mul_pow (not_lt.mp h), Nat.mul_comm]
    exact Nat.mul_le_mul_left _ (nearest_le_pow (not_lt.mp h))

theorem pow_log_le_roundToBits (hp : 0 < p) (h : n ≠ 0) :
    2 ^ Nat.log 2 n ≤ roundToBits p n := by
  by_cases hlt : n < 2 ^ p
  · rw [roundToBits_of_lt hlt]
    exact pow_log_le h
  · have hunit := pow_pred_mul_unit hp (not_lt.mp hlt)
    rw [roundToBits, if_neg hlt, ← hunit]
    apply Nat.mul_le_mul_right
    calc 2 ^ (p - 1) ≤ n / unit p n := by
          rw [Nat.le_div_iff_mul_le (unit_pos p n), hunit]
          exact pow_log_le h
      _ ≤ nearest (unit p n) n := div_le_nearest _ _

theorem roundToBits_le_two_mul (p n : Nat) : roundToBits p n ≤ 2 * n := by
  by_cases h : n = 0
  · subst h
    rw [roundToBits_of_lt (Nat.two_pow_pos p)]
  · calc roundToBits p n ≤ 2 ^ (Nat.log 2 n + 1) := roundToBits_le_pow p n
      _ = 2 * 2 ^ Nat.log 2 n := by rw [pow_succ, Nat.mul_comm]
      _ ≤ 2 * n := Nat.mul_le_mul_left _ (pow_log_le h)

theorem roundToBits_mono (hp : 0 < p) (h : n ≤ m) : roundToBits p n ≤ roundToBits p m := by
  by_cases hm : m < 2 ^ p
  · rw [roundToBits_of_lt hm, roundToBits_of_lt (lt_of_le_of_lt h hm)]
    exact h
  have hm0 : m ≠ 0 := by
    intro hzero
    rw [hzero] at hm
    exact hm (Nat.two_pow_pos p)
  have hlower := pow_log_le_roundToBits hp hm0
  by_cases hn : n < 2 ^ p
  · rw [roundToBits_of_lt hn]
    calc n ≤ 2 ^ p := le_of_lt hn
      _ ≤ 2 ^ Nat.log 2 m := Nat.pow_le_pow_right (by omega) (le_log_of_le (not_lt.mp hm))
      _ ≤ roundToBits p m := hlower
  by_cases hlog : Nat.log 2 n = Nat.log 2 m
  · -- both numbers have the same unit
    have hunit : unit p n = unit p m := by rw [unit, unit, hlog]
    rw [roundToBits, if_neg hn, roundToBits, if_neg hm, hunit]
    exact Nat.mul_le_mul_right _ (nearest_mono _ h)
  · have hlt : Nat.log 2 n < Nat.log 2 m := lt_of_le_of_ne (Nat.log_mono_right h) hlog
    calc roundToBits p n ≤ 2 ^ (Nat.log 2 n + 1) := roundToBits_le_pow p n
      _ ≤ 2 ^ Nat.log 2 m := Nat.pow_le_pow_right (by omega) hlt
      _ ≤ roundToBits p m := hlower

theorem roundToBits_eq_self_iff (hp : 0 < p) : roundToBits p n = n ↔ Representable p n := by
  constructor
  · intro h
    by_cases hn : n < 2 ^ p
    · exact ⟨n, 0, hn, by simp⟩
    rw [roundToBits, if_neg hn] at h
    rcases lt_or_eq_of_le (nearest_le_pow (not_lt.mp hn)) with hlt | heq
    · exact ⟨_, _, hlt, h.symm⟩
    · refine ⟨1, Nat.log 2 n + 1, Nat.one_lt_two_pow (by omega), ?_⟩
      rw [heq, Nat.mul_comm, unit_mul_pow (not_lt.mp hn)] at h
      rw [one_mul, h]
  · rintro ⟨significand, e, hlt, rfl⟩
    by_cases hn : significand * 2 ^ e < 2 ^ p
    · exact roundToBits_of_lt hn
    have hbound : significand * 2 ^ e < 2 ^ (p + e) := by
      rw [pow_add]
      exact Nat.mul_lt_mul_of_pos_right hlt (Nat.two_pow_pos e)
    have hne : significand * 2 ^ e ≠ 0 := by
      intro hzero
      rw [hzero] at hn
      exact hn (Nat.two_pow_pos p)
    have hlog : Nat.log 2 (significand * 2 ^ e) < p + e :=
      (Nat.log_lt_iff_lt_pow (by omega) hne).mpr hbound
    obtain ⟨k, hk⟩ : unit p (significand * 2 ^ e) ∣ significand * 2 ^ e :=
      Dvd.dvd.mul_left (pow_dvd_pow 2 (by omega)) significand
    have hu := unit_pos p (significand * 2 ^ e)
    rw [roundToBits, if_neg hn]
    generalize unit p (significand * 2 ^ e) = u at hk hu ⊢
    rw [hk, Nat.mul_comm u k, nearest_mul_self hu]

end BinaryRounding
