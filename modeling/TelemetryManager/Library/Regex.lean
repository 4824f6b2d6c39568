import Mathlib.Logic.Function.Basic

/-! Regular expressions with capturing groups. A match is searched by backtracking: alternatives are
tried in order, and a repetition takes as much as it can. The first match found is the one that
Perl, and Go with the same rules, report. -/

inductive Regex where
  | empty
  | char (p : Char → Bool)
  | many (p : Char → Bool)
  | seq (r s : Regex)
  | alt (r s : Regex)
  | group (n : Nat) (r : Regex)

namespace Regex

abbrev Captures := Nat → List Char

variable {β : Type}

/-- As many characters of the class as possible, such that the rest is accepted. -/
def greedy (p : Char → Bool) (k : List Char → Option β) : List Char → Option β
  | [] => k []
  | c :: s => (if p c then greedy p k s else none) <|> k (c :: s)

/-- Match a beginning of the text, such that the rest is accepted. -/
def run : Regex → Captures → List Char → (Captures → List Char → Option β) → Option β
  | .empty, g, s, k => k g s
  | .char _, _, [], _ => none
  | .char p, g, c :: s, k => if p c then k g s else none
  | .many p, g, s, k => greedy p (k g) s
  | .seq r r', g, s, k => r.run g s fun g s => r'.run g s k
  | .alt r r', g, s, k => r.run g s k <|> r'.run g s k
  | .group n r, g, s, k =>
    r.run g s fun g rest => k (Function.update g n (s.take (s.length - rest.length))) rest

def atEnd (g : Captures) : List Char → Option Captures
  | [] => some g
  | _ :: _ => none

def fullMatch (r : Regex) (s : List Char) : Option Captures := r.run (fun _ => []) s atEnd

def any : Char → Bool := fun _ => true

def plus (p : Char → Bool) : Regex := .seq (.char p) (.many p)

def literal : List Char → Regex
  | [] => .empty
  | c :: s => .seq (.char (· = c)) (literal s)

def opt (r : Regex) : Regex := .alt r .empty

variable {p : Char → Bool} {g : Captures} {k : Captures → List Char → Option β}

theorem run_seq (r r' : Regex) (s : List Char) :
    (seq r r').run g s k = r.run g s fun g s => r'.run g s k := rfl

theorem run_opt (r : Regex) (s : List Char) : (opt r).run g s k = (r.run g s k <|> k g s) := rfl

theorem run_literal_append (l s : List Char) : (literal l).run g (l ++ s) k = k g s := by
  induction l with
  | nil => rfl
  | cons c l ih => simpa [literal, run] using ih

theorem run_literal_ne {c d : Char} (hne : d ≠ c) (l s : List Char) :
    (literal (c :: l)).run g (d :: s) k = none := by
  simp [literal, run, hne]

variable {s : List Char}

theorem run_literal_singleton_ne {x : Char} (hs : s.head? ≠ some x) :
    (literal [x]).run g s k = none := by
  cases s with
  | nil => rfl
  | cons c s => exact run_literal_ne (fun hc => hs (by rw [hc]; rfl)) [] s

section Greedy

variable {k : List Char → Option β} {u v : List Char}

theorem greedy_none (hnone : ∀ a b, v = a ++ b → k b = none) : greedy p k v = none := by
  induction v with
  | nil => exact hnone [] [] rfl
  | cons c v ih =>
    have hrest : greedy p k v = none := ih fun a b hv => hnone (c :: a) b (by rw [hv]; rfl)
    simp [greedy, hrest, hnone [] (c :: v) rfl]

theorem greedy_stop (hlong : ∀ a b, v = a ++ b → a ≠ [] → k b = none) : greedy p k v = k v := by
  cases v with
  | nil => rfl
  | cons c v =>
    have hrest : greedy p k v = none :=
      greedy_none fun a b hv => hlong (c :: a) b (by rw [hv]; rfl) (by simp)
    simp [greedy, hrest]

theorem greedy_eq (hp : ∀ c ∈ u, p c) (hshort : ∀ a b, u = a ++ b → b ≠ [] → k (b ++ v) = none)
    (hlong : ∀ a b, v = a ++ b → a ≠ [] → k b = none) : greedy p k (u ++ v) = k v := by
  induction u with
  | nil => exact greedy_stop hlong
  | cons c u ih =>
    have hrest : greedy p k (u ++ v) = k v :=
      ih (fun d hd => hp d (List.mem_cons_of_mem c hd)) fun a b hu =>
        hshort (c :: a) b (by rw [hu]; rfl)
    have hall : k (c :: (u ++ v)) = none := hshort [] (c :: u) rfl (by simp)
    simp [greedy, hp c List.mem_cons_self, hrest, hall]

theorem greedy_toEnd (hk : ∀ c s, k (c :: s) = none) :
    greedy p k v = if v.all p then k [] else none := by
  induction v with
  | nil => rfl
  | cons c v ih => by_cases hc : p c = true <;> simp [greedy, hk, ih, hc]

end Greedy

/-- Some characters, and then the separator. -/
def through (x : Char) : Regex := .seq (plus any) (literal [x])

theorem run_through {x : Char} {u v : List Char} (hu : x ∉ u) (hne : u ≠ []) (hv : x ∉ v) :
    (through x).run g (u ++ x :: v) k = k g v := by
  cases u with
  | nil => exact absurd rfl hne
  | cons c u =>
    change greedy any (fun s => (literal [x]).run g s k) (u ++ x :: v) = k g v
    refine (greedy_eq (fun _ _ => rfl) ?_ ?_).trans (run_literal_append [x] v)
    · rintro a b rfl hb
      refine run_literal_singleton_ne fun hhead => hu ?_
      obtain ⟨d, b, rfl⟩ := List.exists_cons_of_ne_nil hb
      cases hhead
      simp
    · rintro a b hsplit ha
      refine run_literal_singleton_ne fun hhead => hv ?_
      obtain ⟨d, a, rfl⟩ := List.exists_cons_of_ne_nil ha
      obtain ⟨-, rfl⟩ := List.cons.inj hsplit
      exact List.mem_append_right a (List.mem_of_mem_head? hhead)

theorem run_group_append {r : Regex} {g' : Captures} {u v : List Char} (n : Nat)
    (h : ∀ k : Captures → List Char → Option β, r.run g (u ++ v) k = k g' v) :
    (group n r).run g (u ++ v) k = k (Function.update g' n u) v := by
  simp [run, h]

theorem run_plus_any_atEnd (hne : s ≠ []) : (plus any).run g s atEnd = some g := by
  obtain ⟨c, s, rfl⟩ := List.exists_cons_of_ne_nil hne
  change greedy any (atEnd g) s = some g
  rw [greedy_toEnd fun _ _ => rfl, if_pos (by simp [any])]
  rfl

theorem run_group_plus_atEnd (n : Nat) (s : List Char) :
    (group n (plus p)).run g s atEnd =
      if s ≠ [] ∧ s.all p then some (Function.update g n s) else none := by
  cases s with
  | nil => rfl
  | cons c s =>
    by_cases hc : p c
    · have hend : (group n (plus p)).run g (c :: s) atEnd = greedy p (fun rest =>
          atEnd (Function.update g n ((c :: s).take ((c :: s).length - rest.length))) rest) s := by
        simp [run, plus, hc]
      rw [hend, greedy_toEnd fun _ _ => rfl]
      simp [hc, atEnd]
    · simp [run, plus, hc]

def Matches : Regex → List Char → Prop
  | .empty, s => s = []
  | .char p, s => ∃ c, s = [c] ∧ p c
  | .many p, s => ∀ c ∈ s, p c
  | .seq r r', s => ∃ u v, s = u ++ v ∧ r.Matches u ∧ r'.Matches v
  | .alt r r', s => r.Matches s ∨ r'.Matches s
  | .group _ r, s => r.Matches s

theorem isSome_greedy {q : List Char → Prop} {k : List Char → Option β}
    (hk : ∀ s, (k s).isSome ↔ q s) (s : List Char) :
    (greedy p k s).isSome = true ↔ ∃ u v, s = u ++ v ∧ (∀ c ∈ u, p c) ∧ q v := by
  induction s with
  | nil =>
    rw [greedy, hk]
    constructor
    · intro h
      exact ⟨[], [], rfl, by simp, h⟩
    · rintro ⟨u, v, huv, -, h⟩
      obtain ⟨-, rfl⟩ := List.append_eq_nil_iff.mp huv.symm
      exact h
  | cons c s ih =>
    have hstep : (greedy p k (c :: s)).isSome ↔
        (p c ∧ (greedy p k s).isSome) ∨ q (c :: s) := by
      rw [greedy, ← hk]
      by_cases hc : p c = true <;> simp [hc]
    rw [hstep, ih]
    constructor
    · rintro (⟨hc, u, v, rfl, hu, hv⟩ | h)
      · exact ⟨c :: u, v, rfl, by simpa [hc] using hu, hv⟩
      · exact ⟨[], c :: s, rfl, by simp, h⟩
    · rintro ⟨u, v, huv, hu, hv⟩
      cases u with
      | nil =>
        cases huv
        exact .inr hv
      | cons d u =>
        cases huv
        exact .inl ⟨hu c List.mem_cons_self, u, v, rfl,
          fun e he => hu e (List.mem_cons_of_mem _ he), hv⟩

theorem isSome_run {q : List Char → Prop} {k : Captures → List Char → Option β}
    (hk : ∀ g s, (k g s).isSome ↔ q s) (r : Regex) (g : Captures) (s : List Char) :
    (r.run g s k).isSome = true ↔ ∃ u v, s = u ++ v ∧ r.Matches u ∧ q v := by
  induction r generalizing g s k q with
  | empty =>
    rw [run, hk]
    constructor
    · intro h
      exact ⟨[], s, rfl, rfl, h⟩
    · rintro ⟨_, v, rfl, rfl, h⟩
      exact h
  | char p =>
    cases s with
    | nil => simp [run, Matches]
    | cons c s =>
      by_cases hc : p c
      · simp only [run, hc, if_true, hk, Matches]
        constructor
        · intro h
          exact ⟨[c], s, rfl, ⟨c, rfl, hc⟩, h⟩
        · rintro ⟨u, v, huv, ⟨d, rfl, -⟩, h⟩
          cases huv
          exact h
      · simp only [run, hc, Bool.false_eq_true, if_false, Option.isSome_none, Matches, false_iff]
        rintro ⟨u, v, huv, ⟨d, rfl, hd⟩, -⟩
        cases huv
        exact hc hd
  | many p =>
    rw [run, isSome_greedy (hk g)]
    rfl
  | seq r r' ih ih' =>
    rw [run, ih fun g s => ih' hk g s]
    constructor
    · rintro ⟨u, _, rfl, hu, v, w, rfl, hv, hw⟩
      exact ⟨u ++ v, w, by simp, ⟨u, v, rfl, hu, hv⟩, hw⟩
    · rintro ⟨_, w, rfl, ⟨u, v, rfl, hu, hv⟩, hw⟩
      exact ⟨u, v ++ w, by simp, hu, v, w, rfl, hv, hw⟩
  | alt r r' ih ih' =>
    have hor : ((alt r r').run g s k).isSome ↔
        (r.run g s k).isSome ∨ (r'.run g s k).isSome := by
      rw [run]
      cases r.run g s k <;> simp
    rw [hor, ih hk, ih' hk]
    constructor
    · rintro (⟨u, v, huv, hu, hv⟩ | ⟨u, v, huv, hu, hv⟩)
      · exact ⟨u, v, huv, .inl hu, hv⟩
      · exact ⟨u, v, huv, .inr hu, hv⟩
    · rintro ⟨u, v, huv, hu | hu, hv⟩
      · exact .inl ⟨u, v, huv, hu, hv⟩
      · exact .inr ⟨u, v, huv, hu, hv⟩
  | group n r ih =>
    rw [run, ih fun g rest => hk _ rest]
    rfl

theorem isSome_fullMatch_iff (r : Regex) (s : List Char) :
    (r.fullMatch s).isSome ↔ r.Matches s := by
  have hend : ∀ (g : Captures) t, (atEnd g t).isSome ↔ t = [] := by
    intro g t
    cases t <;> simp [atEnd]
  rw [fullMatch, isSome_run hend]
  simp

theorem fullMatch_eq_none_iff (r : Regex) (s : List Char) :
    r.fullMatch s = none ↔ ¬ r.Matches s := by
  rw [← isSome_fullMatch_iff]
  cases r.fullMatch s <;> simp

@[simp] theorem matches_literal (l s : List Char) : (literal l).Matches s ↔ s = l := by
  induction l generalizing s with
  | nil => rfl
  | cons c l ih =>
    simp only [literal, Matches, ih, decide_eq_true_eq]
    constructor
    · rintro ⟨u, v, rfl, ⟨d, rfl, rfl⟩, rfl⟩
      rfl
    · rintro rfl
      exact ⟨[c], l, rfl, ⟨c, rfl, rfl⟩, rfl⟩

theorem exists_of_run {b : β} {r : Regex} (h : r.run g s k = some b) :
    ∃ g' rest, k g' rest = some b := by
  induction r generalizing g s k with
  | empty => exact ⟨_, _, h⟩
  | char p =>
    cases s with
    | nil => cases h
    | cons c s =>
      rw [run] at h
      split at h
      · exact ⟨_, _, h⟩
      · cases h
  | many p =>
    rw [run] at h
    induction s with
    | nil => exact ⟨_, _, h⟩
    | cons c s ih =>
      rw [greedy, Option.orElse_eq_orElse, Option.orElse_eq_or, Option.or_eq_some_iff] at h
      rcases h with h | ⟨-, h⟩
      · split at h
        · exact ih h
        · cases h
      · exact ⟨_, _, h⟩
  | seq r r' ih ih' =>
    obtain ⟨g', rest, h'⟩ := ih h
    exact ih' h'
  | alt r r' ih ih' =>
    rw [run, Option.orElse_eq_orElse, Option.orElse_eq_or, Option.or_eq_some_iff] at h
    rcases h with h | ⟨-, h⟩
    · exact ih h
    · exact ih' h
  | group n r ih =>
    obtain ⟨g', rest, h'⟩ := ih h
    exact ⟨_, rest, h'⟩

theorem captures_of_fullMatch_group {r : Regex} {n : Nat} {g : Captures}
    (h : (group n r).fullMatch s = some g) : g n = s := by
  obtain ⟨g', rest, hend⟩ := exists_of_run (r := r) h
  cases rest with
  | nil =>
    cases hend
    simp
  | cons c rest => cases hend

end Regex
