import Mathlib.Data.List.Induction
import TelemetryManager.Library.Execution

/-! Histories of processes on one server that others act on as well. A history lists the actions of
the environment and the answered requests of the processes in their order. Each process follows its
program: its part of the history is the beginning of an execution. -/
namespace Interaction

variable {Req : Type} {Resp : Req → Type} {σ ι A ε α : Type}

inductive Occurrence (A ι : Type) (Req : Type) (Resp : Req → Type) where
  | action (a : A)
  | answered (i : ι) (entry : Σ r : Req, Resp r)

abbrev History (A ι : Type) (Req : Type) (Resp : Req → Type) := List (Occurrence A ι Req Resp)

inductive Reaches (Act : σ → A → σ → Prop) (Serve : σ → (Σ r : Req, Resp r) → σ → Prop)
    (Allowed : History A ι Req Resp → σ → A → Prop) (s₀ : σ) :
    History A ι Req Resp → σ → Prop where
  | start : Reaches Act Serve Allowed s₀ [] s₀
  | action {h : History A ι Req Resp} {s t : σ} {a : A} (hreach : Reaches Act Serve Allowed s₀ h s)
      (hallowed : Allowed h s a) (hact : Act s a t) :
      Reaches Act Serve Allowed s₀ (h ++ [.action a]) t
  | answered {h : History A ι Req Resp} {s t : σ} {entry : Σ r : Req, Resp r}
      (hreach : Reaches Act Serve Allowed s₀ h s) (i : ι) (hserve : Serve s entry t) :
      Reaches Act Serve Allowed s₀ (h ++ [.answered i entry]) t

inductive ServesAll (Serve : σ → (Σ r : Req, Resp r) → σ → Prop) : σ → Log Req Resp → σ → Prop where
  | nil (s : σ) : ServesAll Serve s [] s
  | cons {s t u : σ} {entry : Σ r : Req, Resp r} {log : Log Req Resp} (hserve : Serve s entry t)
      (hrest : ServesAll Serve t log u) : ServesAll Serve s (entry :: log) u

theorem Reaches.answeredAll {Act : σ → A → σ → Prop} {Serve : σ → (Σ r : Req, Resp r) → σ → Prop}
    {Allowed : History A ι Req Resp → σ → A → Prop} {s₀ s t : σ} {h : History A ι Req Resp}
    {log : Log Req Resp} (hreach : Reaches Act Serve Allowed s₀ h s) (i : ι)
    (hserves : ServesAll Serve s log t) :
    Reaches Act Serve Allowed s₀ (h ++ log.map (.answered i)) t := by
  induction hserves generalizing h with
  | nil s => simpa using hreach
  | cons hserve _ ih =>
    have hnext := ih (hreach.answered i hserve)
    simpa using hnext

variable [DecidableEq ι]

def logOf (i : ι) (h : History A ι Req Resp) : Log Req Resp :=
  h.filterMap fun
    | .action _ => none
    | .answered j entry => if j = i then some entry else none

@[simp] theorem logOf_nil (i : ι) : logOf i ([] : History A ι Req Resp) = [] := rfl

@[simp] theorem logOf_action (i : ι) (h : History A ι Req Resp) (a : A) :
    logOf i (h ++ [.action a]) = logOf i h := by
  simp [logOf]

@[simp] theorem logOf_answered_self (i : ι) (h : History A ι Req Resp) (entry : Σ r : Req, Resp r) :
    logOf i (h ++ [.answered i entry]) = logOf i h ++ [entry] := by
  simp [logOf]

@[simp] theorem logOf_answered_of_ne {i j : ι} (hne : j ≠ i) (h : History A ι Req Resp)
    (entry : Σ r : Req, Resp r) : logOf i (h ++ [.answered j entry]) = logOf i h := by
  simp [logOf, hne]

theorem mem_logOf_answered_iff {i j : ι} {h : History A ι Req Resp} {entry e : Σ r : Req, Resp r} :
    e ∈ logOf j (h ++ [.answered i entry]) ↔ e ∈ logOf j h ∨ (i = j ∧ e = entry) := by
  by_cases hij : i = j
  · subst hij
    simp
  · simp [hij]

theorem logOf_append (i : ι) (h h' : History A ι Req Resp) :
    logOf i (h ++ h') = logOf i h ++ logOf i h' := List.filterMap_append

section Programs

variable (program : ι → ProgE ε Req Resp α)

/-- Every process has done the beginning of an execution of its program. -/
def Follows (h : History A ι Req Resp) : Prop :=
  ∀ i, ∃ rest r, ExecE (program i) (logOf i h ++ rest) r

def Finished (h : History A ι Req Resp) (i : ι) : Prop :=
  ∃ r, ExecE (program i) (logOf i h) r

variable {program} {entry : Σ r : Req, Resp r} {h h' : History A ι Req Resp} {i j : ι}

theorem Follows.of_append (hfollows : Follows program (h ++ h')) :
    Follows program h := by
  intro i
  obtain ⟨rest, r, hexec⟩ := hfollows i
  rw [logOf_append, List.append_assoc] at hexec
  exact ⟨_, r, hexec⟩

theorem Follows.not_finished (hfollows : Follows program (h ++ [.answered i entry])) :
    ¬ Finished program h i := by
  rintro ⟨r, hend⟩
  obtain ⟨rest, r', hexec⟩ := hfollows i
  rw [logOf_answered_self, List.append_assoc] at hexec
  have hlog : logOf i h ++ ([entry] ++ rest) = logOf i h ++ ([entry] ++ rest) ++ [] := by simp
  obtain ⟨-, -, hrest⟩ := hend.unique hexec hlog
  simp at hrest

theorem Follows.emits (hfollows : Follows program (h ++ [.answered i entry]))
    {Good : Log Req Resp → (Σ r : Req, Resp r) → Prop} (hgood : Emits Good (program i)) :
    Good (logOf i h) entry := by
  obtain ⟨rest, r, hexec⟩ := hfollows i
  rw [logOf_answered_self, List.append_assoc] at hexec
  exact hgood _ r hexec _ entry rest rfl

theorem finished_action_iff {a : A} :
    Finished program (h ++ [.action a]) i ↔ Finished program h i := by
  simp [Finished]

theorem finished_answered_iff (hne : j ≠ i) :
    Finished program (h ++ [.answered j entry]) i ↔ Finished program h i := by
  simp [Finished, hne]

theorem Follows.not_finished_before (hfollows : Follows program (h ++ [.answered i entry]))
    (hj : ¬ Finished program (h ++ [.answered i entry]) j) : ¬ Finished program h j := by
  by_cases hij : i = j
  · subst hij
    exact hfollows.not_finished
  · rwa [finished_answered_iff hij] at hj

variable {Act : σ → A → σ → Prop} {Serve : σ → (Σ r : Req, Resp r) → σ → Prop}
  {Allowed : History A ι Req Resp → σ → A → Prop} {s₀ s : σ}

/-- What holds at the start and is kept by every action and every answer holds after every history
that follows the programs. -/
theorem Reaches.invariant {I : History A ι Req Resp → σ → Prop}
    (hreach : Reaches Act Serve Allowed s₀ h s) (hfollows : Follows program h) (hinit : I [] s₀)
    (haction : ∀ h s a t, I h s → Allowed h s a → Act s a t → I (h ++ [.action a]) t)
    (hanswered : ∀ h s i entry t, I h s → Follows program (h ++ [.answered i entry]) →
      Serve s entry t → I (h ++ [.answered i entry]) t) : I h s := by
  induction hreach with
  | start => exact hinit
  | action _ hallowed hact ih => exact haction _ _ _ _ (ih hfollows.of_append) hallowed hact
  | answered _ i hserve ih => exact hanswered _ _ i _ _ (ih hfollows.of_append) hfollows hserve

omit [DecidableEq ι] in
theorem Reaches.of_append {h₁ h₂ : History A ι Req Resp}
    (hreach : Reaches Act Serve Allowed s₀ (h₁ ++ h₂) s) : ∃ t,
      Reaches Act Serve Allowed s₀ h₁ t := by
  induction h₂ using List.reverseRecOn generalizing s with
  | nil => exact ⟨s, by simpa using hreach⟩
  | append_singleton h₂ o ih =>
    rw [← List.append_assoc] at hreach
    generalize hh : h₁ ++ h₂ ++ [o] = h at hreach
    cases hreach with
    | start => simp at hh
    | action hprev | answered hprev =>
      obtain ⟨rfl, -⟩ := List.append_inj' hh rfl
      exact ih hprev

end Programs
end Interaction
