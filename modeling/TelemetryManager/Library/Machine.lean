import Mathlib.Data.List.Basic

/-! State machines with guarded events.
A run lists its events newest first. Events may be restricted further, to the runs that meet a
condition in every step. -/

structure Machine (σ ε : Type) where
  Enabled : σ → ε → Prop
  next : σ → ε → σ

namespace Machine

variable {σ ε : Type} {m : Machine σ ε} {Allowed : σ → ε → Prop} {s₀ s : σ} {trace : List ε}

inductive Run (m : Machine σ ε) (Allowed : σ → ε → Prop) (s₀ : σ) : List ε → σ → Prop where
  | start : Run m Allowed s₀ [] s₀
  | step {trace : List ε} {s : σ} {e : ε} (hrun : Run m Allowed s₀ trace s)
      (henabled : m.Enabled s e) (hallowed : Allowed s e) :
      Run m Allowed s₀ (e :: trace) (m.next s e)

theorem Run.invariant {I : List ε → σ → Prop} (hrun : Run m Allowed s₀ trace s) (hinit : I [] s₀)
    (hstep : ∀ trace s e, I trace s → m.Enabled s e → Allowed s e → I (e :: trace) (m.next s e)) :
    I trace s := by
  induction hrun with
  | start => exact hinit
  | step _ henabled hallowed ih => exact hstep _ _ _ ih henabled hallowed

def after (m : Machine σ ε) (s₀ : σ) : List ε → σ
  | [] => s₀
  | e :: trace => m.next (m.after s₀ trace) e

def Possible (m : Machine σ ε) (Allowed : σ → ε → Prop) (s₀ : σ) : List ε → Prop
  | [] => True
  | e :: trace => m.Possible Allowed s₀ trace ∧ m.Enabled (m.after s₀ trace) e ∧
      Allowed (m.after s₀ trace) e

theorem run_of_possible (h : m.Possible Allowed s₀ trace) :
    m.Run Allowed s₀ trace (m.after s₀ trace) := by
  induction trace with
  | nil => exact .start
  | cons e trace ih =>
    obtain ⟨hpossible, henabled, hallowed⟩ := h
    exact .step (ih hpossible) henabled hallowed

end Machine
