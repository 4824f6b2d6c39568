import Mathlib.Logic.Function.Basic
import TelemetryManager.Library.Interaction

/-! Interleavings of programs on one server.
Each process is the rest of a program. A step answers the pending request of one process; the
server may have several answers to a request, failures among them. -/
namespace Interaction

variable {Req : Type} {Resp : Req → Type} {σ ι α : Type}

/-- The steps of a transition system, with the events of the run. -/
inductive Trace {S E : Type} (Step : S → E → S → Prop) (s : S) : List E → S → Prop where
  | refl : Trace Step s [] s
  | tail {trace : List E} {t u : S} {e : E} (hrun : Trace Step s trace t) (hstep : Step t e u) :
      Trace Step s (trace ++ [e]) u

theorem Trace.invariant {S E : Type} {Step : S → E → S → Prop} {s t : S} {trace : List E}
    {I : List E → S → Prop} (hrun : Trace Step s trace t) (hinit : I [] s)
    (hstep : ∀ trace t e u, I trace t → Step t e u → I (trace ++ [e]) u) : I trace t := by
  induction hrun with
  | refl => exact hinit
  | tail _ hs ih => exact hstep _ _ _ _ ih hs

structure System (Req : Type) (Resp : Req → Type) (σ ι α : Type) where
  server : σ
  procs : ι → Prog Req Resp α

structure Event (σ ι : Type) where
  process : ι
  before : σ
  after : σ

variable [DecidableEq ι] (Serve : σ → (r : Req) → Resp r → σ → Prop)

inductive Step : System Req Resp σ ι α → Event σ ι → System Req Resp σ ι α → Prop where
  | answer {s : System Req Resp σ ι α} {i : ι} {r : Req} {next : Resp r → Prog Req Resp α}
      {x : Resp r} {t : σ} (hproc : s.procs i = .call r next) (hserve : Serve s.server r x t) :
      Step s ⟨i, s.server, t⟩ ⟨t, Function.update s.procs i (next x)⟩

abbrev Run (s : System Req Resp σ ι α) := Trace (Step Serve) s

section Environment

variable {A : Type} (Act : σ → A → σ → Prop) (Serve : σ → (r : Req) → Resp r → σ → Prop)

inductive OpenStep :
    System Req Resp σ ι α → Event σ (A ⊕ ι) → System Req Resp σ ι α → Prop where
  | act {s : System Req Resp σ ι α} {a : A} {t : σ} (hact : Act s.server a t) :
      OpenStep s ⟨.inl a, s.server, t⟩ { s with server := t }
  | answer {s t : System Req Resp σ ι α} {e : Event σ ι} (hstep : Step Serve s e t) :
      OpenStep s ⟨.inr e.process, e.before, e.after⟩ t

abbrev OpenRun (s : System Req Resp σ ι α) := Trace (OpenStep Act Serve) s

variable {Act Serve} {trace : List (Event σ (A ⊕ ι))}

def runFor (answer : σ → (r : Req) → Resp r × σ) : Nat → Prog Req Resp α × σ → Prog Req Resp α × σ
  | 0, state => state
  | _ + 1, (.done a, s) => (.done a, s)
  | n + 1, (.call r next, s) => runFor answer n (next (answer s r).1, (answer s r).2)

/-- One process may run alone, as long as the answers are possible. -/
theorem openRun_runFor {answer : σ → (r : Req) → Resp r × σ} {P : σ → Prop} {i : ι}
    (hanswer : ∀ s r, P s → Serve s r (answer s r).1 (answer s r).2 ∧ P (answer s r).2) (n : Nat)
    {s t : System Req Resp σ ι α} (hrun : OpenRun Act Serve s trace t) (ht : P t.server) :
    ∃ trace', OpenRun Act Serve s trace'
      ⟨(runFor answer n (t.procs i, t.server)).2,
        Function.update t.procs i (runFor answer n (t.procs i, t.server)).1⟩ := by
  induction n generalizing t trace with
  | zero => exact ⟨trace, by simpa [runFor] using hrun⟩
  | succ n ih =>
    cases hproc : t.procs i with
    | done a =>
      refine ⟨trace, ?_⟩
      rw [runFor, ← hproc, Function.update_eq_self]
      exact hrun
    | call r next =>
      obtain ⟨hserve, hP⟩ := hanswer t.server r ht
      obtain ⟨trace', hrest⟩ := ih (hrun.tail (.answer (.answer hproc hserve))) hP
      exact ⟨trace', by simpa [runFor, hproc] using hrest⟩

end Environment
end Interaction
