import Mathlib.Control.Lawful

/-! Programs that talk to a server by typed requests.
A program is a well-founded tree of requests whose continuations receive the answers, so that
one program can be run against a fixed table of answers, against a stateful server, or
one request at a time in an interleaving. Failing programs are `ExceptT` over this tree. -/
namespace Interaction

/-- A program returning `α` that makes requests `r : Req`, each answered in `Resp r`. -/
inductive Prog (Req : Type) (Resp : Req → Type) (α : Type) where
  | done (a : α)
  | call (r : Req) (next : Resp r → Prog Req Resp α)

namespace Prog

variable {Req : Type} {Resp : Req → Type} {α β γ σ : Type}

def bind : Prog Req Resp α → (α → Prog Req Resp β) → Prog Req Resp β
  | .done a, f => f a
  | .call r next, f => .call r fun x => (next x).bind f

instance : Monad (Prog Req Resp) where
  pure := .done
  bind := bind

@[simp] theorem pure_eq (a : α) : (pure a : Prog Req Resp α) = .done a := rfl

@[simp] theorem done_bind (a : α) (f : α → Prog Req Resp β) : (Prog.done a >>= f) = f a := rfl

@[simp] theorem call_bind (r : Req) (next : Resp r → Prog Req Resp α) (f : α → Prog Req Resp β) :
    (Prog.call r next >>= f) = .call r fun x => next x >>= f := rfl

private theorem bind_done (p : Prog Req Resp α) : p.bind .done = p := by
  induction p with
  | done a => rfl
  | call r next ih =>
    simp only [bind]
    congr 1
    funext x
    exact ih x

private theorem prog_bind_assoc (p : Prog Req Resp α) (f : α → Prog Req Resp β)
    (g : β → Prog Req Resp γ) : (p.bind f).bind g = p.bind fun a => (f a).bind g := by
  induction p with
  | done a => rfl
  | call r next ih =>
    simp only [bind]
    congr 1
    funext x
    exact ih x

instance : LawfulMonad (Prog Req Resp) :=
  LawfulMonad.mk' _ bind_done (fun _ _ => rfl) prog_bind_assoc

def request (r : Req) : Prog Req Resp (Resp r) := .call r .done

/-- `Q` holds of every value the program can return, whatever the answers. -/
def All (Q : α → Prop) : Prog Req Resp α → Prop
  | .done a => Q a
  | .call _ next => ∀ x, (next x).All Q

variable {p : Prog Req Resp α}

theorem All.mono {Q Q' : α → Prop} (h : p.All Q) (hQ : ∀ a, Q a → Q' a) :
    p.All Q' := by
  induction p with
  | done a => exact hQ a h
  | call r next ih => exact fun x => ih x (h x)

theorem all_true (p : Prog Req Resp α) : p.All fun _ => True := by
  induction p with
  | done a => trivial
  | call r next ih => exact fun x => ih x

theorem All.bind {Q : α → Prop} {Q' : β → Prop}
    {f : α → Prog Req Resp β} (h : p.All Q) (hf : ∀ a, Q a → (f a).All Q') :
    (p >>= f).All Q' := by
  induction p with
  | done a => exact hf a h
  | call r next ih => exact fun x => ih x (h x)

/-- The value a program returns when every request `r` is answered by `answer r`. -/
def eval (answer : (r : Req) → Resp r) : Prog Req Resp α → α
  | .done a => a
  | .call r next => (next (answer r)).eval answer

@[simp] theorem eval_done (answer : (r : Req) → Resp r) (a : α) :
    (Prog.done a).eval answer = a := rfl

@[simp] theorem eval_request (answer : (r : Req) → Resp r) (r : Req) :
    (request r).eval answer = answer r := rfl

@[simp] theorem eval_bind (answer : (r : Req) → Resp r) (p : Prog Req Resp α)
    (f : α → Prog Req Resp β) : (p >>= f).eval answer = (f (p.eval answer)).eval answer := by
  induction p with
  | done a => rfl
  | call r next ih => exact ih (answer r)

theorem All.eval {Q : α → Prop} (h : p.All Q)
    (answer : (r : Req) → Resp r) : Q (p.eval answer) := by
  induction p with
  | done a => exact h
  | call r next ih => exact ih (answer r) (h (answer r))

end Prog

/-- Programs that can fail with an error of `ε`. -/
abbrev ProgE (ε Req : Type) (Resp : Req → Type) := ExceptT ε (Prog Req Resp)

section Failing

variable {Req : Type} {Resp : Req → Type} {ε α β : Type}

abbrev ProgE.request (r : Req) : ProgE ε Req Resp (Resp r) :=
  liftM (Prog.request r : Prog Req Resp (Resp r))

def evalE (answer : (r : Req) → Resp r) (x : ProgE ε Req Resp α) : Except ε α :=
  x.run.eval answer

variable (answer : (r : Req) → Resp r)

@[simp] theorem evalE_pure (a : α) :
    evalE answer (pure a : ProgE ε Req Resp α) = .ok a := rfl

@[simp] theorem evalE_throw (e : ε) :
    evalE answer (throw e : ProgE ε Req Resp α) = .error e := rfl

@[simp] theorem evalE_lift (p : Prog Req Resp α) :
    evalE answer (liftM p : ProgE ε Req Resp α) = .ok (p.eval answer) := by
  simp [evalE, ExceptT.run_liftM, ← bind_pure_comp]

@[simp] theorem evalE_bind (x : ProgE ε Req Resp α) (f : α → ProgE ε Req Resp β) :
    evalE answer (x >>= f) = (evalE answer x).bind fun a => evalE answer (f a) := by
  simp only [evalE, ExceptT.run_bind, Prog.eval_bind]
  cases x.run.eval answer <;> rfl

theorem exists_evalE_eq {x : ProgE ε Req Resp α} (h : (evalE answer x).isOk) :
    ∃ a, evalE answer x = .ok a := by
  cases heval : evalE answer x with
  | error err => simp [heval, Except.isOk, Except.toBool] at h
  | ok a => exact ⟨a, rfl⟩

/-- What `x` failed with, if it failed; the caller goes on either way. -/
def attempt (x : ProgE ε Req Resp α) : ProgE ε Req Resp (Except ε α) :=
  ExceptT.lift x.run

@[simp] theorem evalE_attempt (x : ProgE ε Req Resp α) :
    evalE answer (attempt x) = .ok (evalE answer x) := by
  simp [evalE, attempt, ← bind_pure_comp]

@[simp] theorem mapError_ok {ε' : Type} (f : ε → ε') (a : α) :
    (Except.ok a : Except ε α).mapError f = .ok a :=
  rfl

@[simp] theorem mapError_error {ε' : Type} (f : ε → ε') (e : ε) :
    (Except.error e : Except ε α).mapError f = .error (f e) :=
  rfl

/-- `x` with its error, if any, changed by `f`. -/
def mapErr (f : ε → ε) (x : ProgE ε Req Resp α) : ProgE ε Req Resp α :=
  ExceptT.mk (Except.mapError f <$> x.run)

@[simp] theorem evalE_mapErr (f : ε → ε) (x : ProgE ε Req Resp α) :
    evalE answer (mapErr f x) = (evalE answer x).mapError f := by
  simp [evalE, mapErr, ← bind_pure_comp]

@[simp] theorem evalE_liftExcept (x : Except ε α) :
    evalE answer (liftExcept x : ProgE ε Req Resp α) = x := by
  cases x <;> rfl

theorem bind_eq_ok_iff {x : Except ε α} {f : α → Except ε β} {b : β} :
    x >>= f = .ok b ↔ ∃ a, x = .ok a ∧ f a = .ok b := by
  cases x <;> simp [bind, Except.bind]

variable {answer} {x : ProgE ε Req Resp α} {f : α → ProgE ε Req Resp β}

theorem evalE_bind_ok_iff {b : β} :
    evalE answer (x >>= f) = .ok b ↔
      ∃ a, evalE answer x = .ok a ∧ evalE answer (f a) = .ok b := by
  rw [evalE_bind]
  exact bind_eq_ok_iff

theorem evalE_mapErr_ok_iff {f : ε → ε} {a : α} :
    evalE answer (mapErr f x) = .ok a ↔ evalE answer x = .ok a := by
  rw [evalE_mapErr]
  cases evalE answer x <;> simp

def Succeeds (answer : (r : Req) → Resp r) (x : ProgE ε Req Resp α) : Prop :=
  ∃ a, evalE answer x = .ok a

@[simp] theorem succeeds_pure (a : α) :
    Succeeds answer (pure a : ProgE ε Req Resp α) := ⟨a, rfl⟩

@[simp] theorem not_succeeds_throw (e : ε) :
    ¬ Succeeds answer (throw e : ProgE ε Req Resp α) := by
  rintro ⟨a, h⟩
  cases h

@[simp] theorem succeeds_mapErr_iff {f : ε → ε} :
    Succeeds answer (mapErr f x) ↔ Succeeds answer x := by
  simp only [Succeeds, evalE_mapErr_ok_iff]

theorem succeeds_bind_iff :
    Succeeds answer (x >>= f) ↔ ∃ a, evalE answer x = .ok a ∧ Succeeds answer (f a) := by
  simp only [Succeeds, evalE_bind_ok_iff]
  rw [exists_comm]
  simp

/-- What follows a program succeeds or fails whatever the program returned. -/
theorem succeeds_bind_of {P : Prop} (h : ∀ a, Succeeds answer (f a) ↔ P) :
    Succeeds answer (x >>= f) ↔ Succeeds answer x ∧ P := by
  rw [succeeds_bind_iff]
  constructor
  · rintro ⟨a, hx, hf⟩
    exact ⟨⟨a, hx⟩, (h a).mp hf⟩
  · rintro ⟨⟨a, hx⟩, hP⟩
    exact ⟨a, hx, (h a).mpr hP⟩

variable {ι : Type}

theorem forM_eq_ok_iff {l : List ι} {f : ι → Except ε PUnit} :
    forM l f = .ok () ↔ ∀ i ∈ l, f i = .ok () := by
  induction l with
  | nil => simp [pure, Except.pure]
  | cons i l ih =>
    cases h : f i with
    | error e => simp [h, bind, Except.bind]
    | ok u => simp [h, bind, Except.bind, ih]

/-- A chain of checks fails with the error of its first failing check. -/
theorem forM_eq_error_iff {l : List ι} {f : ι → Except ε PUnit} {e : ε} :
    forM l f = .error e ↔
      ∃ pre i post, l = pre ++ i :: post ∧ (∀ j ∈ pre, f j = .ok ()) ∧ f i = .error e := by
  induction l with
  | nil => simp [pure, Except.pure]
  | cons i l ih =>
    rw [List.forM_cons]
    cases hi : f i with
    | error e' =>
      constructor
      · intro h
        cases h
        exact ⟨[], i, l, rfl, by simp, hi⟩
      · rintro ⟨pre, j, post, hl, hpre, hj⟩
        cases pre with
        | nil =>
          cases hl
          exact (hi.symm.trans hj :)
        | cons k pre =>
          cases hl
          have := hpre i (by simp)
          rw [hi] at this
          cases this
    | ok u =>
      refine ih.trans ⟨?_, ?_⟩
      · rintro ⟨pre, j, post, rfl, hpre, hj⟩
        refine ⟨i :: pre, j, post, rfl, ?_, hj⟩
        intro k hk
        rcases List.mem_cons.mp hk with rfl | hk
        · exact hi
        · exact hpre k hk
      · rintro ⟨pre, j, post, hl, hpre, hj⟩
        cases pre with
        | nil =>
          cases hl
          rw [hi] at hj
          cases hj
        | cons k pre =>
          cases hl
          exact ⟨pre, j, post, rfl, fun k hk => hpre k (by simp [hk]), hj⟩

section Loop

variable {l : List ι} {f : ι → ProgE ε Req Resp PUnit}

theorem evalE_forM : evalE answer (forM l f) = forM l fun i => evalE answer (f i) := by
  induction l with
  | nil => rfl
  | cons i l ih =>
    rw [List.forM_cons, List.forM_cons, evalE_bind]
    cases evalE answer (f i) with
    | error e => rfl
    | ok u => exact ih

theorem evalE_forM_ok :
    evalE answer (forM l f) = .ok () ↔ ∀ i ∈ l, evalE answer (f i) = .ok () := by
  rw [evalE_forM]
  exact forM_eq_ok_iff

theorem evalE_forM_error {e : ε} : evalE answer (forM l f) = .error e ↔
    ∃ pre i post, l = pre ++ i :: post ∧ (∀ j ∈ pre, evalE answer (f j) = .ok ()) ∧
      evalE answer (f i) = .error e := by
  rw [evalE_forM]
  exact forM_eq_error_iff

end Loop

/-- `P` holds of every error of a pure fallible computation. -/
def Fails (P : ε → Prop) (x : Except ε α) : Prop := ∀ e, x = .error e → P e

namespace Fails

variable {P : ε → Prop}

theorem ok (a : α) : Fails P (.ok a : Except ε α) := by
  intro e h
  cases h

theorem error {e : ε} (h : P e) : Fails P (.error e : Except ε α) := by
  intro e' h'
  cases h'
  exact h

theorem bind {x : Except ε α} {f : α → Except ε β} (h : Fails P x) (hf : ∀ a, Fails P (f a)) :
    Fails P (x >>= f) := by
  cases x with
  | error e => exact error (h e rfl)
  | ok a => exact hf a

theorem bind_iff {x : Except ε α} {f : α → Except ε β} (h : Fails (fun e => ¬ P e) x) :
    Fails P (x >>= f) ↔ ∃ a, x = .ok a ∧ Fails P (f a) := by
  cases x with
  | error e =>
    constructor
    · intro hP
      exact absurd (hP e rfl) (h e rfl)
    · rintro ⟨a, ha, -⟩
      cases ha
  | ok a =>
    constructor
    · intro hP
      exact ⟨a, rfl, hP⟩
    · rintro ⟨a', ha', hP⟩
      cases ha'
      exact hP

theorem forM {ι : Type} {l : List ι} {f : ι → Except ε PUnit} (h : ∀ i ∈ l, Fails P (f i)) :
    Fails P (forM l f) := by
  induction l with
  | nil => exact ok _
  | cons i l ih =>
    rw [List.forM_cons]
    exact bind (h i (by simp)) fun _ => ih fun j hj => h j (by simp [hj])

theorem ite {c : Prop} [Decidable c] {x y : Except ε α} (hx : Fails P x) (hy : Fails P y) :
    Fails P (if c then x else y) := by
  split <;> assumption

end Fails

/-- `P` holds of every error the program can end with, whatever the answers. -/
def Throws (P : ε → Prop) (x : ProgE ε Req Resp α) : Prop :=
  x.run.All (Fails P)

namespace Throws

variable {P : ε → Prop} {x : ProgE ε Req Resp α}

theorem eval (h : Throws P x) {answer : (r : Req) → Resp r} {e : ε}
    (he : evalE answer x = .error e) : P e :=
  Prog.All.eval h answer e he

theorem mono {P' : ε → Prop} (h : Throws P x) (hP : ∀ e, P e → P' e) : Throws P' x :=
  Prog.All.mono h fun _ ha e he => hP e (ha e he)

theorem pure (a : α) : Throws P (pure a : ProgE ε Req Resp α) := Fails.ok a

theorem throw {e : ε} (h : P e) : Throws P (throw e : ProgE ε Req Resp α) :=
  Fails.error h

theorem lift (p : Prog Req Resp α) : Throws P (liftM p : ProgE ε Req Resp α) := by
  have hrun : (liftM p : ProgE ε Req Resp α).run = p >>= fun a => .done (.ok a) := by
    simp [← bind_pure_comp]
  rw [Throws, hrun]
  exact p.all_true.bind fun a _ => Fails.ok a

theorem bind {f : α → ProgE ε Req Resp β} (h : Throws P x) (hf : ∀ a, Throws P (f a)) :
    Throws P (x >>= f) := by
  change Prog.All _ ((x >>= f).run)
  rw [ExceptT.run_bind]
  refine Prog.All.bind h fun a ha => ?_
  cases a with
  | error e => exact Fails.error (ha e rfl)
  | ok a => exact hf a

theorem attempt (y : ProgE ε Req Resp α) : Throws P (attempt y) := lift y.run

theorem liftExcept {y : Except ε α} (h : Fails P y) :
    Throws P (liftExcept y : ProgE ε Req Resp α) := by
  cases y with
  | error e => exact throw (h e rfl)
  | ok a => exact pure a

theorem forM {ι : Type} {l : List ι} {f : ι → ProgE ε Req Resp PUnit}
    (h : ∀ i ∈ l, Throws P (f i)) : Throws P (forM l f) := by
  induction l with
  | nil => exact pure _
  | cons i l ih =>
    rw [List.forM_cons]
    exact bind (h i (by simp)) fun _ => ih fun j hj => h j (by simp [hj])

end Throws

/-- `Q` holds of every result the program can succeed with, whatever the answers. -/
def Returns (Q : α → Prop) (x : ProgE ε Req Resp α) : Prop :=
  x.run.All fun r => ∀ a, r = .ok a → Q a

namespace Returns

variable {Q : α → Prop} {x : ProgE ε Req Resp α}

theorem eval (h : Returns Q x) {answer : (r : Req) → Resp r} {a : α}
    (ha : evalE answer x = .ok a) : Q a :=
  Prog.All.eval h answer a ha

theorem mono {Q' : α → Prop} (h : Returns Q x) (hQ : ∀ a, Q a → Q' a) : Returns Q' x :=
  Prog.All.mono h fun _ hr a ha => hQ a (hr a ha)

theorem true (x : ProgE ε Req Resp α) : Returns (fun _ => True) x :=
  x.run.all_true.mono fun _ _ _ _ => trivial

theorem pure {a : α} (h : Q a) : Returns Q (pure a : ProgE ε Req Resp α) := by
  intro b hb
  cases hb
  exact h

theorem throw (e : ε) : Returns Q (throw e : ProgE ε Req Resp α) := by
  intro b hb
  cases hb

theorem bind {Q' : β → Prop} {f : α → ProgE ε Req Resp β} (h : Returns Q x)
    (hf : ∀ a, Q a → Returns Q' (f a)) : Returns Q' (x >>= f) := by
  change Prog.All _ ((x >>= f).run)
  rw [ExceptT.run_bind]
  refine Prog.All.bind h fun r hr => ?_
  cases r with
  | error e => exact throw e
  | ok a => exact hf a (hr a rfl)

theorem mapErr (f : ε → ε) (h : Returns Q x) : Returns Q (mapErr f x) := by
  change Prog.All _ (Except.mapError f <$> x.run)
  rw [← bind_pure_comp]
  refine Prog.All.bind h fun r hr => ?_
  intro a ha
  cases r with
  | error e => cases ha
  | ok b =>
    cases ha
    exact hr _ rfl

end Returns
end Failing
end Interaction
