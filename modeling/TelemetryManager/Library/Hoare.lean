import TelemetryManager.Library.Execution

/-! Programs that have a server for themselves. An execution threads the state of the server through
the requests. What holds after every execution is computed backwards along the program, one request
at a time. -/
namespace Interaction

variable {Req : Type} {Resp : Req → Type} {σ α β ε : Type}

inductive Served (Serve : σ → (r : Req) → Resp r → σ → Prop) :
    Prog Req Resp α → σ → α → σ → Prop where
  | done (a : α) (s : σ) : Served Serve (.done a) s a s
  | call {r : Req} {next : Resp r → Prog Req Resp α} {x : Resp r} {s t u : σ} {a : α}
      (hserve : Serve s r x t) (h : Served Serve (next x) t a u) : Served Serve (.call r next) s a u

/-- `Q` holds of the result and of the server after every execution. -/
def Ensures (Serve : σ → (r : Req) → Resp r → σ → Prop) (Q : α → σ → Prop) :
    Prog Req Resp α → σ → Prop
  | .done a, s => Q a s
  | .call r next, s => ∀ x t, Serve s r x t → Ensures Serve Q (next x) t

variable {Serve : σ → (r : Req) → Resp r → σ → Prop} {Q Q' : α → σ → Prop} {p : Prog Req Resp α}
  {s t : σ} {a : α}

theorem Ensures.served (h : Ensures Serve Q p s) (hserved : Served Serve p s a t) : Q a t := by
  induction hserved with
  | done a s => exact h
  | call hserve _ ih => exact ih (h _ _ hserve)

theorem Served.mono {Serve' : σ → (r : Req) → Resp r → σ → Prop} (h : Served Serve p s a t)
    (himp : ∀ s r x t, Serve s r x t → Serve' s r x t) : Served Serve' p s a t := by
  induction h with
  | done a s => exact .done a s
  | call hserve _ ih => exact .call (himp _ _ _ _ hserve) ih

theorem ensures_of_served (h : ∀ a t, Served Serve p s a t → Q a t) : Ensures Serve Q p s := by
  induction p generalizing s with
  | done a => exact h a s (.done a s)
  | call r next ih => exact fun x t hserve => ih x fun a u hserved => h a u (.call hserve hserved)

theorem Ensures.mono (h : Ensures Serve Q p s) (himp : ∀ a t, Q a t → Q' a t) :
    Ensures Serve Q' p s :=
  ensures_of_served fun a t hserved => himp a t (h.served hserved)

theorem ensures_bind {Q : β → σ → Prop} {f : α → Prog Req Resp β} :
    Ensures Serve Q (p >>= f) s ↔ Ensures Serve (fun a t => Ensures Serve Q (f a) t) p s := by
  induction p generalizing s with
  | done a => exact Iff.rfl
  | call r next ih => exact forall_congr' fun x => forall₂_congr fun t _ => ih x

theorem ensures_map {Q : β → σ → Prop} {f : α → β} :
    Ensures Serve Q (f <$> p) s ↔ Ensures Serve (fun a => Q (f a)) p s := by
  rw [← bind_pure_comp, ensures_bind]
  exact Iff.rfl

def runWith (answer : σ → (r : Req) → Resp r × σ) : Prog Req Resp α → σ → α × σ
  | .done a, s => (a, s)
  | .call r next, s => runWith answer (next (answer s r).1) (answer s r).2

theorem Served.exists_exec (h : Served Serve p s a t) : ∃ log, Exec p log a := by
  induction h with
  | done a s => exact ⟨[], .done a⟩
  | call _ _ ih =>
    obtain ⟨log, hexec⟩ := ih
    exact ⟨_, .call hexec⟩

/-- The answers have to be right only for what is asked, and in states that the run is in. -/
theorem served_runWith_of_asks (answer : σ → (r : Req) → Resp r × σ) {R : Req → Prop}
    {I : σ → Prop} (hasks : ∀ log a, Exec p log a → ∀ e ∈ log, R e.1) (hI : I s)
    (hanswer : ∀ s r, I s → R r → Serve s r (answer s r).1 (answer s r).2 ∧ I (answer s r).2) :
    Served Serve p s (runWith answer p s).1 (runWith answer p s).2 := by
  induction p generalizing s with
  | done a => exact .done a s
  | call r next ih =>
    obtain ⟨log, hexec, -⟩ := exec_eval (fun r => (answer s r).1) (next (answer s r).1)
    obtain ⟨hserve, hkept⟩ := hanswer s r hI (hasks _ _ (.call hexec) _ List.mem_cons_self)
    refine .call hserve (ih _ (fun log a hrun e he => ?_) hkept)
    exact hasks _ a (.call hrun) e (List.mem_cons_of_mem _ he)

theorem served_runWith {answer : σ → (r : Req) → Resp r × σ}
    (hanswer : ∀ s r, Serve s r (answer s r).1 (answer s r).2) (p : Prog Req Resp α) (s : σ) :
    Served Serve p s (runWith answer p s).1 (runWith answer p s).2 :=
  served_runWith_of_asks _ (R := fun _ => True) (I := fun _ => True) (fun _ _ _ _ _ => trivial)
    trivial fun s r _ _ => ⟨hanswer s r, trivial⟩

theorem Served.keeps {R : Req → Prop} {I : σ → Prop} (h : Served Serve p s a t)
    (hasks : ∀ log a, Exec p log a → ∀ e ∈ log, R e.1) (hI : I s)
    (hkeep : ∀ s r x t, R r → Serve s r x t → I s → I t) : I t := by
  induction h with
  | done a s => exact hI
  | call hserve hrest ih =>
    obtain ⟨log, hexec⟩ := hrest.exists_exec
    refine ih (fun log a hrun e he => hasks _ a (.call hrun) e (List.mem_cons_of_mem _ he)) ?_
    exact hkeep _ _ _ _ (hasks _ _ (.call hexec) _ List.mem_cons_self) hserve hI

def ServedE (Serve : σ → (r : Req) → Resp r → σ → Prop) (x : ProgE ε Req Resp α) (s : σ)
    (r : Except ε α) (t : σ) : Prop :=
  Served Serve x.run s r t

/-- `Q` holds of the result, a success or an error, and of the server after every execution. -/
def EnsuresE (Serve : σ → (r : Req) → Resp r → σ → Prop) (Q : Except ε α → σ → Prop)
    (x : ProgE ε Req Resp α) (s : σ) : Prop :=
  Ensures Serve Q x.run s

section Failing

variable {Q Q' : Except ε α → σ → Prop} {x : ProgE ε Req Resp α}

theorem EnsuresE.served {r : Except ε α} (h : EnsuresE Serve Q x s)
    (hserved : ServedE Serve x s r t) :
    Q r t :=
  Ensures.served h hserved

theorem EnsuresE.mono (h : EnsuresE Serve Q x s) (himp : ∀ r t, Q r t → Q' r t) :
    EnsuresE Serve Q' x s :=
  Ensures.mono h himp

theorem EnsuresE.and (h : EnsuresE Serve Q x s) (h' : EnsuresE Serve Q' x s) :
    EnsuresE Serve (fun r t => Q r t ∧ Q' r t) x s :=
  ensures_of_served fun _ _ hserved => ⟨h.served hserved, h'.served hserved⟩

theorem ensuresE_lift {p : Prog Req Resp α} :
    EnsuresE Serve Q (liftM p : ProgE ε Req Resp α) s ↔
      Ensures Serve (fun a => Q (.ok a)) p s := by
  change Ensures Serve Q (Except.ok <$> p) s ↔ _
  exact ensures_map

theorem ensuresE_request {r : Req} {Q : Except ε (Resp r) → σ → Prop} :
    EnsuresE Serve Q (.request r : ProgE ε Req Resp (Resp r)) s ↔
      ∀ x t, Serve s r x t → Q (.ok x) t :=
  ensuresE_lift

theorem ensuresE_mapErr {f : ε → ε} :
    EnsuresE Serve Q (mapErr f x) s ↔ EnsuresE Serve (fun r => Q (r.mapError f)) x s := by
  change Ensures Serve Q (Except.mapError f <$> x.run) s ↔ _
  exact ensures_map

theorem ensuresE_attempt {Q : Except ε (Except ε α) → σ → Prop} :
    EnsuresE Serve Q (attempt x) s ↔ EnsuresE Serve (fun r => Q (.ok r)) x s := by
  change Ensures Serve Q (Except.ok <$> x.run) s ↔ _
  exact ensures_map

variable {f : α → ProgE ε Req Resp β}

/-- What has to hold after the first part: what the second part needs, or what an error needs. -/
theorem ensuresE_bind {Q : Except ε β → σ → Prop} :
    EnsuresE Serve Q (x >>= f) s ↔ EnsuresE Serve (fun r t => match r with
      | .ok a => EnsuresE Serve Q (f a) t
      | .error e => Q (.error e) t) x s := by
  change Ensures Serve Q ((x >>= f).run) s ↔ _
  rw [ExceptT.run_bind, ensures_bind]
  refine ⟨fun h => Ensures.mono h ?_, fun h => Ensures.mono h ?_⟩ <;>
    · rintro (e | a) t hr
      · exact hr
      · exact hr

theorem ensuresE_request_bind {r : Req} {f : Resp r → ProgE ε Req Resp α}
    (h : ∀ x t, Serve s r x t → EnsuresE Serve Q (f x) t) :
    EnsuresE Serve Q (.request r >>= f) s :=
  ensuresE_bind.mpr (ensuresE_request.mpr h)

theorem EnsuresE.bind {Q' : Except ε β → σ → Prop}
    (h : EnsuresE Serve Q x s) (hok : ∀ a t, Q (.ok a) t → EnsuresE Serve Q' (f a) t)
    (herror : ∀ e t, Q (.error e) t → Q' (.error e) t) : EnsuresE Serve Q' (x >>= f) s := by
  rw [ensuresE_bind]
  refine h.mono ?_
  rintro (e | a) t hr
  · exact herror e t hr
  · exact hok a t hr

theorem EnsuresE.attempt_bind {Q' : Except ε β → σ → Prop}
    {f : Except ε α → ProgE ε Req Resp β} (h : EnsuresE Serve Q x s)
    (hf : ∀ r t, Q r t → EnsuresE Serve Q' (f r) t) : EnsuresE Serve Q' (attempt x >>= f) s := by
  rw [ensuresE_bind, ensuresE_attempt]
  exact h.mono hf

theorem EnsuresE.mapErr_bind {Q' : Except ε β → σ → Prop} {g : ε → ε}
    (h : EnsuresE Serve Q x s) (hok : ∀ a t, Q (.ok a) t → EnsuresE Serve Q' (f a) t)
    (herror : ∀ e t, Q (.error e) t → Q' (.error (g e)) t) :
    EnsuresE Serve Q' (mapErr g x >>= f) s := by
  rw [ensuresE_bind, ensuresE_mapErr]
  refine h.mono ?_
  rintro (e | a) t hr
  · exact herror e t hr
  · exact hok a t hr

theorem EnsuresE.of_asks {R : Req → Prop} {I : σ → Prop} (hasks : Asks R x) (hI : I s)
    (hkeep : ∀ s r y t, R r → Serve s r y t → I s → I t) :
    EnsuresE Serve (fun _ t => I t) x s :=
  ensures_of_served fun _ _ hserved => hserved.keeps hasks hI hkeep

end Failing

inductive Answers (Serve : σ → (r : Req) → Resp r → σ → Prop) : σ → Log Req Resp → σ → Prop where
  | nil (s : σ) : Answers Serve s [] s
  | cons {r : Req} {x : Resp r} {log : Log Req Resp} {s t u : σ} (hserve : Serve s r x t)
      (h : Answers Serve t log u) : Answers Serve s (⟨r, x⟩ :: log) u

theorem answers_cons_iff {r : Req} {x : Resp r} {log : Log Req Resp} {u : σ} :
    Answers Serve s (⟨r, x⟩ :: log) u ↔ ∃ t, Serve s r x t ∧ Answers Serve t log u := by
  constructor
  · intro h
    cases h with
    | cons hserve h => exact ⟨_, hserve, h⟩
  · rintro ⟨t, hserve, h⟩
    exact .cons hserve h

theorem Answers.keeps {log : Log Req Resp} {I : σ → Prop} (h : Answers Serve s log t) (hI : I s)
    (hkeep : ∀ s t, ∀ e ∈ log, Serve s e.1 e.2 t → I s → I t) : I t := by
  induction h with
  | nil s => exact hI
  | cons hserve _ ih =>
    apply ih
    · exact hkeep _ _ _ List.mem_cons_self hserve hI
    · intro s t e he
      exact hkeep s t e (List.mem_cons_of_mem _ he)

/-- Others act on the server before it answers. -/
def Shared (Others : σ → σ → Prop) (Serve : σ → (r : Req) → Resp r → σ → Prop) (s : σ) (r : Req)
    (x : Resp r) (t : σ) : Prop :=
  ∃ u, Others s u ∧ Serve u r x t

end Interaction
