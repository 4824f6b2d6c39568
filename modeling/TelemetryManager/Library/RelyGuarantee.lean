import TelemetryManager.Library.Interleaving

/-! Rules for programs that share a server with others. A contract says what others may do to the
server meanwhile and what each request of the program must guarantee. The rules compose the contract
of a program from its parts, and a run of programs that keep the contract keeps it in every step. -/
namespace Interaction

structure Contract (σ : Type) where
  Later : σ → σ → Prop
  Guarantee : σ → σ → Prop
  refl : ∀ s, Later s s
  trans : ∀ {s t u}, Later s t → Later t u → Later s u
  later : ∀ {s t}, Guarantee s t → Later s t

namespace Contract

variable {Req : Type} {Resp : Req → Type} {σ ι α β ε : Type}

/-- Once true, the fact stays true. -/
def Stable (c : Contract σ) (P : σ → Prop) : Prop := ∀ s t, c.Later s t → P s → P t

/-- Every request of the program meets the guarantee, and what it returns satisfies `Q` from then
on. -/
def Keeps (c : Contract σ) (Serve : σ → (r : Req) → Resp r → σ → Prop) (Q : α → σ → Prop) :
    Prog Req Resp α → σ → Prop
  | .done a, s => ∀ t, c.Later s t → Q a t
  | .call r next, s => ∀ s', c.Later s s' → ∀ x t, Serve s' r x t →
      c.Guarantee s' t ∧ c.Keeps Serve Q (next x) t

variable {c : Contract σ} {Serve : σ → (r : Req) → Resp r → σ → Prop} {Q : α → σ → Prop}
  {p : Prog Req Resp α} {s t : σ}

theorem Keeps.later (h : c.Keeps Serve Q p s) (hst : c.Later s t) : c.Keeps Serve Q p t := by
  cases p with
  | done a => exact fun u htu => h u (c.trans hst htu)
  | call r next => exact fun s' hs' => h s' (c.trans hst hs')

theorem keeps_done {a : α} (hstable : c.Stable (Q a)) (h : Q a s) :
    c.Keeps Serve Q (Prog.done a : Prog Req Resp α) s :=
  fun t hst => hstable s t hst h

theorem keeps_request {r : Req} {Q : Resp r → σ → Prop} (hstable : ∀ x, c.Stable (Q x))
    (h : ∀ t, c.Later s t → ∀ x u, Serve t r x u → c.Guarantee t u ∧ Q x u) :
    c.Keeps Serve Q (Prog.request r) s :=
  fun t hst x u hserve => ⟨(h t hst x u hserve).1,
    keeps_done (hstable x) (h t hst x u hserve).2⟩

theorem Keeps.imp {Q' : α → σ → Prop} (h : c.Keeps Serve Q p s) (himp : ∀ a t, Q a t → Q' a t) :
    c.Keeps Serve Q' p s := by
  induction p generalizing s with
  | done a => exact fun t hst => himp a t (h t hst)
  | call r next ih =>
    intro s' hs' x t hserve
    obtain ⟨hguarantee, hnext⟩ := h s' hs' x t hserve
    exact ⟨hguarantee, ih x hnext⟩

theorem Keeps.map {f : β → α} {p : Prog Req Resp β} (h : c.Keeps Serve (fun b => Q (f b)) p s) :
    c.Keeps Serve Q (f <$> p) s := by
  rw [← bind_pure_comp]
  induction p generalizing s with
  | done b => exact h
  | call r next ih =>
    intro s' hs' x t hserve
    obtain ⟨hguarantee, hnext⟩ := h s' hs' x t hserve
    exact ⟨hguarantee, ih x hnext⟩

/-- When the program returns, time has passed. -/
theorem Keeps.frame (h : c.Keeps Serve Q p s) :
    c.Keeps Serve (fun a t => c.Later s t ∧ Q a t) p s := by
  induction p generalizing s with
  | done a => exact fun t hst => ⟨hst, h t hst⟩
  | call r next ih =>
    intro s' hs' x t hserve
    obtain ⟨hguarantee, hnext⟩ := h s' hs' x t hserve
    have hst : c.Later s t := c.trans hs' (c.later hguarantee)
    exact ⟨hguarantee, (ih x hnext).imp fun a u hu => ⟨c.trans hst hu.1, hu.2⟩⟩

/-- What follows a program may use all that the program established, and that time has passed. -/
theorem Keeps.bind {Q' : β → σ → Prop} {f : α → Prog Req Resp β} (h : c.Keeps Serve Q p s)
    (hf : ∀ a t, c.Later s t → Q a t → c.Keeps Serve Q' (f a) t) :
    c.Keeps Serve Q' (p >>= f) s := by
  induction p generalizing s with
  | done a => exact hf a s (c.refl s) (h s (c.refl s))
  | call r next ih =>
    intro s' hs' x t hserve
    obtain ⟨hguarantee, hnext⟩ := h s' hs' x t hserve
    refine ⟨hguarantee, ih x hnext fun a u htu hQ => hf a u ?_ hQ⟩
    exact c.trans (c.trans hs' (c.later hguarantee)) htu

/-- The program keeps the contract, and a result that it succeeds with satisfies `Q` from
then on. -/
def KeepsE (c : Contract σ) (Serve : σ → (r : Req) → Resp r → σ → Prop) (Q : α → σ → Prop)
    (x : ProgE ε Req Resp α) (s : σ) : Prop :=
  c.Keeps Serve (fun r t => ∀ a, r = .ok a → Q a t) x.run s

section Failing

variable {x : ProgE ε Req Resp α}

theorem keepsE_pure {a : α} (hstable : c.Stable (Q a)) (h : Q a s) :
    c.KeepsE Serve Q (pure a : ProgE ε Req Resp α) s := by
  intro t hst b hb
  cases hb
  exact hstable s t hst h

theorem keepsE_throw (e : ε) : c.KeepsE Serve Q (throw e : ProgE ε Req Resp α) s := by
  intro t _ a ha
  cases ha

theorem keepsE_lift {p : Prog Req Resp α} (h : c.Keeps Serve Q p s) :
    c.KeepsE Serve Q (liftM p : ProgE ε Req Resp α) s := by
  change c.Keeps Serve _ (Except.ok <$> p) s
  refine Keeps.map (h.imp fun a t hQ b hb => ?_)
  cases hb
  exact hQ

theorem KeepsE.mapErr (f : ε → ε) (h : c.KeepsE Serve Q x s) : c.KeepsE Serve Q (mapErr f x) s := by
  change c.Keeps Serve _ (Except.mapError f <$> x.run) s
  refine Keeps.map (Keeps.imp h fun r t hr a ha => ?_)
  cases r with
  | error e => cases ha
  | ok b =>
    cases ha
    exact hr _ rfl

theorem KeepsE.bind {Q' : β → σ → Prop} {f : α → ProgE ε Req Resp β}
    (h : c.KeepsE Serve Q x s) (hf : ∀ a t, c.Later s t → Q a t → c.KeepsE Serve Q' (f a) t) :
    c.KeepsE Serve Q' (x >>= f) s := by
  change c.Keeps Serve _ ((x >>= f).run) s
  rw [ExceptT.run_bind]
  refine Keeps.bind h fun r t hst hr => ?_
  cases r with
  | error e => exact keepsE_throw e
  | ok a => exact hf a t hst (hr a rfl)

theorem keepsE_forM {Done : ι → σ → Prop} {l : List ι} {f : ι → ProgE ε Req Resp PUnit}
    (hstable : ∀ i, c.Stable (Done i))
    (h : ∀ i ∈ l, ∀ t, c.Later s t → c.KeepsE Serve (fun _ => Done i) (f i) t) :
    c.KeepsE Serve (fun _ t => ∀ i ∈ l, Done i t) (forM l f) s := by
  induction l generalizing s with
  | nil => exact keepsE_pure (fun _ _ _ _ => nofun) nofun
  | cons i l ih =>
    rw [List.forM_cons]
    refine (h i List.mem_cons_self s (c.refl s)).bind fun _ t hst hdone => ?_
    have hrest := ih fun j hj u htu => h j (List.mem_cons_of_mem i hj) u (c.trans hst htu)
    refine Keeps.imp (Keeps.frame hrest) fun r u hu a ha j hj => ?_
    rcases List.mem_cons.mp hj with rfl | hj
    · exact hstable j t u hu.1 hdone
    · exact hu.2 a ha j hj

end Failing

section Runs

variable {A : Type} {Act : σ → A → σ → Prop} [DecidableEq ι] {Q : ι → α → σ → Prop}
  {s t : System Req Resp σ ι α} {trace : List (Event σ (A ⊕ ι))}

/-- In a run of programs that keep a contract each step is one of the environment or meets the
guarantee, and the programs still keep the contract. -/
theorem keeps_of_openRun (hrun : OpenRun Act Serve s trace t)
    (hact : ∀ s a t, Act s a t → c.Later s t)
    (hprocs : ∀ i, c.Keeps Serve (Q i) (s.procs i) s.server) :
    (∀ i, c.Keeps Serve (Q i) (t.procs i) t.server) ∧
      ∀ e ∈ trace, (∃ a, Act e.before a e.after) ∨ c.Guarantee e.before e.after := by
  induction hrun with
  | refl => exact ⟨hprocs, nofun⟩
  | tail hrun hstep ih =>
    obtain ⟨hkeeps, htrace⟩ := ih
    cases hstep with
    | act ha =>
      refine ⟨fun i => (hkeeps i).later (hact _ _ _ ha), ?_⟩
      simp only [List.mem_append, List.mem_singleton]
      rintro e (he | rfl)
      · exact htrace e he
      · exact .inl ⟨_, ha⟩
    | answer hstep =>
      cases hstep with
      | answer hproc hserve =>
        rename_i u i r next x t'
        have hcall := hkeeps i
        rw [hproc] at hcall
        obtain ⟨hguarantee, hnext⟩ := hcall _ (c.refl _) _ _ hserve
        refine ⟨fun j => ?_, ?_⟩
        · rcases eq_or_ne j i with rfl | hj
          · simpa using hnext
          · simpa [hj] using (hkeeps j).later (c.later hguarantee)
        · simp only [List.mem_append, List.mem_singleton]
          rintro e (he | rfl)
          · exact htrace e he
          · exact .inr hguarantee

end Runs
end Contract
end Interaction
