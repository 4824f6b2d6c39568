import TelemetryManager.Library.Interaction

/-! Executions of a program with the log of its requests and their answers.
The answers of an execution are arbitrary: one request may be answered differently each time it is
made. -/
namespace Interaction

variable {Req : Type} {Resp : Req → Type} {α β : Type}

abbrev Log (Req : Type) (Resp : Req → Type) := List (Σ r : Req, Resp r)

inductive Exec : Prog Req Resp α → Log Req Resp → α → Prop where
  | done (a : α) : Exec (.done a) [] a
  | call {r : Req} {next : Resp r → Prog Req Resp α} {x : Resp r} {log : Log Req Resp} {a : α}
      (h : Exec (next x) log a) : Exec (.call r next) (⟨r, x⟩ :: log) a

variable {log : Log Req Resp}

@[simp] theorem exec_done_iff {a b : α} :
    Exec (.done a) log b ↔ log = [] ∧ b = a := by
  constructor
  · intro h
    cases h
    exact ⟨rfl, rfl⟩
  · rintro ⟨rfl, rfl⟩
    exact .done _

theorem exec_call_iff {r : Req} {next : Resp r → Prog Req Resp α} {a : α} :
    Exec (.call r next) log a ↔ ∃ x rest, log = ⟨r, x⟩ :: rest ∧ Exec (next x) rest a := by
  constructor
  · intro h
    cases h with
    | call h => exact ⟨_, _, rfl, h⟩
  · rintro ⟨x, rest, rfl, h⟩
    exact .call h

variable {p : Prog Req Resp α}

theorem exec_bind_iff {f : α → Prog Req Resp β} {b : β} :
    Exec (p >>= f) log b ↔ ∃ a l l', log = l ++ l' ∧ Exec p l a ∧ Exec (f a) l' b := by
  induction p generalizing log with
  | done a =>
    constructor
    · exact fun h => ⟨a, [], log, rfl, .done a, h⟩
    · rintro ⟨a', l, l', rfl, h, h'⟩
      cases h
      exact h'
  | call r next ih =>
    rw [Prog.call_bind, exec_call_iff]
    constructor
    · rintro ⟨x, rest, rfl, h⟩
      obtain ⟨a, l, l', rfl, hp, hf⟩ := (ih x).mp h
      exact ⟨a, ⟨r, x⟩ :: l, l', rfl, .call hp, hf⟩
    · rintro ⟨a, l, l', rfl, hp, hf⟩
      obtain ⟨x, rest, rfl, h⟩ := exec_call_iff.mp hp
      exact ⟨x, rest ++ l', rfl, (ih x).mpr ⟨a, rest, l', rfl, h, hf⟩⟩

/-- The answers decide an execution: of two executions whose logs agree, with what follows them,
neither is longer. -/
theorem Exec.unique {l l' rest rest' : Log Req Resp} {a a' : α}
    (h : Exec p l a) (h' : Exec p l' a') (hlog : l ++ rest = l' ++ rest') :
    l = l' ∧ a = a' ∧ rest = rest' := by
  induction h generalizing l' with
  | done a =>
    cases h'
    exact ⟨rfl, rfl, by simpa using hlog⟩
  | call h ih =>
    obtain ⟨x', log', rfl, h''⟩ := exec_call_iff.mp h'
    rw [List.cons_append, List.cons_append, List.cons.injEq, Sigma.mk.injEq] at hlog
    obtain ⟨⟨-, hx⟩, htail⟩ := hlog
    cases hx
    obtain ⟨rfl, rfl, rfl⟩ := ih h'' htail
    exact ⟨rfl, rfl, rfl⟩

theorem Exec.all {a : α} {Q : α → Prop} (h : Exec p log a) (hp : p.All Q) : Q a := by
  induction h with
  | done a => exact hp
  | call h ih => exact ih (hp _)

theorem exec_eval (answer : (r : Req) → Resp r) (p : Prog Req Resp α) :
    ∃ log, Exec p log (p.eval answer) ∧ ∀ e ∈ log, e.2 = answer e.1 := by
  induction p with
  | done a => exact ⟨[], .done a, nofun⟩
  | call r next ih =>
    obtain ⟨log, hexec, hlog⟩ := ih (answer r)
    refine ⟨⟨r, answer r⟩ :: log, .call hexec, ?_⟩
    intro e he
    rcases List.mem_cons.mp he with rfl | he
    · rfl
    · exact hlog e he

theorem Exec.eq_eval {answer : (r : Req) → Resp r} {a : α}
    (h : Exec p log a) (hanswer : ∀ e ∈ log, e.2 = answer e.1) : a = p.eval answer := by
  induction h with
  | done a => rfl
  | call hexec ih =>
    have hx := hanswer _ List.mem_cons_self
    dsimp only at hx
    subst hx
    exact ih fun e he => hanswer e (List.mem_cons_of_mem _ he)

section Failing

variable {ε : Type}

def ExecE (x : ProgE ε Req Resp α) (log : Log Req Resp) (r : Except ε α) : Prop :=
  Exec x.run log r

variable {log : Log Req Resp} {x : ProgE ε Req Resp α}
  {f : α → ProgE ε Req Resp β} {r : Except ε α}

@[simp] theorem execE_pure_iff {a : α} {r : Except ε α} :
    ExecE (pure a : ProgE ε Req Resp α) log r ↔ log = [] ∧ r = .ok a :=
  exec_done_iff

@[simp] theorem execE_throw_iff {e : ε} {r : Except ε α} :
    ExecE (throw e : ProgE ε Req Resp α) log r ↔ log = [] ∧ r = .error e :=
  exec_done_iff

@[simp] theorem execE_liftExcept_iff {x r : Except ε α} :
    ExecE (liftExcept x : ProgE ε Req Resp α) log r ↔ log = [] ∧ r = x := by
  cases x with
  | error e => exact execE_throw_iff
  | ok a => exact execE_pure_iff

theorem exec_map_iff {p : Prog Req Resp α} {f : α → β} {b : β} :
    Exec (f <$> p) log b ↔ ∃ a, Exec p log a ∧ b = f a := by
  rw [← bind_pure_comp, exec_bind_iff]
  constructor
  · rintro ⟨a, l, l', rfl, h, h'⟩
    obtain ⟨rfl, rfl⟩ := exec_done_iff.mp h'
    exact ⟨a, by simpa using h, rfl⟩
  · rintro ⟨a, h, rfl⟩
    exact ⟨a, log, [], by simp, h, .done _⟩

theorem execE_lift_iff {p : Prog Req Resp α} {r : Except ε α} :
    ExecE (liftM p : ProgE ε Req Resp α) log r ↔ ∃ a, Exec p log a ∧ r = .ok a :=
  exec_map_iff

theorem execE_attempt_iff {r : Except ε (Except ε α)} :
    ExecE (attempt x) log r ↔ ∃ r', ExecE x log r' ∧ r = .ok r' :=
  exec_map_iff

theorem execE_mapErr_iff {f : ε → ε} {r : Except ε α} :
    ExecE (mapErr f x) log r ↔ ∃ r', ExecE x log r' ∧ r = r'.mapError f :=
  exec_map_iff

theorem execE_mapErr_ok_iff {f : ε → ε} {a : α} :
    ExecE (mapErr f x) log (.ok a) ↔ ExecE x log (.ok a) := by
  rw [execE_mapErr_iff]
  constructor
  · rintro ⟨r, hexec, hr⟩
    cases r with
    | error e => cases hr
    | ok b =>
      cases hr
      exact hexec
  · intro hexec
    exact ⟨_, hexec, rfl⟩

theorem execE_bind_iff {r : Except ε β} :
    ExecE (x >>= f) log r ↔ (∃ e, ExecE x log (.error e) ∧ r = .error e) ∨
      ∃ a l l', log = l ++ l' ∧ ExecE x l (.ok a) ∧ ExecE (f a) l' r := by
  unfold ExecE
  rw [ExceptT.run_bind, exec_bind_iff]
  constructor
  · rintro ⟨r', l, l', rfl, h, h'⟩
    cases r' with
    | error e =>
      obtain ⟨rfl, rfl⟩ := exec_done_iff.mp h'
      exact .inl ⟨e, by simpa using h, rfl⟩
    | ok a => exact .inr ⟨a, l, l', rfl, h, h'⟩
  · rintro (⟨e, h, rfl⟩ | ⟨a, l, l', rfl, h, h'⟩)
    · exact ⟨.error e, log, [], by simp, h, .done _⟩
    · exact ⟨.ok a, l, l', rfl, h, h'⟩

theorem execE_evalE (answer : (r : Req) → Resp r) (x : ProgE ε Req Resp α) :
    ∃ log, ExecE x log (evalE answer x) ∧ ∀ e ∈ log, e.2 = answer e.1 :=
  exec_eval answer x.run

theorem ExecE.eq_evalE {answer : (r : Req) → Resp r}
    {r : Except ε α} (h : ExecE x log r) (hanswer : ∀ e ∈ log, e.2 = answer e.1) :
    r = evalE answer x :=
  Exec.eq_eval h hanswer

theorem execE_request_bind_iff {r : Req} {f : Resp r → ProgE ε Req Resp α} {res : Except ε α} :
    ExecE (.request r >>= f) log res ↔
      ∃ a rest, log = ⟨r, a⟩ :: rest ∧ ExecE (f a) rest res :=
  exec_call_iff

theorem execE_attempt_bind_iff {f : Except ε α → ProgE ε Req Resp β} {res : Except ε β} :
    ExecE (attempt x >>= f) log res ↔
      ∃ r l l', log = l ++ l' ∧ ExecE x l r ∧ ExecE (f r) l' res := by
  rw [execE_bind_iff]
  constructor
  · rintro (⟨e, hx, -⟩ | ⟨r, l, l', rfl, hx, hf⟩)
    · obtain ⟨r, -, hr⟩ := execE_attempt_iff.mp hx
      cases hr
    · obtain ⟨r', hx', hr⟩ := execE_attempt_iff.mp hx
      cases hr
      exact ⟨r, l, l', rfl, hx', hf⟩
  · rintro ⟨r, l, l', rfl, hx, hf⟩
    exact .inr ⟨r, l, l', rfl, execE_attempt_iff.mpr ⟨r, hx, rfl⟩, hf⟩

/-- Every request in an execution of the program satisfies `Q`. -/
def Asks (Q : Req → Prop) (x : ProgE ε Req Resp α) : Prop :=
  ∀ log r, ExecE x log r → ∀ entry ∈ log, Q entry.1

namespace Asks

variable {Q : Req → Prop}

theorem mono {Q' : Req → Prop} (h : Asks Q x) (hQ : ∀ r, Q r → Q' r) : Asks Q' x :=
  fun log r hexec entry hentry => hQ _ (h log r hexec entry hentry)

/-- The result of a program depends on the answers to the requests it can make, and on no others. -/
theorem evalE_congr (h : Asks Q x) {answer answer' : (r : Req) → Resp r}
    (hagree : ∀ r, Q r → answer r = answer' r) :
    evalE answer x = evalE answer' x := by
  obtain ⟨log, hexec, hlog⟩ := execE_evalE answer x
  refine hexec.eq_evalE fun e he => ?_
  rw [hlog e he, hagree e.1 (h log _ hexec e he)]

theorem pure (a : α) : Asks Q (pure a : ProgE ε Req Resp α) := by
  intro log r h
  simp [(execE_pure_iff.mp h).1]

theorem throw (e : ε) : Asks Q (throw e : ProgE ε Req Resp α) := by
  intro log r h
  simp [(execE_throw_iff.mp h).1]

theorem liftExcept (x : Except ε α) : Asks Q (liftExcept x : ProgE ε Req Resp α) := by
  intro log r h
  simp [(execE_liftExcept_iff.mp h).1]

theorem ite {c : Prop} [Decidable c] {y : ProgE ε Req Resp α} (h : Asks Q x)
    (h' : Asks Q y) : Asks Q (if c then x else y) := by
  split
  · exact h
  · exact h'

theorem request {r : Req} (h : Q r) : Asks Q (ProgE.request r : ProgE ε Req Resp (Resp r)) := by
  intro log res hexec
  obtain ⟨a, hcall, -⟩ := execE_lift_iff.mp hexec
  obtain ⟨x, rest, rfl, hdone⟩ := exec_call_iff.mp hcall
  obtain ⟨rfl, -⟩ := exec_done_iff.mp hdone
  simpa using h

theorem attempt (h : Asks Q x) : Asks Q (attempt x) := by
  intro log r hexec
  obtain ⟨r', hx, -⟩ := execE_attempt_iff.mp hexec
  exact h log r' hx

theorem mapErr {f : ε → ε} (h : Asks Q x) : Asks Q (mapErr f x) := by
  intro log r hexec
  obtain ⟨r', hx, -⟩ := execE_mapErr_iff.mp hexec
  exact h log r' hx

theorem bind (h : Asks Q x) (hf : ∀ a, Asks Q (f a)) : Asks Q (x >>= f) := by
  intro log r hexec entry hentry
  rcases execE_bind_iff.mp hexec with ⟨e, hx, -⟩ | ⟨a, l, l', rfl, hx, hfa⟩
  · exact h log _ hx entry hentry
  · rcases List.mem_append.mp hentry with hl | hl'
    · exact h l _ hx entry hl
    · exact hf a l' r hfa entry hl'

theorem forM {ι : Type} {l : List ι} {f : ι → ProgE ε Req Resp PUnit}
    (h : ∀ i ∈ l, Asks Q (f i)) : Asks Q (forM l f) := by
  induction l with
  | nil => exact pure _
  | cons i l ih =>
    rw [List.forM_cons]
    exact bind (h i (by simp)) fun _ => ih fun j hj => h j (by simp [hj])

end Asks

/-- Every answered request of an execution is good, given the part of the log in front of it. -/
def Emits (Good : Log Req Resp → (Σ r : Req, Resp r) → Prop) (x : ProgE ε Req Resp α) : Prop :=
  ∀ log r, ExecE x log r → ∀ before entry after, log = before ++ entry :: after → Good before entry

namespace Emits

variable {Good : Log Req Resp → (Σ r : Req, Resp r) → Prop}

theorem mono {Good' : Log Req Resp → (Σ r : Req, Resp r) → Prop} (h : Emits Good x)
    (hgood : ∀ before entry, Good before entry → Good' before entry) : Emits Good' x :=
  fun log r hexec before entry after hlog => hgood _ _ (h log r hexec before entry after hlog)

theorem of_asks {Q : Req → Prop} (h : Asks Q x)
    (hgood : ∀ before entry, Q entry.1 → Good before entry) : Emits Good x := by
  rintro log r hexec before entry after rfl
  exact hgood before entry (h _ r hexec entry (by simp))

theorem mapErr {f : ε → ε} (h : Emits Good x) : Emits Good (mapErr f x) := by
  intro log r hexec
  obtain ⟨r', hx, -⟩ := execE_mapErr_iff.mp hexec
  exact h log r' hx

/-- What follows a program sees the log of the program in front of its own. -/
theorem bind (h : Emits Good x)
    (hf : ∀ a l, ExecE x l (.ok a) → Emits (fun before entry => Good (l ++ before) entry) (f a)) :
    Emits Good (x >>= f) := by
  intro log r hexec before entry after hlog
  rcases execE_bind_iff.mp hexec with ⟨e, hx, -⟩ | ⟨a, l, l', rfl, hx, hfa⟩
  · exact h log _ hx before entry after hlog
  · rcases List.append_eq_append_iff.mp hlog with ⟨mid, rfl, hl'⟩ | ⟨mid, hl, hmid⟩
    · exact hf a l hx l' r hfa mid entry after hl'
    · cases mid with
      | nil =>
        have hnil := hf a l hx l' r hfa [] entry after (by simpa using hmid.symm)
        simpa [hl] using hnil
      | cons e mid =>
        cases hmid
        exact h l _ hx before entry mid hl

end Emits

/-- An execution with a bad answer fails, with an error of class `P`. -/
def FailsOn (Bad : (Σ r : Req, Resp r) → Prop) (P : ε → Prop) (x : ProgE ε Req Resp α) : Prop :=
  ∀ log r, ExecE x log r → (∃ entry ∈ log, Bad entry) → ∃ e, r = .error e ∧ P e

namespace FailsOn

variable {Bad : (Σ r : Req, Resp r) → Prop} {P : ε → Prop}

theorem of_asks {Q : Req → Prop} (h : Asks Q x)
    (hQ : ∀ entry, Bad entry → ¬ Q entry.1) : FailsOn Bad P x := by
  rintro log r hexec ⟨entry, hentry, hbad⟩
  exact absurd (h log r hexec entry hentry) (hQ entry hbad)

/-- Without errors to fail with, the program never makes such a request. -/
theorem asks {Q : Req → Prop} (h : FailsOn (fun entry => ¬ Q entry.1) (fun _ => False) x) :
    Asks Q x := by
  refine fun log r hexec entry hentry => Classical.byContradiction fun hQ => ?_
  obtain ⟨e, -, hfalse⟩ := h log r hexec ⟨entry, hentry, hQ⟩
  exact hfalse

theorem mono {Bad' : (Σ r : Req, Resp r) → Prop} {P' : ε → Prop} (h : FailsOn Bad P x)
    (hbad : ∀ entry, Bad' entry → Bad entry) (hP : ∀ e, P e → P' e) : FailsOn Bad' P' x := by
  rintro log r hexec ⟨entry, hentry, hb⟩
  obtain ⟨e, he, hPe⟩ := h log r hexec ⟨entry, hentry, hbad entry hb⟩
  exact ⟨e, he, hP e hPe⟩

theorem mapErr {g : ε → ε} (h : FailsOn Bad P x) : FailsOn Bad (fun _ => True) (mapErr g x) := by
  intro log r hexec hbad
  obtain ⟨r', hx, rfl⟩ := execE_mapErr_iff.mp hexec
  obtain ⟨e, rfl, -⟩ := h log r' hx hbad
  exact ⟨g e, rfl, trivial⟩

theorem pure (a : α) : FailsOn Bad P (pure a : ProgE ε Req Resp α) :=
  of_asks (Q := fun _ => False) (.pure a) fun _ _ h => h

theorem throw (e : ε) : FailsOn Bad P (throw e : ProgE ε Req Resp α) :=
  of_asks (Q := fun _ => False) (.throw e) fun _ _ h => h

theorem liftExcept (x : Except ε α) :
    FailsOn Bad P (liftExcept x : ProgE ε Req Resp α) :=
  of_asks (Q := fun _ => False) (.liftExcept x) fun _ _ h => h

theorem bind (h : FailsOn Bad P x) (hf : ∀ a, FailsOn Bad P (f a)) :
    FailsOn Bad P (x >>= f) := by
  rintro log r hexec ⟨entry, hentry, hbad⟩
  rcases execE_bind_iff.mp hexec with ⟨e, hx, rfl⟩ | ⟨a, l, l', rfl, hx, hfa⟩
  · obtain ⟨e', he, hP⟩ := h log _ hx ⟨entry, hentry, hbad⟩
    cases he
    exact ⟨e, rfl, hP⟩
  · rcases List.mem_append.mp hentry with hl | hl'
    · obtain ⟨e', he, -⟩ := h l _ hx ⟨entry, hl, hbad⟩
      cases he
    · exact hf a l' r hfa ⟨entry, hl', hbad⟩

theorem request_bind {r : Req} {f : Resp r → ProgE ε Req Resp α}
    (hbad : ∀ a, Bad ⟨r, a⟩ → ∃ e, f a = MonadExcept.throw e ∧ P e)
    (hf : ∀ a, FailsOn Bad P (f a)) : FailsOn Bad P (.request r >>= f) := by
  rintro log res hexec ⟨entry, hentry, hb⟩
  obtain ⟨a, rest, rfl, hfa⟩ := execE_request_bind_iff.mp hexec
  rcases List.mem_cons.mp hentry with rfl | hrest
  · obtain ⟨e, hthrow, hP⟩ := hbad a hb
    rw [hthrow] at hfa
    exact ⟨e, (execE_throw_iff.mp hfa).2, hP⟩
  · exact hf a rest res hfa ⟨entry, hrest, hb⟩

theorem attempt_bind {P' : ε → Prop} {f : Except ε α → ProgE ε Req Resp β} (h : FailsOn Bad P' x)
    (herr : ∀ e, P' e → ∃ e', f (.error e) = MonadExcept.throw e' ∧ P e')
    (hf : ∀ r, FailsOn Bad P (f r)) : FailsOn Bad P (Interaction.attempt x >>= f) := by
  rintro log res hexec ⟨entry, hentry, hbad⟩
  obtain ⟨r, l, l', rfl, hx, hfr⟩ := execE_attempt_bind_iff.mp hexec
  rcases List.mem_append.mp hentry with hl | hl'
  · obtain ⟨e, rfl, hP⟩ := h l r hx ⟨entry, hl, hbad⟩
    obtain ⟨e', hthrow, hP'⟩ := herr e hP
    rw [hthrow] at hfr
    exact ⟨e', (execE_throw_iff.mp hfr).2, hP'⟩
  · exact hf r l' res hfr ⟨entry, hl', hbad⟩

theorem forM {ι : Type} {l : List ι} {f : ι → ProgE ε Req Resp PUnit}
    (h : ∀ i ∈ l, FailsOn Bad P (f i)) : FailsOn Bad P (forM l f) := by
  induction l with
  | nil => exact pure _
  | cons i l ih =>
    rw [List.forM_cons]
    exact bind (h i (by simp)) fun _ => ih fun j hj => h j (by simp [hj])

end FailsOn

/-- One iteration of a loop has a log of class `R`; the iterations in front of it succeed. -/
inductive InIteration {ι : Type} (R : ι → Log Req Resp → Prop)
    (f : ι → ProgE ε Req Resp α) : List ι → Log Req Resp → Prop where
  | here {i is l l' r} (h : ExecE (f i) l r) (hR : R i l) : InIteration R f (i :: is) (l ++ l')
  | later {i is l l' a} (h : ExecE (f i) l (.ok a)) (hrest : InIteration R f is l') :
      InIteration R f (i :: is) (l ++ l')

theorem InIteration.append {ι : Type} {R : ι → Log Req Resp → Prop}
    {f : ι → ProgE ε Req Resp α} {is : List ι} (h : InIteration R f is log)
    (rest : Log Req Resp) : InIteration R f is (log ++ rest) := by
  induction h with
  | here h hR =>
    rw [List.append_assoc]
    exact .here h hR
  | later h _ ih =>
    rw [List.append_assoc]
    exact .later h ih

/-- A failure with an error of class `P` comes from a bad answer to the last request. -/
def FailsByLast (Bad : (Σ r : Req, Resp r) → Prop) (P : ε → Prop) (x : ProgE ε Req Resp α) : Prop :=
  ∀ log e, ExecE x log (.error e) → P e → ∃ entry, log.getLast? = some entry ∧ Bad entry

namespace FailsByLast

variable {Bad : (Σ r : Req, Resp r) → Prop} {P : ε → Prop}

theorem of_throws (h : Throws (fun e => ¬ P e) x) : FailsByLast Bad P x := by
  intro log e hexec hP
  exact absurd hP (hexec.all h e rfl)

theorem bind (h : FailsByLast Bad P x) (hf : ∀ a, FailsByLast Bad P (f a)) :
    FailsByLast Bad P (x >>= f) := by
  intro log e hexec hP
  rcases execE_bind_iff.mp hexec with ⟨e', hx, he⟩ | ⟨a, l, l', rfl, hx, hfa⟩
  · cases he
    exact h log e hx hP
  · obtain ⟨entry, hlast, hbad⟩ := hf a l' e hfa hP
    exact ⟨entry, by simp [hlast], hbad⟩

theorem forM {ι : Type} {l : List ι} {f : ι → ProgE ε Req Resp PUnit}
    (h : ∀ i ∈ l, FailsByLast Bad P (f i)) : FailsByLast Bad P (forM l f) := by
  induction l with
  | nil => exact of_throws (.pure _)
  | cons i l ih =>
    rw [List.forM_cons]
    exact bind (h i (by simp)) fun _ => ih fun j hj => h j (by simp [hj])

theorem request_bind {r : Req} {f : Resp r → ProgE ε Req Resp α}
    (hf : ∀ a, (Bad ⟨r, a⟩ ∧ ∃ e, f a = MonadExcept.throw e) ∨ Throws (fun e => ¬ P e) (f a)) :
    FailsByLast Bad P (.request r >>= f) := by
  intro log e hexec hP
  obtain ⟨a, rest, rfl, hfa⟩ := execE_request_bind_iff.mp hexec
  rcases hf a with ⟨hbad, e', hthrow⟩ | hthrows
  · rw [hthrow] at hfa
    obtain ⟨rfl, -⟩ := execE_throw_iff.mp hfa
    exact ⟨_, rfl, hbad⟩
  · exact absurd hP (hfa.all hthrows e rfl)

end FailsByLast
end Failing
end Interaction
