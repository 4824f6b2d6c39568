import Mathlib.Data.List.Forall2

/-! Regular expressions as texts: groups, alternatives, repetitions, anchors, the dot and characters
that stand for themselves. An expression is read from left to right with a stack of open groups.
Escapes, character classes, counted repetitions, flags, named groups and a doubled dollar are not
modelled; a text that has one of them before its first error is told apart. -/
namespace RegexText

inductive Expr where
  | empty
  | char (p : Char → Bool)
  | textStart
  | textEnd
  | seq (a b : Expr)
  | alt (a b : Expr)
  | star (a : Expr)

inductive Matches : Expr → List Char → List Char → List Char → Prop where
  | empty {before after : List Char} : Matches .empty before [] after
  | char {p : Char → Bool} {c : Char} {before after : List Char} (h : p c) :
      Matches (.char p) before [c] after
  | textStart {after : List Char} : Matches .textStart [] [] after
  | textEnd {before : List Char} : Matches .textEnd before [] []
  | seq {a b : Expr} {before u v after : List Char} (ha : Matches a before u (v ++ after))
      (hb : Matches b (before ++ u) v after) : Matches (.seq a b) before (u ++ v) after
  | altLeft {a b : Expr} {before u after : List Char} (h : Matches a before u after) :
      Matches (.alt a b) before u after
  | altRight {a b : Expr} {before u after : List Char} (h : Matches b before u after) :
      Matches (.alt a b) before u after
  | starNil {a : Expr} {before after : List Char} : Matches (.star a) before [] after
  | starCons {a : Expr} {before u v after : List Char} (ha : Matches a before u (v ++ after))
      (hs : Matches (.star a) (before ++ u) v after) : Matches (.star a) before (u ++ v) after

def Expr.Accepts (e : Expr) (s : List Char) : Prop := Matches e [] s []

section Matches

variable {before w after : List Char}

@[simp]
theorem matches_empty_iff : Matches .empty before w after ↔ w = [] := by
  constructor
  · intro h
    cases h
    rfl
  · intro h
    subst h
    exact .empty

@[simp]
theorem matches_char_iff {p : Char → Bool} :
    Matches (.char p) before w after ↔ ∃ c, p c ∧ w = [c] := by
  constructor
  · intro h
    cases h with
    | char h => exact ⟨_, h, rfl⟩
  · intro h
    obtain ⟨c, hc, rfl⟩ := h
    exact .char hc

@[simp]
theorem matches_textStart_iff : Matches .textStart before w after ↔ w = [] ∧ before = [] := by
  constructor
  · intro h
    cases h
    exact ⟨rfl, rfl⟩
  · intro h
    obtain ⟨rfl, rfl⟩ := h
    exact .textStart

@[simp]
theorem matches_textEnd_iff : Matches .textEnd before w after ↔ w = [] ∧ after = [] := by
  constructor
  · intro h
    cases h
    exact ⟨rfl, rfl⟩
  · intro h
    obtain ⟨rfl, rfl⟩ := h
    exact .textEnd

theorem matches_seq_iff {a b : Expr} : Matches (.seq a b) before w after ↔
    ∃ u v, w = u ++ v ∧ Matches a before u (v ++ after) ∧ Matches b (before ++ u) v after := by
  constructor
  · intro h
    cases h with
    | seq ha hb => exact ⟨_, _, rfl, ha, hb⟩
  · intro h
    obtain ⟨u, v, rfl, ha, hb⟩ := h
    exact .seq ha hb

theorem matches_star_char_iff {p : Char → Bool} :
    Matches (.star (.char p)) before w after ↔ ∀ c ∈ w, p c := by
  constructor
  · intro h
    generalize hstar : Expr.star (.char p) = e at h
    induction h with
    | starNil => simp
    | starCons ha _ _ ih =>
      cases hstar
      obtain ⟨c, hc, rfl⟩ := matches_char_iff.1 ha
      simpa [hc] using ih rfl
    | _ => cases hstar
  · intro h
    induction w generalizing before with
    | nil => exact .starNil
    | cons c w ih =>
      have hc : Matches (.char p) before [c] (w ++ after) := .char (h c List.mem_cons_self)
      exact .starCons hc (ih fun d hd => h d (List.mem_cons_of_mem _ hd))

def sequence (es : List Expr) : Expr := es.foldr .seq .empty

@[simp]
theorem matches_sequence_nil_iff : Matches (sequence []) before w after ↔ w = [] :=
  matches_empty_iff

theorem matches_sequence_cons_iff {e : Expr} {es : List Expr} :
    Matches (sequence (e :: es)) before w after ↔
      ∃ u v, w = u ++ v ∧ Matches e before u (v ++ after) ∧
        Matches (sequence es) (before ++ u) v after :=
  matches_seq_iff

@[simp]
theorem matches_sequence_singleton_iff {e : Expr} :
    Matches (sequence [e]) before w after ↔ Matches e before w after := by
  simp [matches_sequence_cons_iff]

end Matches

inductive Repetition where
  | star
  | plus
  | opt
  deriving DecidableEq

def Repetition.expr : Repetition → Expr → Expr
  | .star, e => .star e
  | .plus, e => .seq e (.star e)
  | .opt, e => .alt e .empty

inductive Token where
  | openGroup
  | closeGroup
  | bar
  | dollar
  | repetition (op : Repetition)
  | atom (e : Expr)
  | unmodelled

/-- The dot stands for every character but the end of a line. -/
def dot : Expr := .char fun c => c ≠ '\n'

def token (c : Char) : Token :=
  if c = '(' then .openGroup
  else if c = ')' then .closeGroup
  else if c = '|' then .bar
  else if c = '$' then .dollar
  else if c = '*' then .repetition .star
  else if c = '+' then .repetition .plus
  else if c = '?' then .repetition .opt
  else if c = '^' then .atom .textStart
  else if c = '.' then .atom dot
  else if c = '\\' ∨ c = '[' ∨ c = '{' then .unmodelled
  else .atom (.char fun d => d = c)

inductive Problem where
  | syntaxError
  | unmodelled

inductive Last where
  | nothing
  | opened
  | flags
  | dollar
  | atom
  | repetition
  | lazyRepetition
  deriving DecidableEq

/-- A group: the alternatives that are complete, and the parts of the last one, the last part
first. -/
structure Frame where
  alternatives : Option Expr := none
  items : List Expr := []

def Frame.concat (f : Frame) : Expr := sequence f.items.reverse

def Frame.close (f : Frame) : Expr :=
  match f.alternatives with
  | none => f.concat
  | some e => .alt e f.concat

structure State where
  outer : List Frame := []
  current : Frame := {}
  last : Last := .nothing

def State.push (s : State) (e : Expr) (last : Last) : State :=
  { s with current := { s.current with items := e :: s.current.items }, last := last }

/-- A repetition of the last part. A question mark behind a repetition makes it lazy, which does not
change what is matched; behind an opening bracket it starts the flags of the group. -/
def State.repeated (s : State) (op : Repetition) : Except Problem State :=
  match s.last with
  | .opened => if op = .opt then .ok { s with last := .flags } else .error .syntaxError
  | .repetition => if op = .opt then .ok { s with last := .lazyRepetition } else .error .syntaxError
  | .nothing | .flags | .lazyRepetition => .error .syntaxError
  | .atom | .dollar =>
    match s.current.items with
    | [] => .error .syntaxError
    | e :: items =>
      .ok { s with
        current := { s.current with items := op.expr e :: items }
        last := .repetition }

/-- Deeper nesting is not modelled: an engine has a limit for it. -/
def maxOpenGroups : Nat := 200

def step (s : State) (c : Char) : Except Problem State :=
  if s.last = .flags then
    if c = ':' then .ok { s with last := .nothing } else .error .unmodelled
  else
    match token c with
    | .openGroup =>
      if s.outer.length < maxOpenGroups then .ok ⟨s.current :: s.outer, {}, .opened⟩
      else .error .unmodelled
    | .closeGroup =>
      match s.outer with
      | [] => .error .syntaxError
      | f :: outer => .ok (State.push ⟨outer, f, .nothing⟩ s.current.close .atom)
    | .bar => .ok { s with current := ⟨some s.current.close, []⟩, last := .nothing }
    | .dollar => if s.last = .dollar then .error .unmodelled else .ok (s.push .textEnd .dollar)
    | .repetition op => s.repeated op
    | .atom e => .ok (s.push e .atom)
    | .unmodelled => .error .unmodelled

def steps (s : State) : List Char → Except Problem State
  | [] => .ok s
  | c :: rest =>
    match step s c with
    | .error problem => .error problem
    | .ok s' => steps s' rest

def parse (text : List Char) : Except Problem Expr :=
  match steps {} text with
  | .error problem => .error problem
  | .ok s => if s.outer.isEmpty then .ok s.current.close else .error .syntaxError

/-- What is accepted by a text that is an expression. What is not modelled is read by `other`. -/
def read (other : List Char → Option (List Char → Prop)) (text : List Char) :
    Option (List Char → Prop) :=
  match parse text with
  | .error .syntaxError => none
  | .error .unmodelled => other text
  | .ok e => some e.Accepts

def readWhole (other : List Char → Option (List Char → Prop)) (text : String) :
    Option (List Char → Prop) :=
  read other ("^(?:" ++ text ++ ")$").toList

theorem read_of_parse {other : List Char → Option (List Char → Prop)} {text : List Char} {e : Expr}
    (h : parse text = .ok e) : read other text = some e.Accepts := by
  simp only [read, h]

theorem steps_append {s s' : State} {u : List Char} (h : steps s u = .ok s') (v : List Char) :
    steps s (u ++ v) = steps s' v := by
  induction u generalizing s with
  | nil =>
    cases h
    rfl
  | cons c u ih =>
    simp only [List.cons_append, steps] at h ⊢
    cases hstep : step s c with
    | error problem => simp [hstep] at h
    | ok t =>
      simp only [hstep] at h
      exact ih h

def isOrdinary (c : Char) : Bool :=
  !(['(', ')', '|', '$', '*', '+', '?', '^', '\\', '[', '{'].contains c)

def ordinary (c : Char) : Expr := if c = '.' then dot else .char fun d => d = c

theorem token_of_isOrdinary {c : Char} (h : isOrdinary c) :
    token c = .atom (ordinary c) := by
  have hne : ∀ d ∈ ['(', ')', '|', '$', '*', '+', '?', '^', '\\', '[', '{'], c ≠ d := by
    intro d hd hcd
    subst hcd
    rw [isOrdinary, List.contains_iff_mem.2 hd] at h
    cases h
  simp only [List.forall_mem_cons] at hne
  obtain ⟨h1, h2, h3, h4, h5, h6, h7, h8, h9, h10, h11, -⟩ := hne
  simp only [token, ordinary, h1, h2, h3, h4, h5, h6, h7, h8, h9, h10, h11, if_false, or_self]
  split <;> rfl

theorem steps_ordinary {cs : List Char} (h : ∀ c ∈ cs, isOrdinary c) {s : State}
    (hs : s.last ≠ .flags) :
    ∃ last, (last = s.last ∨ last = .atom) ∧ steps s cs = .ok ⟨s.outer,
      ⟨s.current.alternatives, (cs.map ordinary).reverse ++ s.current.items⟩, last⟩ := by
  induction cs generalizing s with
  | nil => exact ⟨s.last, Or.inl rfl, rfl⟩
  | cons c cs ih =>
    have hstep : step s c = .ok (s.push (ordinary c) .atom) := by
      simp [step, hs, token_of_isOrdinary (h c List.mem_cons_self)]
    have hpush : (s.push (ordinary c) .atom).last ≠ .flags := by
      intro hflags
      cases hflags
    obtain ⟨last, hlast, hsteps⟩ := ih (fun d hd => h d (List.mem_cons_of_mem _ hd)) hpush
    refine ⟨last, Or.inr (hlast.elim id id), ?_⟩
    simp only [steps, hstep, hsteps]
    simp [State.push]

theorem parse_ordinary {cs opening closing : List Char} {s : State} {f : Frame} {last : Last}
    (h : ∀ c ∈ cs, isOrdinary c) (hopening : steps {} opening = .ok s) (hs : s.last ≠ .flags)
    (hclosing : ∀ l, l = s.last ∨ l = .atom → steps ⟨s.outer, ⟨s.current.alternatives,
      (cs.map ordinary).reverse ++ s.current.items⟩, l⟩ closing = .ok ⟨[], f, last⟩) :
    parse (opening ++ (cs ++ closing)) = .ok f.close := by
  obtain ⟨l, hl, hsteps⟩ := steps_ordinary h hs
  simp [parse, steps_append hopening, steps_append hsteps, hclosing l hl]

/-- The character is one that the ordinary character `p` of an expression stands for. -/
def StandsFor (p c : Char) : Prop := if p = '.' then c ≠ '\n' else c = p

theorem matches_ordinary_iff {p : Char} {before w after : List Char} :
    Matches (ordinary p) before w after ↔ ∃ c, StandsFor p c ∧ w = [c] := by
  by_cases hdot : p = '.'
  · simp [ordinary, dot, StandsFor, hdot]
  · simp [ordinary, StandsFor, hdot]

theorem matches_sequence_ordinary_iff {cs : List Char} {es : List Expr}
    {before w after : List Char} :
    Matches (sequence (cs.map ordinary ++ es)) before w after ↔
      ∃ u v, w = u ++ v ∧ List.Forall₂ StandsFor cs u ∧
        Matches (sequence es) (before ++ u) v after := by
  induction cs generalizing before w with
  | nil => simp
  | cons p cs ih =>
    simp only [List.map_cons, List.cons_append, matches_sequence_cons_iff, matches_ordinary_iff, ih]
    constructor
    · intro h
      obtain ⟨-, -, rfl, ⟨c, hc, rfl⟩, u, v, rfl, hu, hv⟩ := h
      exact ⟨c :: u, v, rfl, .cons hc hu, by simpa using hv⟩
    · intro h
      obtain ⟨cu, v, rfl, hu, hv⟩ := h
      cases hu with
      | @cons _ c _ u hc hu =>
        exact ⟨[c], u ++ v, rfl, ⟨c, hc, rfl⟩, u, v, rfl, hu, by simpa using hv⟩

theorem forall₂_standsFor_iff {cs u : List Char} (h : '.' ∉ cs) :
    List.Forall₂ StandsFor cs u ↔ u = cs := by
  induction cs generalizing u with
  | nil => simp
  | cons p cs ih =>
    obtain ⟨hp, hcs⟩ : '.' ≠ p ∧ '.' ∉ cs := by simpa using h
    have hstands : ∀ c, StandsFor p c ↔ c = p := fun c => by simp [StandsFor, Ne.symm hp]
    cases u with
    | nil => simp
    | cons c u => simp [List.forall₂_cons, hstands, ih hcs]

theorem forall₂_standsFor_self {cs : List Char} (h : '\n' ∉ cs) :
    List.Forall₂ StandsFor cs cs := by
  induction cs with
  | nil => exact .nil
  | cons c cs ih =>
    obtain ⟨hc, hcs⟩ : '\n' ≠ c ∧ '\n' ∉ cs := by simpa using h
    refine .cons ?_ (ih hcs)
    by_cases hdot : c = '.'
    · simp [StandsFor, hdot]
    · simp [StandsFor, hdot]

end RegexText
