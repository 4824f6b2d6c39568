import Mathlib.Data.List.Chain

/-! Boolean expressions with operators, read from left to right: `not` binds stronger than `and`,
and `and` stronger than `or`. -/
namespace BooleanText

inductive Token (α : Type) where
  | atom (a : α)
  | not
  | and
  | or
  | lparen
  | rparen
  deriving DecidableEq

variable {α : Type}

/-- One level of parentheses: the value of the alternatives in front of the current one, the value
of the current one so far, whether `not` stands in front, and whether an operand has been read. -/
structure Frame where
  alternatives : Bool := false
  current : Bool := true
  negated : Bool := false
  operand : Bool := false

namespace Frame

def value (f : Frame) : Bool := f.alternatives || f.current

def feed (f : Frame) (b : Bool) : Option Frame :=
  if f.operand then none
  else some { f with current := f.current && (b != f.negated), negated := false, operand := true }

end Frame

/-- Read a token, where `outer` are the levels around the current one. -/
def step (v : α → Bool) : Frame × List Frame → Token α → Option (Frame × List Frame)
  | (f, outer), .atom a => (f.feed (v a)).map (·, outer)
  | (f, outer), .not =>
    if f.operand || f.negated then none else some ({ f with negated := true }, outer)
  | (f, outer), .and => if f.operand then some ({ f with operand := false }, outer) else none
  | (f, outer), .or => if f.operand then some ({ alternatives := f.value }, outer) else none
  | (f, outer), .lparen => if f.operand then none else some ({}, f :: outer)
  | (f, g :: outer), .rparen => if f.operand then (g.feed f.value).map (·, outer) else none
  | (_, []), .rparen => none

def run (v : α → Bool) (tokens : List (Token α)) (s : Frame × List Frame) :
    Option (Frame × List Frame) :=
  tokens.foldlM (step v) s

def value (v : α → Bool) (tokens : List (Token α)) : Option Bool :=
  match run v tokens ({}, []) with
  | some (f, []) => if f.operand then some f.value else none
  | _ => none

inductive Formula (α : Type) where
  | atom (a : α)
  | not (f : Formula α)
  | and (f g : Formula α)
  | or (f g : Formula α)
  | group (f : Formula α)

inductive Level where
  | alternative
  | conjunct
  | operand
  deriving DecidableEq

namespace Formula

def eval (v : α → Bool) : Formula α → Bool
  | .atom a => v a
  | .not f => !f.eval v
  | .and f g => f.eval v && g.eval v
  | .or f g => f.eval v || g.eval v
  | .group f => f.eval v

def parenthesized (tokens : List (Token α)) : List (Token α) := .lparen :: (tokens ++ [.rparen])

/-- The tokens of a formula. The operand of `not` stands in parentheses. -/
def print : Formula α → Level → List (Token α)
  | .atom a, _ => [.atom a]
  | .not f, _ => .not :: parenthesized (f.print .alternative)
  | .and f g, level =>
    let tokens := f.print .conjunct ++ .and :: g.print .operand
    if level = .operand then parenthesized tokens else tokens
  | .or f g, level =>
    let tokens := f.print .alternative ++ .or :: g.print .conjunct
    if level = .alternative then tokens else parenthesized tokens
  | .group f, _ => parenthesized (f.print .alternative)

end Formula

section Reading

variable {v : α → Bool} {tokens tokens' : List (Token α)} {b b' : Bool}

theorem run_append (s : Frame × List Frame) :
    run v (tokens ++ tokens') s = (run v tokens s).bind (run v tokens') :=
  List.foldlM_append

theorem run_cons (t : Token α) (s : Frame × List Frame) :
    run v (t :: tokens) s = (step v s t).bind (run v tokens) := rfl

/-- The tokens are read like an operand with the value `b`. -/
def ReadsOperand (v : α → Bool) (tokens : List (Token α)) (b : Bool) : Prop :=
  ∀ f outer, f.operand = false → run v tokens (f, outer) = (f.feed b).map (·, outer)

/-- The tokens are read like a part of a conjunction. -/
def ReadsConjunct (v : α → Bool) (tokens : List (Token α)) (b : Bool) : Prop :=
  ∀ f outer, f.operand = false → f.negated = false →
    run v tokens (f, outer) = some ({ f with current := f.current && b, operand := true }, outer)

/-- The tokens are read like one or more alternatives. -/
def ReadsAlternative (v : α → Bool) (tokens : List (Token α)) (b : Bool) : Prop :=
  ∀ f outer, f.operand = false → f.negated = false → f.current →
    ∃ f', run v tokens (f, outer) = some (f', outer) ∧ f'.operand ∧ f'.negated = false ∧
      f'.value = (f.alternatives || b)

theorem ReadsOperand.conjunct (h : ReadsOperand v tokens b) : ReadsConjunct v tokens b := by
  intro f outer hoperand hnegated
  rw [h f outer hoperand]
  simp [Frame.feed, hoperand, hnegated]

theorem ReadsConjunct.alternative (h : ReadsConjunct v tokens b) :
    ReadsAlternative v tokens b := by
  intro f outer hoperand hnegated hcurrent
  refine ⟨_, h f outer hoperand hnegated, rfl, hnegated, ?_⟩
  simp [Frame.value, hcurrent]

theorem ReadsOperand.atom (a : α) : ReadsOperand v [.atom a] (v a) := by
  intro f outer _
  cases hfeed : f.feed (v a) <;> simp [run, step, hfeed]

theorem ReadsAlternative.parenthesized (h : ReadsAlternative v tokens b) :
    ReadsOperand v (Formula.parenthesized tokens) b := by
  intro f outer hoperand
  obtain ⟨f', hrun, hoperand', -, hvalue⟩ := h {} (f :: outer) rfl rfl rfl
  have hopen : step v (f, outer) .lparen = some ({}, f :: outer) := by simp [step, hoperand]
  have hclose : step v (f', f :: outer) .rparen = (f.feed b).map (·, outer) := by
    have hb : f'.value = b := hvalue
    simp [step, hoperand', hb]
  rw [Formula.parenthesized, run_cons, hopen, Option.bind_some, run_append, hrun, Option.bind_some,
    run_cons, hclose]
  cases f.feed b <;> rfl

theorem ReadsOperand.not (h : ReadsOperand v tokens b) : ReadsConjunct v (.not :: tokens) !b := by
  intro f outer hoperand hnegated
  have hnot : step v (f, outer) .not = some ({ f with negated := true }, outer) := by
    simp [step, hoperand, hnegated]
  have hfeed : Frame.feed { f with negated := true } b =
      some { f with current := f.current && !b, operand := true } := by
    simp [Frame.feed, hoperand, hnegated]
  rw [run_cons, hnot, Option.bind_some, h { f with negated := true } outer hoperand, hfeed]
  rfl

theorem ReadsConjunct.and (h : ReadsConjunct v tokens b) (h' : ReadsConjunct v tokens' b') :
    ReadsConjunct v (tokens ++ .and :: tokens') (b && b') := by
  intro f outer hoperand hnegated
  have hand : step v ({ f with current := f.current && b, operand := true }, outer) .and =
      some ({ f with current := f.current && b }, outer) := by
    simp [step, hoperand]
  rw [run_append, h f outer hoperand hnegated, Option.bind_some, run_cons, hand, Option.bind_some,
    h' { f with current := f.current && b } outer hoperand hnegated, Bool.and_assoc]

theorem ReadsAlternative.or (h : ReadsAlternative v tokens b) (h' : ReadsAlternative v tokens' b') :
    ReadsAlternative v (tokens ++ .or :: tokens') (b || b') := by
  intro f outer hoperand hnegated hcurrent
  obtain ⟨g, hrun, hg, -, hvalue⟩ := h f outer hoperand hnegated hcurrent
  have hor : step v (g, outer) .or = some ({ alternatives := g.value }, outer) := by
    simp [step, hg]
  obtain ⟨f', hrun', hoperand', hnegated', hvalue'⟩ :=
    h' { alternatives := g.value } outer rfl rfl rfl
  refine ⟨f', ?_, hoperand', hnegated', ?_⟩
  · rw [run_append, hrun, Option.bind_some, run_cons, hor, Option.bind_some, hrun']
  · rw [hvalue', hvalue, Bool.or_assoc]

/-- The tokens of a formula are read with its value, at every level. -/
theorem reads_print (v : α → Bool) (e : Formula α) :
    ReadsConjunct v (e.print .operand) (e.eval v) ∧
      ReadsConjunct v (e.print .conjunct) (e.eval v) ∧
      ReadsAlternative v (e.print .alternative) (e.eval v) := by
  induction e with
  | atom a =>
    have hatom : ReadsConjunct v [.atom a] (v a) := (ReadsOperand.atom a).conjunct
    exact ⟨hatom, hatom, hatom.alternative⟩
  | not e ih =>
    have hnot := ih.2.2.parenthesized.not
    exact ⟨hnot, hnot, hnot.alternative⟩
  | and e e' ih ih' =>
    have hand := ih.2.1.and ih'.1
    exact ⟨hand.alternative.parenthesized.conjunct, hand, hand.alternative⟩
  | or e e' ih ih' =>
    have hor := ih.2.2.or ih'.2.1.alternative
    exact ⟨hor.parenthesized.conjunct, hor.parenthesized.conjunct, hor⟩
  | group e ih =>
    have hgroup := ih.2.2.parenthesized.conjunct
    exact ⟨hgroup, hgroup, hgroup.alternative⟩

theorem ReadsAlternative.value_eq (h : ReadsAlternative v tokens b) : value v tokens = some b := by
  obtain ⟨f, hrun, hoperand, -, hvalue⟩ := h {} [] rfl rfl rfl
  have hf : f.value = b := hvalue
  simp [value, hrun, hoperand, hf]

theorem value_print (v : α → Bool) (e : Formula α) :
    value v (e.print .alternative) = some (e.eval v) :=
  (reads_print v e).2.2.value_eq

section Lists

variable {ι : Type} {f : ι → List (Token α)} {g : ι → Bool} {x : ι} {xs : List ι}

theorem ReadsConjunct.intercalate (h : ∀ y ∈ x :: xs, ReadsConjunct v (f y) (g y)) :
    ReadsConjunct v ([.and].intercalate ((x :: xs).map f)) ((x :: xs).all g) := by
  induction xs generalizing x with
  | nil => simpa using h x
  | cons x' xs ih =>
    obtain ⟨hx, hxs⟩ := List.forall_mem_cons.mp h
    simpa [List.intercalate_cons_cons] using hx.and (ih hxs)

theorem ReadsAlternative.intercalate (h : ∀ y ∈ x :: xs, ReadsAlternative v (f y) (g y)) :
    ReadsAlternative v ([.or].intercalate ((x :: xs).map f)) ((x :: xs).any g) := by
  induction xs generalizing x with
  | nil => simpa using h x
  | cons x' xs ih =>
    obtain ⟨hx, hxs⟩ := List.forall_mem_cons.mp h
    simpa [List.intercalate_cons_cons] using hx.or (ih hxs)

end Lists

end Reading

/-- Tokens that are written with letters. -/
def Token.isWord : Token α → Bool
  | .atom _ => true
  | .not => true
  | _ => false

def Separated (tokens : List (Token α)) : Prop :=
  tokens.IsChain fun t t' => t.isWord = true → t'.isWord = false

theorem Separated.join {tokens tokens' : List (Token α)} (h : Separated tokens)
    (h' : Separated tokens') {t : Token α} (ht : t.isWord = false) :
    Separated (tokens ++ t :: tokens') := by
  refine List.isChain_append.mpr ⟨h, List.isChain_cons.mpr ⟨?_, h'⟩, ?_⟩
  · intro t' _ hword
    rw [ht] at hword
    cases hword
  · intro x _ y hy _
    cases hy
    exact ht

theorem Separated.parenthesized {tokens : List (Token α)} (h : Separated tokens) :
    Separated (Formula.parenthesized tokens) := by
  have hnil : Separated ([] : List (Token α)) := .nil
  exact hnil.join (h.join hnil rfl) rfl

theorem separated_print (e : Formula α) (level : Level) : Separated (e.print level) := by
  induction e generalizing level with
  | atom a => exact .singleton _
  | not e ih =>
    refine List.isChain_cons.mpr ⟨fun t ht _ => ?_, (ih .alternative).parenthesized⟩
    cases ht
    rfl
  | and e e' ih ih' =>
    have hand := (ih .conjunct).join (ih' .operand) (t := .and) rfl
    unfold Formula.print
    split
    · exact hand.parenthesized
    · exact hand
  | or e e' ih ih' =>
    have hor := (ih .alternative).join (ih' .conjunct) (t := .or) rfl
    unfold Formula.print
    split
    · exact hor
    · exact hor.parenthesized
  | group e ih => exact (ih .alternative).parenthesized

namespace Formula

def atoms : Formula α → List α
  | .atom a => [a]
  | .not e => e.atoms
  | .and e e' => e.atoms ++ e'.atoms
  | .or e e' => e.atoms ++ e'.atoms
  | .group e => e.atoms

theorem mem_parenthesized {a : α} {tokens : List (Token α)} :
    .atom a ∈ parenthesized tokens ↔ .atom a ∈ tokens := by
  simp [parenthesized]

theorem atom_mem_print {a : α} {e : Formula α} {level : Level} :
    .atom a ∈ e.print level ↔ a ∈ e.atoms := by
  induction e generalizing level with
  | atom b => simp [print, atoms]
  | not e ih => simp [print, atoms, mem_parenthesized, ih]
  | and e e' ih ih' =>
    have hand : .atom a ∈ e.print .conjunct ++ .and :: e'.print .operand ↔
        a ∈ e.atoms ++ e'.atoms := by
      simp [ih, ih']
    unfold print
    split
    · exact mem_parenthesized.trans hand
    · exact hand
  | or e e' ih ih' =>
    have hor : .atom a ∈ e.print .alternative ++ .or :: e'.print .conjunct ↔
        a ∈ e.atoms ++ e'.atoms := by
      simp [ih, ih']
    unfold print
    split
    · exact hor
    · exact mem_parenthesized.trans hor
  | group e ih => simp [print, atoms, mem_parenthesized, ih]

/-- The formula never needs parentheses. -/
def IsUnit (e : Formula α) : Prop := ∀ level, e.print level = e.print .alternative

def ors (e : Formula α) (es : List (Formula α)) : Formula α := es.foldl .or e

theorem eval_ors (v : α → Bool) (e : Formula α) (es : List (Formula α)) :
    (ors e es).eval v = (e :: es).any (·.eval v) := by
  induction es generalizing e with
  | nil => simp [ors]
  | cons e' es ih =>
    have hstep : ors e (e' :: es) = ors (.or e e') es := rfl
    rw [hstep, ih]
    simp [eval, Bool.or_assoc]

theorem atoms_foldl {op : Formula α → Formula α → Formula α}
    (hop : ∀ e e', (op e e').atoms = e.atoms ++ e'.atoms) (e : Formula α)
    (es : List (Formula α)) : (es.foldl op e).atoms = (e :: es).flatMap atoms := by
  induction es generalizing e with
  | nil => simp
  | cons e' es ih => simp [ih, hop]

def ands (e : Formula α) (es : List (Formula α)) : Formula α := es.foldl .and e

theorem eval_ands (v : α → Bool) (e : Formula α) (es : List (Formula α)) :
    (ands e es).eval v = (e :: es).all (·.eval v) := by
  induction es generalizing e with
  | nil => simp [ands]
  | cons e' es ih =>
    have hstep : ands e (e' :: es) = ands (.and e e') es := rfl
    rw [hstep, ih]
    simp [eval, Bool.and_assoc]

end Formula

namespace Reader

/-- Where the reader is. `read` is what has been read since the last token, last character first,
and `depth` the number of parentheses in it that are still open. -/
inductive Mode where
  | plain (depth : Nat) (read : List Char)
  | quoted (depth : Nat) (read : List Char)
  | escaped (depth : Nat) (read : List Char)
  deriving DecidableEq

def start : Mode := .plain 0 []

def isWordChar (c : Char) : Bool := c.isAlphanum || c = '_'

/-- The atom that ends here, if one has begun. -/
def flush (read : List Char) : List (Token String) :=
  match read.dropWhile Char.isWhitespace with
  | [] => []
  | rest => [.atom (String.ofList rest.reverse)]

/-- The tokens that end here if the last word is an operator. -/
def operator (read : List Char) : Option (List (Token String)) :=
  let front := flush (read.dropWhile isWordChar)
  if read.takeWhile isWordChar = ['d', 'n', 'a'] then some (front ++ [.and])
  else if read.takeWhile isWordChar = ['r', 'o'] then some (front ++ [.or])
  else if read.takeWhile isWordChar = ['t', 'o', 'n'] ∧ front = [] then some [.not]
  else none

def finish (read : List Char) : List (Token String) := (operator read).getD (flush read)

/-- A parenthesis groups where an operand is expected; behind the beginning of an atom it belongs to
the atom. -/
def delimit (depth : Nat) (read : List Char) (c : Char) : Mode × List (Token String) :=
  if c = '"' then (.quoted depth (c :: read), [])
  else if c = '(' then
    if read = [] then (start, [.lparen]) else (.plain (depth + 1) (c :: read), [])
  else if c = ')' then
    if depth = 0 then (start, flush read ++ [.rparen]) else (.plain (depth - 1) (c :: read), [])
  else if c.isWhitespace ∧ read = [] then (start, [])
  else (.plain depth (c :: read), [])

def step : Mode → Char → Mode × List (Token String)
  | .plain depth read, c =>
    if isWordChar c then (.plain depth (c :: read), [])
    else match if depth = 0 then operator read else none with
      | some tokens => ((delimit 0 [] c).1, tokens ++ (delimit 0 [] c).2)
      | none => delimit depth read c
  | .quoted depth read, c =>
    if c = '"' then (.plain depth (c :: read), [])
    else if c = '\\' then (.escaped depth (c :: read), [])
    else (.quoted depth (c :: read), [])
  | .escaped depth read, c => (.quoted depth (c :: read), [])

def steps : Mode → List Char → Mode × List (Token String)
  | m, [] => (m, [])
  | m, c :: cs => ((steps (step m c).1 cs).1, (step m c).2 ++ (steps (step m c).1 cs).2)

end Reader

open Reader

/-- The tokens of a text in which every quotation and every parenthesis of an atom is closed. -/
def readText (text : String) : Option (List (Token String)) :=
  match steps start text.toList with
  | (.plain 0 read, tokens) => some (tokens ++ finish read)
  | _ => none

def evaluateText (v : String → Bool) (text : String) : Option Bool := (readText text).bind (value v)

namespace Reader

theorem readText_eq_some_iff {text : String} {tokens : List (Token String)} :
    readText text = some tokens ↔
      ∃ rest front, steps start text.toList = (.plain 0 rest, front) ∧
        front ++ finish rest = tokens := by
  rw [readText]
  split
  · next rest front h => simp [h]
  · next h =>
    simp only [reduceCtorEq, false_iff, not_exists, not_and]
    intro rest front hsteps
    exact absurd hsteps (h rest front)

theorem steps_append (m : Mode) (cs cs' : List Char) :
    steps m (cs ++ cs') =
      ((steps (steps m cs).1 cs').1, (steps m cs).2 ++ (steps (steps m cs).1 cs').2) := by
  induction cs generalizing m with
  | nil => rfl
  | cons c cs ih => simp [steps, ih]

theorem steps_word {word : List Char} (h : word.all isWordChar = true) (depth : Nat)
    (read : List Char) :
    steps (.plain depth read) word = (.plain depth (word.reverse ++ read), []) := by
  induction word generalizing read with
  | nil => rfl
  | cons c word ih =>
    obtain ⟨hc, hword⟩ := Bool.and_eq_true_iff.mp h
    simp [steps, step, hc, ih hword]

/-- A character that is not part of a word ends an operator. -/
theorem step_plain (read : List Char) {c : Char} (hc : isWordChar c = false) :
    step (.plain 0 read) c = match operator read with
      | some tokens => ((delimit 0 [] c).1, tokens ++ (delimit 0 [] c).2)
      | none => delimit 0 read c := by
  simp [step, hc]

/-- The text of a connective ends what stands in front of it. -/
def Joins (joint : String) (t : Token String) : Prop :=
  ∀ read, steps (.plain 0 read) joint.toList = (start, finish read ++ [t])

theorem joins_of_operator {joint : String} (word : List Char) {t : Token String}
    (hjoint : joint.toList = ' ' :: (word ++ [' '])) (hword : word.all isWordChar = true)
    (hfirst : operator word.reverse = some [t])
    (hlater : ∀ read, operator (word.reverse ++ ' ' :: read) = some (flush read ++ [t])) :
    Joins joint t := by
  have hspace : isWordChar ' ' = false := by decide
  have hskip : delimit 0 [] ' ' = (start, []) := by decide
  have hstart : steps start (word ++ [' ']) = (start, [t]) := by
    rw [start, steps_append, steps_word hword, List.append_nil]
    simp [steps, step_plain _ hspace, hfirst, hskip, start]
  intro read
  rw [hjoint, steps, step_plain read hspace]
  cases hop : operator read with
  | some tokens => simp [hskip, hstart, finish, hop]
  | none =>
    by_cases hread : read = []
    · subst hread
      simp [hskip, hstart, finish, hop, flush]
    · have hpush : delimit 0 read ' ' = (.plain 0 (' ' :: read), []) := by simp [delimit, hread]
      have hrest : steps (.plain 0 (' ' :: read)) (word ++ [' ']) = (start, flush read ++ [t]) := by
        rw [steps_append, steps_word hword]
        simp [steps, step_plain _ hspace, hlater, hskip]
      simp [hpush, hrest, finish, hop]

theorem joins_and : Joins " and " .and :=
  joins_of_operator ['a', 'n', 'd'] (by decide) (by decide) (by decide) fun _ => rfl

theorem joins_or : Joins " or " .or :=
  joins_of_operator ['o', 'r'] (by decide) (by decide) (by decide) fun _ => rfl

variable {text text' : String} {tokens tokens' : List (Token String)}

theorem readText_join {joint : String} {t : Token String} (hjoint : Joins joint t)
    (h : readText text = some tokens) (h' : readText text' = some tokens') :
    readText (text ++ joint ++ text') = some (tokens ++ t :: tokens') := by
  obtain ⟨rest, front, hsteps, rfl⟩ := readText_eq_some_iff.mp h
  obtain ⟨rest', front', hsteps', rfl⟩ := readText_eq_some_iff.mp h'
  refine readText_eq_some_iff.mpr ⟨rest', front ++ (finish rest ++ [t]) ++ front', ?_, by simp⟩
  rw [String.toList_append, String.toList_append, steps_append, steps_append, hsteps, hjoint,
    hsteps']

theorem readText_parenthesized (h : readText text = some tokens) :
    readText ("(" ++ text ++ ")") = some (Formula.parenthesized tokens) := by
  obtain ⟨rest, front, hsteps, rfl⟩ := readText_eq_some_iff.mp h
  have hopen : steps start "(".toList = (start, [.lparen]) := by decide
  have hclose : steps (.plain 0 rest) ")".toList = (start, finish rest ++ [.rparen]) := by
    have hend : isWordChar ')' = false := by decide
    have hgroup : ∀ read, delimit 0 read ')' = (start, flush read ++ [.rparen]) := fun _ => rfl
    rw [show ")".toList = [')'] by decide, steps, steps, step_plain rest hend]
    cases hop : operator rest <;> simp [hgroup, finish, hop, flush]
  refine readText_eq_some_iff.mpr ⟨[], .lparen :: (front ++ (finish rest ++ [.rparen])), ?_, ?_⟩
  · rw [String.toList_append, String.toList_append, steps_append, steps_append, hopen, hsteps,
      hclose]
    rfl
  · simp [Formula.parenthesized, finish, flush, operator]

/-- In front of a parenthesis, `not` is read as an operator. -/
theorem readText_not (hhead : text.toList.head? = some '(') (h : readText text = some tokens) :
    readText ("not" ++ text) = some (.not :: tokens) := by
  obtain ⟨rest, front, hsteps, rfl⟩ := readText_eq_some_iff.mp h
  obtain ⟨cs, hcs⟩ := List.head?_eq_some_iff.mp hhead
  have hnot : steps start ("not".toList ++ ['(']) = (start, [.not, .lparen]) := by decide
  have hopen : step start '(' = (start, [.lparen]) := by decide
  rw [hcs, steps, hopen] at hsteps
  obtain ⟨hmode, hfront⟩ := Prod.mk.inj hsteps
  refine readText_eq_some_iff.mpr ⟨rest, .not :: front, ?_, rfl⟩
  rw [String.toList_append, hcs, List.append_cons, steps_append, hnot, hmode, ← hfront]
  rfl

theorem readText_intercalate {ι : Type} {joint : String} {t : Token String} (hjoint : Joins joint t)
    {f : ι → String} {g : ι → List (Token String)} {x : ι} {xs : List ι}
    (h : ∀ y ∈ x :: xs, readText (f y) = some (g y)) :
    readText (joint.intercalate ((x :: xs).map f)) = some ([t].intercalate ((x :: xs).map g)) := by
  induction xs generalizing x with
  | nil => simpa using h x
  | cons x' xs ih =>
    obtain ⟨hx, hxs⟩ := List.forall_mem_cons.mp h
    have hrest := readText_join hjoint hx (ih hxs)
    simpa [String.intercalate_cons_cons, List.intercalate_cons_cons] using hrest

end Reader

end BooleanText
