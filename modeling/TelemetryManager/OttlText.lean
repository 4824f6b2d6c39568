import TelemetryManager.Library.BooleanText
import TelemetryManager.OttlExpressions

/-! How the collector reads the texts of conditions on resource attributes.
A text is cut into lexemes, comparisons are put together, and the Boolean operators between them are
evaluated with their precedence. -/
namespace TelemetryManager.Ottl

open BooleanText

inductive Lexeme where
  | word (text : String)
  | str (text : String)
  | eq
  | ne
  | dot
  | lbracket
  | rbracket
  | lparen
  | rparen
  deriving DecidableEq

/-- Where the reader is: between lexemes, or inside one of which `read` has been read, last
character first. -/
inductive Mode where
  | plain
  | word (read : List Char)
  | str (read : List Char)
  | escape (read : List Char)
  | op (lexeme : Lexeme)
  deriving DecidableEq

def isWordChar (c : Char) : Bool := c.isAlphanum || c = '_'

def plainStep (c : Char) : Option (Mode × List Lexeme) :=
  if isWordChar c then some (.word [c], [])
  else if c = ' ' then some (.plain, [])
  else if c = '"' then some (.str [], [])
  else if c = '=' then some (.op .eq, [])
  else if c = '!' then some (.op .ne, [])
  else if c = '.' then some (.plain, [.dot])
  else if c = '[' then some (.plain, [.lbracket])
  else if c = ']' then some (.plain, [.rbracket])
  else if c = '(' then some (.plain, [.lparen])
  else if c = ')' then some (.plain, [.rparen])
  else none

def Mode.flush : Mode → List Lexeme
  | .word read => [.word (String.ofList read.reverse)]
  | _ => []

def step : Mode → Char → Option (Mode × List Lexeme)
  | .plain, c => plainStep c
  | .word read, c =>
    if isWordChar c then some (.word (c :: read), [])
    else (plainStep c).map fun (m, lexemes) => (m, (Mode.word read).flush ++ lexemes)
  | .str read, c =>
    if c = '"' then some (.plain, [.str (String.ofList read.reverse)])
    else if c = '\\' then some (.escape read, [])
    else some (.str (c :: read), [])
  | .escape read, c => if c = '"' ∨ c = '\\' then some (.str (c :: read), []) else none
  | .op lexeme, c => if c = '=' then some (.plain, [lexeme]) else none

def steps : Mode → List Char → Option (Mode × List Lexeme)
  | m, [] => some (m, [])
  | m, c :: cs => do
    let (m', lexemes) ← step m c
    let (m'', lexemes') ← steps m' cs
    pure (m'', lexemes ++ lexemes')

/-- Nothing has been begun that a further character has to end. -/
def Mode.isBoundary : Mode → Bool
  | .plain => true
  | .word _ => true
  | _ => false

def lex (text : List Char) : Option (List Lexeme) := do
  let (m, lexemes) ← steps .plain text
  if m.isBoundary then some (lexemes ++ m.flush) else none

/-- A resource attribute is compared with a text, or with `nil`. -/
structure Comparison where
  key : String
  equal : Bool
  value : Option String

def Comparison.text (c : Comparison) : String :=
  resourceAttribute c.key ++ (if c.equal then " == " else " != ") ++
    (match c.value with
      | some value => "\"" ++ value ++ "\""
      | none => "nil")

def tokens : List Lexeme → Option (List (Token Comparison))
  | [] => some []
  | .lparen :: rest => (tokens rest).map (.lparen :: ·)
  | .rparen :: rest => (tokens rest).map (.rparen :: ·)
  | .word "not" :: rest => (tokens rest).map (.not :: ·)
  | .word "and" :: rest => (tokens rest).map (.and :: ·)
  | .word "or" :: rest => (tokens rest).map (.or :: ·)
  | .word "resource" :: .dot :: .word "attributes" :: .lbracket :: .str key :: .rbracket ::
      op :: value :: rest => do
    let equal ← if op = .eq then some true else if op = .ne then some false else none
    let value ← match value with
      | .str text => some (some text)
      | .word "nil" => some none
      | _ => none
    (tokens rest).map (.atom ⟨key, equal, value⟩ :: ·)
  | _ => none

inductive AttributeValue where
  | str (text : String)
  | other (value : String)
  deriving DecidableEq

structure Record where
  resourceAttribute : String → Option AttributeValue

def Comparison.holds (record : Record) (c : Comparison) : Bool :=
  (record.resourceAttribute c.key = c.value.map .str) == c.equal

/-- The value of a condition on a record, if its text can be read. -/
def evaluate (record : Record) (text : String) : Option Bool := do
  let lexemes ← lex text.toList
  let tokens ← tokens lexemes
  value (Comparison.holds record) tokens

def tokenText : Token Comparison → String
  | .atom c => c.text
  | .not => "not"
  | .and => " and "
  | .or => " or "
  | .lparen => "("
  | .rparen => ")"

def textOf (ts : List (Token Comparison)) : String :=
  ts.foldr (fun t text => tokenText t ++ text) ""

def Comparison.lexemes (c : Comparison) : List Lexeme :=
  [.word "resource", .dot, .word "attributes", .lbracket, .str c.key, .rbracket,
    if c.equal then .eq else .ne,
    match c.value with
    | some value => .str value
    | none => .word "nil"]

def tokenLexemes : Token Comparison → List Lexeme
  | .atom c => c.lexemes
  | .not => [.word "not"]
  | .and => [.word "and"]
  | .or => [.word "or"]
  | .lparen => [.lparen]
  | .rparen => [.rparen]

/-- Neither a quote nor an escape. -/
def isQuotable (text : String) : Bool := text.toList.all fun c => c ≠ '"' && c ≠ '\\'

def Comparison.isQuotable (c : Comparison) : Bool :=
  Ottl.isQuotable c.key && c.value.all Ottl.isQuotable

def Quotable (ts : List (Token Comparison)) : Prop := ∀ c, .atom c ∈ ts → c.isQuotable = true

theorem steps_append (m : Mode) (cs cs' : List Char) :
    steps m (cs ++ cs') = (steps m cs).bind fun (m', lexemes) =>
      (steps m' cs').map fun (m'', lexemes') => (m'', lexemes ++ lexemes') := by
  induction cs generalizing m with
  | nil => cases h : steps m cs' <;> simp [steps, h]
  | cons c cs ih =>
    rw [List.cons_append, steps, steps]
    cases hstep : step m c with
    | none => rfl
    | some result =>
      obtain ⟨m', lexemes⟩ := result
      simp only [Option.bind_eq_bind, Option.bind_some, ih]
      cases hsteps : steps m' cs with
      | none => rfl
      | some result' =>
        obtain ⟨m'', lexemes'⟩ := result'
        cases hrest : steps m'' cs' <;> simp [hrest]

theorem steps_trans {m m' m'' : Mode} {cs cs' : List Char} {lexemes lexemes' : List Lexeme}
    (h : steps m cs = some (m', lexemes)) (h' : steps m' cs' = some (m'', lexemes')) :
    steps m (cs ++ cs') = some (m'', lexemes ++ lexemes') := by
  simp [steps_append, h, h']

theorem steps_str {text : List Char} (h : text.all (fun c => c ≠ '"' && c ≠ '\\') = true)
    (read : List Char) : steps (.str read) text = some (.str (text.reverse ++ read), []) := by
  induction text generalizing read with
  | nil => rfl
  | cons c text ih =>
    obtain ⟨hc, htext⟩ := Bool.and_eq_true_iff.mp h
    have hstep : step (.str read) c = some (.str (c :: read), []) := by
      simp only [Bool.and_eq_true, decide_eq_true_eq] at hc
      simp [step, hc.1, hc.2]
    simp [steps, hstep, ih htext]

theorem steps_quoted {text : String} (h : isQuotable text) :
    steps .plain ("\"" ++ text ++ "\"").toList = some (.plain, [.str text]) := by
  have hopen : steps .plain "\"".toList = some (.str [], []) := by decide
  have hclose : steps (.str text.toList.reverse) "\"".toList = some (.plain, [.str text]) := by
    simp [steps, step]
  have hbody := steps_str h []
  rw [List.append_nil] at hbody
  rw [String.toList_append, String.toList_append]
  exact steps_trans (steps_trans hopen hbody) hclose

theorem steps_resourceAttribute {key : String} (h : isQuotable key) :
    steps .plain (resourceAttribute key).toList = some (.plain, [.word "resource", .dot,
      .word "attributes", .lbracket, .str key, .rbracket]) := by
  have hsplit : resourceAttribute key = "resource.attributes[" ++ ("\"" ++ key ++ "\"") ++ "]" := by
    unfold resourceAttribute
    rw [show "resource.attributes[\"" = "resource.attributes[" ++ "\"" by decide +kernel,
      show "\"]" = "\"" ++ "]" by decide]
    simp only [String.append_assoc]
  have hopen : steps .plain "resource.attributes[".toList =
      some (.plain, [.word "resource", .dot, .word "attributes", .lbracket]) := by decide +kernel
  have hclose : steps .plain "]".toList = some (.plain, [.rbracket]) := by decide
  rw [hsplit, String.toList_append, String.toList_append]
  exact steps_trans (steps_trans hopen (steps_quoted h)) hclose

/-- What has been read of a token, together with the word that it ends with. -/
def Reads (text : String) (lexemes : List Lexeme) (m : Mode) : Prop :=
  ∃ read, steps .plain text.toList = some (m, read) ∧ m.isBoundary ∧
    read ++ m.flush = lexemes

theorem Comparison.reads {c : Comparison} (h : c.isQuotable) :
    ∃ m, Reads c.text c.lexemes m := by
  obtain ⟨hkey, hvalue⟩ := Bool.and_eq_true_iff.mp h
  have hop : steps .plain (if c.equal then " == " else " != ").toList =
      some (.plain, [if c.equal then .eq else .ne]) := by
    cases c.equal <;> decide
  have hleft := steps_trans (steps_resourceAttribute hkey) hop
  have htext : c.text.toList = (resourceAttribute c.key).toList ++
      (if c.equal then " == " else " != ").toList ++
      (match c.value with
        | some value => "\"" ++ value ++ "\""
        | none => "nil").toList := by
    rw [Comparison.text, String.toList_append, String.toList_append]
  unfold Reads Comparison.lexemes
  rw [htext]
  cases hc : c.value with
  | some value =>
    rw [hc] at hvalue
    exact ⟨.plain, _, steps_trans hleft (steps_quoted hvalue), rfl, by simp [Mode.flush]⟩
  | none =>
    have hnil : steps .plain "nil".toList = some (.word "nil".toList.reverse, []) := by decide
    exact ⟨.word "nil".toList.reverse, _, steps_trans hleft hnil, rfl, by simp [Mode.flush]⟩

theorem reads_token {t : Token Comparison} (h : ∀ c, t = .atom c → c.isQuotable) :
    ∃ m, Reads (tokenText t) (tokenLexemes t) m ∧ (t.isWord = false → m = .plain) := by
  cases t with
  | atom c =>
    obtain ⟨m, hm⟩ := Comparison.reads (h c rfl)
    exact ⟨m, hm, nofun⟩
  | not =>
    refine ⟨.word "not".toList.reverse, ⟨[], by decide, rfl, by decide⟩, nofun⟩
  | and => exact ⟨.plain, ⟨[.word "and"], by decide, rfl, rfl⟩, fun _ => rfl⟩
  | or => exact ⟨.plain, ⟨[.word "or"], by decide, rfl, rfl⟩, fun _ => rfl⟩
  | lparen => exact ⟨.plain, ⟨[.lparen], by decide, rfl, rfl⟩, fun _ => rfl⟩
  | rparen => exact ⟨.plain, ⟨[.rparen], by decide, rfl, rfl⟩, fun _ => rfl⟩

/-- A character that is not part of a word ends the word in front of it. -/
theorem steps_boundary {m : Mode} (hm : m.isBoundary) {text : List Char}
    (htext : ∃ c cs, text = c :: cs ∧ isWordChar c = false) :
    steps m text = (steps .plain text).map fun (m', lexemes) => (m', m.flush ++ lexemes) := by
  obtain ⟨c, cs, rfl, hc⟩ := htext
  cases m with
  | plain => cases h : steps .plain (c :: cs) <;> simp [Mode.flush]
  | word read =>
    have hstep : step (.word read) c =
        (plainStep c).map fun (m, lexemes) => (m, (Mode.word read).flush ++ lexemes) := by
      simp [step, hc]
    rw [steps, steps, hstep, step]
    cases hplain : plainStep c with
    | none => rfl
    | some result =>
      obtain ⟨m', lexemes⟩ := result
      cases hrest : steps m' cs <;> simp [hrest]
  | str read | escape read | op lexeme => cases hm

theorem head_tokenText {t : Token Comparison} (h : t.isWord = false) :
    ∃ c cs, (tokenText t).toList = c :: cs ∧ isWordChar c = false := by
  cases t with
  | atom c | not => cases h
  | and => exact ⟨' ', "and ".toList, by decide, by decide⟩
  | or => exact ⟨' ', "or ".toList, by decide, by decide⟩
  | lparen => exact ⟨'(', [], by decide, by decide⟩
  | rparen => exact ⟨')', [], by decide, by decide⟩

theorem steps_textOf {ts : List (Token Comparison)} (hquotable : Quotable ts)
    (hseparated : Separated ts) {m : Mode} (hm : m.isBoundary)
    (hfirst : ∀ t ∈ ts.head?, m = .plain ∨ t.isWord = false) :
    ∃ m' read, steps m (textOf ts).toList = some (m', read) ∧ m'.isBoundary ∧
      read ++ m'.flush = m.flush ++ ts.flatMap tokenLexemes := by
  induction ts generalizing m with
  | nil => exact ⟨m, [], rfl, hm, by simp⟩
  | cons t ts ih =>
    obtain ⟨hnext, hseparated⟩ := List.isChain_cons.mp hseparated
    obtain ⟨mt, ⟨read, hread, hmt, hlexemes⟩, hplain⟩ :=
      reads_token (t := t) fun c hc => hquotable c (hc ▸ List.mem_cons_self)
    have hfollow : ∀ t' ∈ ts.head?, mt = .plain ∨ t'.isWord = false := by
      intro t' ht'
      by_cases hword : t.isWord
      · exact .inr (hnext t' ht' hword)
      · exact .inl (hplain (Bool.eq_false_iff.mpr hword))
    obtain ⟨m', read', hread', hm', hlexemes'⟩ :=
      ih (fun c hc => hquotable c (List.mem_cons_of_mem t hc)) hseparated hmt hfollow
    -- the first character of the token ends what stands in front of it
    have hstart : steps m (tokenText t).toList = some (mt, m.flush ++ read) := by
      rcases hfirst t rfl with rfl | hword
      · exact hread
      · rw [steps_boundary hm (head_tokenText hword), hread]
        rfl
    refine ⟨m', m.flush ++ read ++ read', ?_, hm', ?_⟩
    · rw [show textOf (t :: ts) = tokenText t ++ textOf ts from rfl, String.toList_append]
      exact steps_trans hstart hread'
    · rw [List.flatMap_cons, List.append_assoc, List.append_assoc, hlexemes', ← hlexemes]
      simp

theorem lex_textOf {ts : List (Token Comparison)} (hquotable : Quotable ts)
    (hseparated : Separated ts) : lex (textOf ts).toList = some (ts.flatMap tokenLexemes) := by
  obtain ⟨m, read, hread, hm, hlexemes⟩ :=
    steps_textOf hquotable hseparated (m := .plain) rfl fun _ _ => .inl rfl
  simp only [lex, hread, Option.bind_eq_bind, Option.bind_some, hm, if_true, hlexemes]
  rfl

theorem tokens_flatMap (ts : List (Token Comparison)) :
    tokens (ts.flatMap tokenLexemes) = some ts := by
  induction ts with
  | nil => rfl
  | cons t ts ih =>
    rw [List.flatMap_cons]
    cases t with
    | atom c =>
      obtain ⟨key, equal, value⟩ := c
      cases equal <;> cases value <;>
        simp [tokenLexemes, Comparison.lexemes, tokens, ih]
    | not | and | or | lparen | rparen => simp [tokenLexemes, tokens, ih]

def formulaText (e : Formula Comparison) : String := textOf (e.print .alternative)

/-- The collector reads the text of a formula as the formula. -/
theorem evaluate_formulaText (record : Record) {e : Formula Comparison}
    (h : Quotable (e.print .alternative)) :
    evaluate record (formulaText e) = some (e.eval (Comparison.holds record)) := by
  have hlex := lex_textOf h (separated_print e .alternative)
  rw [evaluate, formulaText, hlex, Option.bind_eq_bind, Option.bind_some, tokens_flatMap,
    Option.bind_eq_bind, Option.bind_some, value_print]

end TelemetryManager.Ottl
