import Mathlib.Algebra.BigOperators.Group.List.Basic
import Mathlib.Algebra.GroupWithZero.Nat
import Mathlib.Data.List.Forall2
import TelemetryManager.Library.Text

/-! Configuration texts made of sections.
A section is a line that starts with a bracket, followed by indented lines with a key and a value.
Nothing is escaped: a value with line breaks takes up lines of its own, and these are read like any
other line. -/
namespace SectionText

open Text

def lines (text : List Char) : List (List Char) := (splitAux '\n' text).filter (· ≠ [])

def isHeader (line : List Char) : Bool := line.head? = some '['

/-- The key and the value of a line, unless the line is blank or a comment. -/
def readLine (line : List Char) : Option (List Char × List Char) :=
  let trimmed := trimAux isSpace line
  if trimmed = [] ∨ trimmed.head? = some '#' then none
  else some ((trimAux isSpace (trimmed.takeWhile (· ≠ ' '))).map toLowerChar,
    trimAux isSpace (trimmed.dropWhile (· ≠ ' ')))

/-- The lines under each header; what stands before the first header belongs to no section. -/
def group : List (List Char) → List (List Char × List (List Char))
  | [] => []
  | line :: rest =>
    if isHeader line then (line, rest.takeWhile (!isHeader ·)) :: group rest else group rest

def readGroup (grouped : List Char × List (List Char)) :
    List Char × List (List Char × List Char) :=
  (grouped.1, grouped.2.filterMap readLine)

def read (text : List Char) : List (List Char × List (List Char × List Char)) :=
  (group (lines text)).map readGroup

structure Entry where
  indent : Nat
  key : List Char
  pad : Nat
  value : List Char

structure Block where
  header : List Char
  entries : List Entry

/-- What stands before the value; there is at least one space on either side of the key. -/
def Entry.start (e : Entry) : List Char :=
  List.replicate (e.indent + 1) ' ' ++ (e.key ++ List.replicate (e.pad + 1) ' ')

def Entry.text (e : Entry) : List Char := e.start ++ e.value

def Block.text (b : Block) : List Char :=
  b.header ++ '\n' :: (b.entries.flatMap (fun e => e.text ++ ['\n']) ++ ['\n'])

/-- A key that is read as it is written. -/
def isKey (key : List Char) : Bool :=
  key.head?.any (fun c => !isSpace c && c ≠ '#') && key.getLast?.any (!isSpace ·) &&
    key.all fun c => c ≠ ' ' && c ≠ '\n' && toLowerChar c = c

structure Block.WellFormed (b : Block) : Prop where
  header : isHeader b.header
  header_line : '\n' ∉ b.header
  keys : ∀ e ∈ b.entries, isKey e.key

def firstLine (value : List Char) : List Char := (splitAux '\n' value).headD []

def furtherLines (value : List Char) : List (List Char) := (splitAux '\n' value).tail

/-- The further lines of the value are blank or comments. -/
def OneLine (value : List Char) : Prop := ∀ line ∈ furtherLines value, readLine line = none

theorem lines_append_newline (front back : List Char) :
    lines (front ++ '\n' :: back) = lines front ++ lines back := by
  rw [lines, splitAux_append_sep, List.filter_append]
  rfl

@[simp] theorem lines_nil : lines [] = [] := rfl

section Keys

variable {e : Entry}

theorem isKey_iff {key : List Char} :
    isKey key ↔ key ≠ [] ∧ Trimmed isSpace key ∧ key.head? ≠ some '#' ∧
      ∀ c ∈ key, c ≠ ' ' ∧ c ≠ '\n' ∧ toLowerChar c = c := by
  cases key with
  | nil => simp [isKey]
  | cons c cs =>
    have hlast := List.getLast?_eq_getLast_of_ne_nil (List.cons_ne_nil c cs)
    simp only [isKey, List.head?_cons, Option.any_some, hlast, Bool.and_eq_true, Bool.not_eq_true',
      List.all_eq_true, decide_eq_true_eq, and_assoc, ne_eq, reduceCtorEq, not_false_eq_true,
      true_and, Option.some.injEq]
    constructor
    · rintro ⟨hhead, hcomment, hend, hall⟩
      refine ⟨⟨fun d hd => ?_, fun d hd => ?_⟩, hcomment, hall⟩
      · rwa [← Option.some.inj hd]
      · rw [hlast] at hd
        rwa [← Option.some.inj hd]
    · rintro ⟨htrimmed, hcomment, hall⟩
      exact ⟨htrimmed.head c rfl, hcomment, htrimmed.last _ hlast, hall⟩

theorem newline_notMem_start (hkey : isKey e.key) : '\n' ∉ e.start := by
  obtain ⟨-, -, -, hall⟩ := isKey_iff.mp hkey
  simp only [Entry.start, List.mem_append, List.mem_replicate, not_or]
  exact ⟨by simp, fun h => (hall _ h).2.1 rfl, by simp⟩

theorem splitAux_text (hkey : isKey e.key) :
    splitAux '\n' e.text = (e.start ++ firstLine e.value) :: furtherLines e.value :=
  splitAux_append_of_notMem (newline_notMem_start hkey) e.value

theorem lines_text (hkey : isKey e.key) :
    lines e.text =
      (e.start ++ firstLine e.value) :: (furtherLines e.value).filter (· ≠ []) := by
  rw [lines, splitAux_text hkey, List.filter_cons_of_pos]
  simp [Entry.start]

theorem isHeader_start (rest : List Char) : isHeader (e.start ++ rest) = false := by
  simp [isHeader, Entry.start, List.replicate_succ]

theorem readLine_start (hkey : isKey e.key) (rest : List Char) :
    readLine (e.start ++ rest) = some (e.key, trimAux isSpace rest) := by
  obtain ⟨hne, htrimmed, hcomment, hall⟩ := isKey_iff.mp hkey
  have hblank : ∀ n, ∀ c ∈ List.replicate n ' ', isSpace c := by
    intro n c hc
    rw [List.eq_of_mem_replicate hc]
    decide
  have hlower : e.key.map toLowerChar = e.key := by
    rw [List.map_congr_left fun c hc => (hall c hc).2.2, List.map_id']
  -- trimming leaves the key and what follows it
  have htrim : trimAux isSpace (e.start ++ rest) =
      e.key ++ (List.replicate (e.pad + 1) ' ' ++ rest).rdropWhile isSpace := by
    rw [Entry.start, List.append_assoc, List.append_assoc,
      trimAux_append_of_forall (hblank _), htrimmed.trimAux_append hne]
  have hskip : ¬ (trimAux isSpace (e.start ++ rest) = [] ∨
      (trimAux isSpace (e.start ++ rest)).head? = some '#') := by
    rw [htrim]
    obtain ⟨c, cs, hcons⟩ := List.exists_cons_of_ne_nil hne
    rw [hcons] at hcomment ⊢
    simpa using hcomment
  -- behind the key there is nothing or a space
  have hnext : ∀ c ∈ ((List.replicate (e.pad + 1) ' ' ++ rest).rdropWhile isSpace).head?,
      c = ' ' := by
    intro c hc
    obtain ⟨back, hback⟩ := List.rdropWhile_prefix isSpace (List.replicate (e.pad + 1) ' ' ++ rest)
    have hhead : (List.replicate (e.pad + 1) ' ' ++ rest).head? = some c := by
      rw [← hback, List.head?_append, Option.mem_def.mp hc]
      rfl
    simpa [List.replicate_succ] using hhead.symm
  generalize hback : (List.replicate (e.pad + 1) ' ' ++ rest).rdropWhile isSpace = back at hnext
  have hstop : back.takeWhile (· ≠ ' ') = [] ∧ back.dropWhile (· ≠ ' ') = back := by
    cases back with
    | nil => exact ⟨rfl, rfl⟩
    | cons c cs => simp [hnext c rfl]
  have hpart : ∀ c ∈ e.key, decide (c ≠ ' ') := fun c hc => by simp [(hall c hc).1]
  have htake : (trimAux isSpace (e.start ++ rest)).takeWhile (· ≠ ' ') = e.key := by
    rw [htrim, hback, List.takeWhile_append_of_pos hpart, hstop.1, List.append_nil]
  have hdrop : (trimAux isSpace (e.start ++ rest)).dropWhile (· ≠ ' ') = back := by
    rw [htrim, hback, List.dropWhile_append_of_pos hpart, hstop.2]
  rw [readLine, if_neg hskip, htake, hdrop, htrimmed.trimAux_eq, hlower, ← hback,
    trimAux_rdropWhile, trimAux_append_of_forall (hblank _)]

end Keys

theorem length_group (ls : List (List Char)) : (group ls).length = ls.countP isHeader := by
  induction ls with
  | nil => rfl
  | cons line rest ih =>
    rw [group, List.countP_cons]
    split
    · next h => simp [ih]
    · next h => simp [ih]

/-- A part that begins with a header is grouped on its own. -/
theorem group_append (ls : List (List Char)) {ls' : List (List Char)}
    (h : ∀ line ∈ ls'.head?, isHeader line) : group (ls ++ ls') = group ls ++ group ls' := by
  have hstop : ls'.takeWhile (!isHeader ·) = [] := by
    cases ls' with
    | nil => rfl
    | cons line rest => simp [h line rfl]
  induction ls with
  | nil => rfl
  | cons line rest ih =>
    have htake : (rest ++ ls').takeWhile (!isHeader ·) = rest.takeWhile (!isHeader ·) := by
      rw [List.takeWhile_append, hstop, List.append_nil]
      split
      · next hall =>
        exact ((List.takeWhile_prefix (!isHeader ·)).eq_of_length hall).symm
      · rfl
    rw [List.cons_append, group, group, htake, ih]
    split <;> rfl

def Block.body (b : Block) : List (List Char) := b.entries.flatMap fun e => lines e.text

def Block.lines (b : Block) : List (List Char) := b.header :: b.body

theorem group_lines {blocks : List Block} (hheader : ∀ b ∈ blocks, isHeader b.header)
    (hbody : ∀ b ∈ blocks, ∀ line ∈ b.body, isHeader line = false) :
    group (blocks.flatMap Block.lines) = blocks.map fun b => (b.header, b.body) := by
  have hskip : ∀ body : List (List Char), (∀ line ∈ body, isHeader line = false) →
      group body = [] ∧ body.takeWhile (!isHeader ·) = body := by
    intro body h
    refine ⟨List.eq_nil_of_length_eq_zero ?_, List.takeWhile_eq_self_iff.mpr fun l hl => ?_⟩
    · rw [length_group, List.countP_eq_zero]
      exact fun l hl => by simp [h l hl]
    · simp [h l hl]
  induction blocks with
  | nil => rfl
  | cons b blocks ih =>
    obtain ⟨hnone, hall⟩ := hskip b.body (hbody b List.mem_cons_self)
    -- the next section starts with its own header
    have hnext : ∀ line ∈ (blocks.flatMap Block.lines).head?, isHeader line := by
      cases blocks with
      | nil => simp
      | cons b' blocks => simpa [Block.lines] using hheader b' (by simp)
    rw [List.flatMap_cons, group_append _ hnext, ih
      (fun b' hb' => hheader b' (List.mem_cons_of_mem b hb'))
      fun b' hb' => hbody b' (List.mem_cons_of_mem b hb'), Block.lines, group,
      hheader b List.mem_cons_self, if_pos rfl, hnone, hall]
    rfl

theorem readLine_ne_none_of_isHeader {line : List Char} (h : isHeader line) :
    readLine line ≠ none := by
  cases line with
  | nil => cases h
  | cons c cs =>
    obtain rfl : c = '[' := by simpa [isHeader] using h
    have htrimmed : Trimmed isSpace ['['] :=
      .of_forall (List.forall_mem_singleton.mpr (by decide))
    have htrim := htrimmed.trimAux_append (by simp) cs
    rw [List.singleton_append] at htrim
    rw [readLine, htrim, if_neg (by simp)]
    exact Option.some_ne_none _

theorem isHeader_of_oneLine {value line : List Char} (h : OneLine value)
    (hline : line ∈ furtherLines value) : isHeader line = false := by
  rw [← Bool.not_eq_true]
  exact fun hheader => readLine_ne_none_of_isHeader hheader (h line hline)

theorem oneLine_iff_filterMap {value : List Char} :
    OneLine value ↔ (furtherLines value).filterMap readLine = [] :=
  List.filterMap_eq_nil_iff.symm

def Entry.readBack (e : Entry) : List Char × List Char :=
  (e.key, trimAux isSpace (firstLine e.value))

theorem filterMap_body {b : Block} (hkeys : ∀ e ∈ b.entries, isKey e.key = true) :
    b.body.filterMap readLine =
      b.entries.flatMap fun e => e.readBack :: (furtherLines e.value).filterMap readLine := by
  have hblank : ∀ ls : List (List Char),
      (ls.filter (· ≠ [])).filterMap readLine = ls.filterMap readLine := by
    intro ls
    rw [List.filterMap_filter]
    refine List.filterMap_congr fun line _ => ?_
    by_cases hline : line = []
    · rw [hline]
      rfl
    · simp [hline]
  rw [Block.body, List.filterMap_flatMap]
  refine List.flatMap_congr fun e he => ?_
  rw [lines_text (hkeys e he), List.filterMap_cons, readLine_start (hkeys e he), hblank]
  rfl

theorem isHeader_body {b : Block} (hkeys : ∀ e ∈ b.entries, isKey e.key)
    (hlines : ∀ e ∈ b.entries, OneLine e.value) : ∀ line ∈ b.body, isHeader line = false := by
  intro line hline
  obtain ⟨e, he, hline⟩ := List.mem_flatMap.mp hline
  rw [lines_text (hkeys e he), List.mem_cons] at hline
  rcases hline with rfl | hline
  · exact isHeader_start _
  · exact isHeader_of_oneLine (hlines e he) (List.mem_of_mem_filter hline)

section Blocks

variable {blocks : List Block}

/-- What is read of the sections that a text was made of. -/
def readBlocks (blocks : List Block) : List (List Char × List (List Char × List Char)) :=
  (group (blocks.flatMap Block.lines)).map readGroup

theorem readBlocks_append {blocks' : List Block} (hwf : ∀ b ∈ blocks', b.WellFormed) :
    readBlocks (blocks ++ blocks') = readBlocks blocks ++ readBlocks blocks' := by
  rw [readBlocks, List.flatMap_append, group_append, List.map_append]
  · rfl
  · cases blocks' with
    | nil => simp
    | cons b blocks' => simpa [Block.lines] using (hwf b List.mem_cons_self).header

/-- Sections whose values keep to their lines are read as they were written. -/
theorem readBlocks_eq (hwf : ∀ b ∈ blocks, b.WellFormed)
    (hlines : ∀ b ∈ blocks, ∀ e ∈ b.entries, OneLine e.value) :
    readBlocks blocks = blocks.map fun b => (b.header, b.entries.map Entry.readBack) := by
  rw [readBlocks, group_lines (fun b hb => (hwf b hb).header)
    fun b hb => isHeader_body (hwf b hb).keys (hlines b hb), List.map_map]
  refine List.map_congr_left fun b hb => ?_
  have hentry : ∀ e ∈ b.entries,
      e.readBack :: (furtherLines e.value).filterMap readLine = [e.readBack] := fun e he => by
    rw [oneLine_iff_filterMap.mp (hlines b hb e he)]
  rw [Function.comp_apply, readGroup, filterMap_body (hwf b hb).keys, List.flatMap_congr hentry,
    ← List.map_eq_flatMap]

private theorem eq_one_of_sum_eq_length {α : Type} {l : List α} {f : α → ℕ}
    (hone : ∀ x ∈ l, 1 ≤ f x) (hsum : (l.map f).sum = l.length) : ∀ x ∈ l, f x = 1 := by
  induction l with
  | nil => nofun
  | cons x l ih =>
    have hrest : ∀ y ∈ l, 1 ≤ f y := fun y hy => hone y (List.mem_cons_of_mem x hy)
    have hle : l.length ≤ (l.map f).sum := by
      have := List.length_le_sum_of_one_le (l.map f) (by simpa using hrest)
      simpa using this
    have hx := hone x List.mem_cons_self
    rw [List.map_cons, List.sum_cons, List.length_cons] at hsum
    intro y hy
    rcases List.mem_cons.mp hy with rfl | hy
    · omega
    · exact ih hrest (by omega) y hy

/-- No section or parameter is added if and only if the values keep to their lines. -/
theorem forall₂_length_iff (hwf : ∀ b ∈ blocks, b.WellFormed) :
    List.Forall₂ (fun b r => r.2.length = b.entries.length) blocks (readBlocks blocks) ↔
      ∀ b ∈ blocks, ∀ e ∈ b.entries, OneLine e.value := by
  constructor
  · intro h
    -- as many headers are read as there are sections, so no value holds one
    have hcount : ∀ b ∈ blocks, (b.lines).countP isHeader = 1 := by
      refine eq_one_of_sum_eq_length (fun b hb => ?_) ?_
      · rw [Block.lines, List.countP_cons_of_pos (hwf b hb).header]
        omega
      · have hlength := h.length_eq
        rw [readBlocks, List.length_map, length_group, List.countP_flatMap] at hlength
        exact hlength.symm
    have hbody : ∀ b ∈ blocks, ∀ line ∈ b.body, isHeader line = false := by
      intro b hb line hline
      have hnone := hcount b hb
      rw [Block.lines, List.countP_cons_of_pos (hwf b hb).header, Nat.add_eq_right,
        List.countP_eq_zero] at hnone
      simpa using hnone line hline
    rw [readBlocks, group_lines (fun b hb => (hwf b hb).header) hbody, List.map_map,
      List.forall₂_map_right_iff, List.forall₂_same] at h
    intro b hb
    have hlength := h b hb
    rw [Function.comp_apply, readGroup, filterMap_body (hwf b hb).keys, List.length_flatMap]
      at hlength
    intro e he
    have hone := eq_one_of_sum_eq_length (fun e _ => by simp) hlength e he
    rw [oneLine_iff_filterMap, ← List.length_eq_zero_iff]
    simpa using hone
  · intro hlines
    rw [readBlocks_eq hwf hlines, List.forall₂_map_right_iff, List.forall₂_same]
    intro b _
    simp

end Blocks

/-- A text made of sections, possibly with empty lines between them. -/
structure Rendered (text : List Char) (blocks : List Block) : Prop where
  complete : text = [] ∨ ∃ front, text = front ++ ['\n']
  lines : lines text = blocks.flatMap Block.lines

namespace Rendered

variable {text text' : List Char} {blocks blocks' : List Block}

theorem nil : Rendered [] [] := ⟨.inl rfl, rfl⟩

theorem append (h : Rendered text blocks) (h' : Rendered text' blocks') :
    Rendered (text ++ text') (blocks ++ blocks') where
  complete := by
    rcases h'.complete with rfl | ⟨front, rfl⟩
    · simpa using h.complete
    · exact .inr ⟨text ++ front, by simp⟩
  lines := by
    rw [List.flatMap_append, ← h.lines, ← h'.lines]
    rcases h.complete with rfl | ⟨front, rfl⟩
    · rfl
    · rw [List.append_assoc, List.singleton_append, lines_append_newline, lines_append_newline]
      simp

theorem newline_append (h : Rendered text blocks) : Rendered ('\n' :: text) blocks where
  complete := by
    rcases h.complete with rfl | ⟨front, rfl⟩
    · exact .inr ⟨[], rfl⟩
    · exact .inr ⟨'\n' :: front, rfl⟩
  lines := by
    rw [← h.lines]
    exact lines_append_newline [] text

theorem block {b : Block} (hwf : b.WellFormed) : Rendered b.text [b] where
  complete := .inr ⟨_, by rw [Block.text, ← List.cons_append, ← List.append_assoc]⟩
  lines := by
    have hentries : SectionText.lines (b.entries.flatMap (fun e => e.text ++ ['\n']) ++ ['\n']) =
        b.body := by
      rw [Block.body]
      induction b.entries with
      | nil => rfl
      | cons e entries ih =>
        rw [List.flatMap_cons, List.flatMap_cons, List.append_assoc, List.append_assoc,
          List.singleton_append, lines_append_newline, ih]
    have hheader : SectionText.lines b.header = [b.header] := by
      have hne : b.header ≠ [] := by
        intro hnil
        have := hwf.header
        rw [hnil] at this
        cases this
      rw [SectionText.lines, splitAux_eq_singleton hwf.header_line]
      simp [hne]
    rw [Block.text, lines_append_newline, hentries, hheader, List.flatMap_singleton]
    rfl

theorem read_eq (h : Rendered text blocks) : read text = readBlocks blocks := by
  rw [read, h.lines]
  rfl

end Rendered
end SectionText
