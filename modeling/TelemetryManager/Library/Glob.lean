import Mathlib.Data.List.Infix

/-! Patterns in which `*` stands for any text. -/
namespace Glob

def accepts : List Char → List Char → Bool
  | [], text => text.isEmpty
  | c :: pattern, text =>
    if c = '*' then text.tails.any (accepts pattern)
    else match text with
      | [] => false
      | d :: text => c == d && accepts pattern text

variable {pattern text : List Char}

theorem accepts_star_cons :
    accepts ('*' :: pattern) text ↔ ∃ rest, rest <:+ text ∧ accepts pattern rest := by
  rw [accepts.eq_def]
  simp

private theorem head_and_iff {P : List Char → Bool} {c d : Char} :
    (c == d && P text) ↔ ∃ rest, d :: text = c :: rest ∧ P rest := by
  simp only [Bool.and_eq_true, beq_iff_eq, List.cons.injEq]
  constructor
  · rintro ⟨rfl, h⟩
    exact ⟨text, ⟨rfl, rfl⟩, h⟩
  · rintro ⟨rest, ⟨rfl, rfl⟩, h⟩
    exact ⟨rfl, h⟩

theorem accepts_char_cons {c : Char} (hc : c ≠ '*') :
    accepts (c :: pattern) text ↔ ∃ rest, text = c :: rest ∧ accepts pattern rest := by
  rw [accepts.eq_def]
  cases text with
  | nil => simp [hc]
  | cons d text =>
    simp only [if_neg hc]
    exact head_and_iff

variable {part : List Char}

theorem accepts_literal_append (hpart : '*' ∉ part) (pattern text : List Char) :
    accepts (part ++ pattern) text ↔
      ∃ rest, text = part ++ rest ∧ accepts pattern rest := by
  induction part generalizing text with
  | nil => simp
  | cons c part ih =>
    have hc : c ≠ '*' := fun h => hpart (by simp [h])
    have hpart : '*' ∉ part := fun h => hpart (List.mem_cons_of_mem c h)
    rw [List.cons_append, accepts_char_cons hc]
    constructor
    · rintro ⟨text, rfl, h⟩
      obtain ⟨rest, rfl, hrest⟩ := (ih hpart text).mp h
      exact ⟨rest, rfl, hrest⟩
    · rintro ⟨rest, rfl, hrest⟩
      exact ⟨part ++ rest, rfl, (ih hpart _).mpr ⟨rest, rfl, hrest⟩⟩

theorem accepts_star (text : List Char) : accepts ['*'] text :=
  accepts_star_cons.mpr ⟨[], List.nil_suffix, rfl⟩

theorem accepts_literal_star (hpart : '*' ∉ part) (text : List Char) :
    accepts (part ++ ['*']) text ↔ part <+: text := by
  rw [accepts_literal_append hpart]
  constructor
  · rintro ⟨rest, rfl, -⟩
    exact List.prefix_append part rest
  · rintro ⟨rest, rfl⟩
    exact ⟨rest, rfl, accepts_star rest⟩

section Meets

variable (allowed : Char → Bool)

def fits (pattern : List Char) : Bool := pattern.all fun c => c = '*' || allowed c

/-- Whether some text of allowed characters makes `start` a text that the pattern matches. -/
def meets : List Char → List Char → Bool
  | pattern, [] => fits allowed pattern
  | [], _ :: _ => false
  | c :: pattern, d :: start =>
    if c = '*' then fits allowed pattern else c == d && meets pattern start

variable {allowed}

theorem fits_of_accepts {pattern text : List Char} (h : accepts pattern text)
    (htext : ∀ c ∈ text, allowed c) : fits allowed pattern := by
  induction pattern generalizing text with
  | nil => rfl
  | cons c pattern ih =>
    rw [fits, List.all_cons, Bool.and_eq_true]
    by_cases hc : c = '*'
    · subst hc
      obtain ⟨rest, hrest, haccepts⟩ := accepts_star_cons.mp h
      exact ⟨rfl, ih haccepts fun d hd => htext d (hrest.subset hd)⟩
    · obtain ⟨rest, rfl, haccepts⟩ := (accepts_char_cons hc).mp h
      exact ⟨by simp [htext c (by simp)],
        ih haccepts fun d hd => htext d (List.mem_cons_of_mem c hd)⟩

/-- A pattern matches what is left of it without the stars. -/
theorem accepts_filter (pattern : List Char) :
    accepts pattern (pattern.filter (· ≠ '*')) = true := by
  induction pattern with
  | nil => rfl
  | cons c pattern ih =>
    by_cases hc : c = '*'
    · subst hc
      exact accepts_star_cons.mpr ⟨_, by simp, ih⟩
    · rw [List.filter_cons_of_pos (by simpa using hc)]
      exact (accepts_char_cons hc).mpr ⟨_, rfl, ih⟩

theorem allowed_of_fits {pattern : List Char} (h : fits allowed pattern) :
    ∀ c ∈ pattern.filter (· ≠ '*'), allowed c = true := by
  intro c hc
  obtain ⟨hmem, hstar⟩ := List.mem_filter.mp hc
  have hfits := List.all_eq_true.mp h c hmem
  simp only [Bool.or_eq_true, decide_eq_true_eq] at hfits hstar
  exact hfits.resolve_left hstar

theorem meets_iff {pattern start : List Char} (hstart : ∀ c ∈ start, allowed c) :
    meets allowed pattern start ↔
      ∃ rest, (∀ c ∈ rest, allowed c) ∧ accepts pattern (start ++ rest) := by
  induction start generalizing pattern with
  | nil =>
    constructor
    · intro h
      have hfits : fits allowed pattern := by cases pattern <;> exact h
      exact ⟨_, allowed_of_fits hfits, accepts_filter pattern⟩
    · rintro ⟨rest, hrest, haccepts⟩
      have hfits := fits_of_accepts haccepts hrest
      cases pattern <;> exact hfits
  | cons d start ih =>
    cases pattern with
    | nil => simp [meets, accepts]
    | cons c pattern =>
      rw [meets]
      by_cases hc : c = '*'
      · subst hc
        rw [if_pos rfl]
        constructor
        · intro h
          -- the star takes all of the beginning
          exact ⟨_, allowed_of_fits h,
            accepts_star_cons.mpr ⟨_, List.suffix_append _ _, accepts_filter pattern⟩⟩
        · rintro ⟨rest, hrest, haccepts⟩
          have hfits := fits_of_accepts haccepts (by
            intro e he
            rcases List.mem_append.mp he with he | he
            · exact hstart e he
            · exact hrest e he)
          rw [fits, List.all_cons, Bool.and_eq_true] at hfits
          exact hfits.2
      · rw [if_neg hc, Bool.and_eq_true, beq_iff_eq,
          ih fun e he => hstart e (List.mem_cons_of_mem d he)]
        simp only [List.cons_append, accepts_char_cons hc, List.cons.injEq]
        constructor
        · rintro ⟨rfl, rest, hrest, haccepts⟩
          exact ⟨rest, hrest, start ++ rest, ⟨rfl, rfl⟩, haccepts⟩
        · rintro ⟨rest, hrest, _, ⟨rfl, rfl⟩, haccepts⟩
          exact ⟨rfl, rest, hrest, haccepts⟩

theorem meets_literal_star_iff {part start : List Char} (hpart : '*' ∉ part)
    (hallowed : ∀ c ∈ part, allowed c) (hstart : ∀ c ∈ start, allowed c) :
    meets allowed (part ++ ['*']) start ↔ part <+: start ∨ start <+: part := by
  simp only [meets_iff hstart, accepts_literal_star hpart]
  constructor
  · rintro ⟨rest, -, hpre⟩
    exact List.prefix_or_prefix_of_prefix hpre (List.prefix_append start rest)
  · rintro (hpre | ⟨rest, rfl⟩)
    · exact ⟨[], nofun, by simpa using hpre⟩
    · exact ⟨rest, fun c hc => hallowed c (List.mem_append_right start hc), List.prefix_rfl⟩

end Meets

/-- Leave out some characters in front, none of them a slash. -/
def skipName (accept : List Char → Bool) : List Char → Bool
  | [] => accept []
  | d :: text => accept (d :: text) || (d ≠ '/' && skipName accept text)

/-- Whether the whole path is matched, where `*` stands for any text without slash. -/
def acceptsPath : List Char → List Char → Bool
  | [], text => text.isEmpty
  | c :: pattern, text =>
    if c = '*' then skipName (acceptsPath pattern) text
    else match text with
      | [] => false
      | d :: text => c == d && acceptsPath pattern text

theorem skipName_iff {accept : List Char → Bool} {text : List Char} :
    skipName accept text ↔
      ∃ front rest, text = front ++ rest ∧ '/' ∉ front ∧ accept rest := by
  induction text with
  | nil => simp [skipName]
  | cons d text ih =>
    rw [skipName, Bool.or_eq_true, Bool.and_eq_true, ih, decide_eq_true_eq]
    constructor
    · rintro (h | ⟨hd, front, rest, rfl, hfront, h⟩)
      · exact ⟨[], d :: text, rfl, by simp, h⟩
      · exact ⟨d :: front, rest, rfl, by simp [Ne.symm hd, hfront], h⟩
    · rintro ⟨front, rest, htext, hfront, h⟩
      cases front with
      | nil =>
        rw [List.nil_append] at htext
        exact .inl (htext ▸ h)
      | cons e front =>
        cases htext
        rw [List.mem_cons, not_or] at hfront
        exact .inr ⟨Ne.symm hfront.1, front, rest, rfl, hfront.2, h⟩

theorem acceptsPath_star_cons :
    acceptsPath ('*' :: pattern) text ↔
      ∃ front rest, text = front ++ rest ∧ '/' ∉ front ∧ acceptsPath pattern rest := by
  rw [acceptsPath.eq_def]
  simp only [if_true]
  exact skipName_iff

theorem acceptsPath_char_cons {c : Char} (hc : c ≠ '*') :
    acceptsPath (c :: pattern) text ↔ ∃ rest, text = c :: rest ∧ acceptsPath pattern rest := by
  rw [acceptsPath.eq_def]
  cases text with
  | nil => simp [hc]
  | cons d text =>
    simp only [if_neg hc]
    exact head_and_iff

theorem acceptsPath_literal_append (hpart : '*' ∉ part) (pattern text : List Char) :
    acceptsPath (part ++ pattern) (part ++ text) = acceptsPath pattern text := by
  induction part with
  | nil => rfl
  | cons c part ih =>
    rw [List.mem_cons, not_or] at hpart
    rw [List.cons_append, List.cons_append, acceptsPath.eq_def]
    simp [Ne.symm hpart.1, ih hpart.2]

theorem acceptsPath_slash {name : List Char} (hname : '/' ∉ name) (pattern text : List Char) :
    acceptsPath (name ++ '/' :: pattern) text ↔
      ∃ front rest, text = front ++ '/' :: rest ∧ '/' ∉ front ∧ accepts name front ∧
        acceptsPath pattern rest := by
  induction name generalizing text with
  | nil =>
    rw [List.nil_append, acceptsPath_char_cons (by decide)]
    constructor
    · rintro ⟨rest, rfl, h⟩
      exact ⟨[], rest, rfl, by simp, rfl, h⟩
    · rintro ⟨front, rest, rfl, -, hfront, h⟩
      cases List.isEmpty_iff.mp hfront
      exact ⟨rest, rfl, h⟩
  | cons c name ih =>
    rw [List.mem_cons, not_or] at hname
    rw [List.cons_append]
    by_cases hc : c = '*'
    · subst hc
      rw [acceptsPath_star_cons]
      constructor
      · rintro ⟨front, text, rfl, hfront, h⟩
        obtain ⟨front', rest, rfl, hfront', haccepts, h⟩ := (ih hname.2 text).mp h
        refine ⟨front ++ front', rest, (List.append_assoc front front' _).symm,
          by simp [hfront, hfront'], ?_, h⟩
        exact accepts_star_cons.mpr ⟨front', List.suffix_append front front', haccepts⟩
      · rintro ⟨front, rest, rfl, hfront, haccepts, h⟩
        obtain ⟨front', ⟨skipped, rfl⟩, haccepts'⟩ := accepts_star_cons.mp haccepts
        rw [List.mem_append, not_or] at hfront
        exact ⟨skipped, front' ++ '/' :: rest, List.append_assoc skipped front' _, hfront.1,
          (ih hname.2 _).mpr ⟨front', rest, rfl, hfront.2, haccepts', h⟩⟩
    · rw [acceptsPath_char_cons hc]
      constructor
      · rintro ⟨text, rfl, h⟩
        obtain ⟨front, rest, rfl, hfront, haccepts, h⟩ := (ih hname.2 text).mp h
        exact ⟨c :: front, rest, rfl, by simp [hname.1, hfront],
          (accepts_char_cons hc).mpr ⟨front, rfl, haccepts⟩, h⟩
      · rintro ⟨front, rest, rfl, hfront, haccepts, h⟩
        obtain ⟨front', rfl, haccepts'⟩ := (accepts_char_cons hc).mp haccepts
        rw [List.mem_cons, not_or] at hfront
        exact ⟨front' ++ '/' :: rest, rfl, (ih hname.2 _).mpr ⟨front', rest, rfl, hfront.2,
          haccepts', h⟩⟩

theorem acceptsPath_slash_slash {name front : List Char} (hname : '/' ∉ name)
    (hfront : '/' ∉ front) (pattern rest : List Char) :
    acceptsPath (name ++ '/' :: pattern) (front ++ '/' :: rest) ↔
      accepts name front ∧ acceptsPath pattern rest := by
  have htake : ∀ {front : List Char}, '/' ∉ front → ∀ rest,
      (front ++ '/' :: rest).takeWhile (· ≠ '/') = front := by
    intro front hfront rest
    rw [List.takeWhile_append_of_pos]
    · simp
    · intro c hc
      rw [decide_eq_true_iff]
      rintro rfl
      exact hfront hc
  rw [acceptsPath_slash hname]
  constructor
  · rintro ⟨front', rest', htext, hfront', haccepts, h⟩
    have hsame : front = front' := by
      rw [← htake hfront rest, htext, htake hfront' rest']
    subst hsame
    cases List.append_cancel_left htext
    exact ⟨haccepts, h⟩
  · rintro ⟨haccepts, h⟩
    exact ⟨front, rest, rfl, hfront, haccepts, h⟩

theorem acceptsPath_name {name : List Char} (hname : '/' ∉ name) (text : List Char) :
    acceptsPath name text ↔ '/' ∉ text ∧ accepts name text := by
  induction name generalizing text with
  | nil =>
    rw [acceptsPath.eq_def, accepts.eq_def]
    simp only [List.isEmpty_iff, iff_and_self]
    rintro rfl
    simp
  | cons c name ih =>
    rw [List.mem_cons, not_or] at hname
    by_cases hc : c = '*'
    · subst hc
      rw [acceptsPath_star_cons, accepts_star_cons]
      constructor
      · rintro ⟨front, rest, rfl, hfront, h⟩
        obtain ⟨hrest, haccepts⟩ := (ih hname.2 rest).mp h
        exact ⟨by simp [hfront, hrest], rest, List.suffix_append front rest, haccepts⟩
      · rintro ⟨htext, rest, ⟨front, rfl⟩, haccepts⟩
        rw [List.mem_append, not_or] at htext
        exact ⟨front, rest, rfl, htext.1, (ih hname.2 rest).mpr ⟨htext.2, haccepts⟩⟩
    · rw [acceptsPath_char_cons hc, accepts_char_cons hc]
      constructor
      · rintro ⟨rest, rfl, h⟩
        obtain ⟨hrest, haccepts⟩ := (ih hname.2 rest).mp h
        exact ⟨by simp [hname.1, hrest], rest, rfl, haccepts⟩
      · rintro ⟨htext, rest, rfl, haccepts⟩
        rw [List.mem_cons, not_or] at htext
        exact ⟨rest, rfl, (ih hname.2 rest).mpr ⟨htext.2, haccepts⟩⟩

end Glob
