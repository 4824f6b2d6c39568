import Mathlib.Data.List.Infix

/-! Words that begin or end with a word of a code.
If no code word begins with another one, a word determines the code word in front of it and the
rest. The same holds at the end of a word if no code word ends with another one, and for words that
end at their first separator. Words of no code can be cut elsewhere out of their concatenation. -/
namespace PrefixCode

variable {α : Type} {codes : List (List α)} {c c' l l' : List α}

def PrefixFree (codes : List (List α)) : Prop := ∀ c ∈ codes, ∀ c' ∈ codes, c <+: c' → c = c'

def SuffixFree (codes : List (List α)) : Prop := ∀ c ∈ codes, ∀ c' ∈ codes, c <:+ c' → c = c'

instance [DecidableEq α] (codes : List (List α)) : Decidable (PrefixFree codes) :=
  inferInstanceAs (Decidable (∀ c ∈ codes, ∀ c' ∈ codes, c <+: c' → c = c'))

instance [DecidableEq α] (codes : List (List α)) : Decidable (SuffixFree codes) :=
  inferInstanceAs (Decidable (∀ c ∈ codes, ∀ c' ∈ codes, c <:+ c' → c = c'))

theorem PrefixFree.append_inj (h : PrefixFree codes) (hc : c ∈ codes) (hc' : c' ∈ codes)
    (heq : c ++ l = c' ++ l') : c = c' ∧ l = l' := by
  have hcodes : c = c' := by
    rcases List.prefix_or_prefix_of_prefix (List.prefix_append c l)
        (heq ▸ List.prefix_append c' l') with hpre | hpre
    · exact h c hc c' hc' hpre
    · exact (h c' hc' c hc hpre).symm
  subst hcodes
  exact ⟨rfl, List.append_cancel_left heq⟩

theorem SuffixFree.append_inj (h : SuffixFree codes) (hc : c ∈ codes) (hc' : c' ∈ codes)
    (heq : l ++ c = l' ++ c') : l = l' ∧ c = c' := by
  have hcodes : c = c' := by
    rcases List.suffix_or_suffix_of_suffix (List.suffix_append l c)
        (heq ▸ List.suffix_append l' c') with hsuf | hsuf
    · exact h c hc c' hc' hsuf
    · exact (h c' hc' c hc hsuf).symm
  subst hcodes
  exact ⟨List.append_cancel_right heq, rfl⟩

/-- A word that ends at the first separator is determined, with the rest. -/
theorem append_sep_inj {sep : α} {a b x y : List α} (ha : sep ∉ a) (hb : sep ∉ b)
    (h : a ++ sep :: x = b ++ sep :: y) : a = b ∧ x = y := by
  induction a generalizing b with
  | nil =>
    cases b with
    | nil => exact ⟨rfl, (List.cons.inj h).2⟩
    | cons d b => exact absurd ((List.cons.inj h).1 ▸ List.mem_cons_self) hb
  | cons c a ih =>
    cases b with
    | nil => exact absurd ((List.cons.inj h).1 ▸ List.mem_cons_self) ha
    | cons d b =>
      rw [List.mem_cons, not_or] at ha hb
      obtain ⟨hcd, hrest⟩ := List.cons.inj h
      obtain ⟨rfl, rfl⟩ := ih ha.2 hb.2 hrest
      exact ⟨by rw [hcd], rfl⟩

/-- Words become other words by moving a part of one to its neighbour and by leaving out or adding
empty words. -/
inductive Recut : List (List α) → List (List α) → Prop where
  | refl (ws : List (List α)) : Recut ws ws
  | symm {ws vs : List (List α)} (h : Recut ws vs) : Recut vs ws
  | trans {ws vs us : List (List α)} (h : Recut ws vs) (h' : Recut vs us) : Recut ws us
  | cons (w : List α) {ws vs : List (List α)} (h : Recut ws vs) : Recut (w :: ws) (w :: vs)
  | move (w part v : List α) (ws : List (List α)) :
      Recut ((w ++ part) :: v :: ws) (w :: (part ++ v) :: ws)
  | empty (ws : List (List α)) : Recut ([] :: ws) ws

theorem recut_flatten (ws : List (List α)) : Recut ws [ws.flatten] := by
  induction ws with
  | nil => exact .symm (.empty [])
  | cons w ws ih =>
    rw [List.flatten_cons]
    have hmove := Recut.move w ws.flatten [] []
    rw [List.append_nil] at hmove
    exact .trans (.cons w ih) (.trans hmove.symm (.cons _ (.empty [])))

theorem recut_iff {ws vs : List (List α)} : Recut ws vs ↔ ws.flatten = vs.flatten := by
  constructor
  · intro h
    induction h with
    | refl ws => rfl
    | symm _ ih => exact ih.symm
    | trans _ _ ih ih' => exact ih.trans ih'
    | cons w _ ih => simp [ih]
    | move w part v ws => simp
    | empty ws => rfl
  · intro h
    exact .trans (recut_flatten ws) (h ▸ (recut_flatten vs).symm)

/-- The bytes of a text. The kernel computes them faster than the characters. -/
def bytes (s : String) : List UInt8 := s.toByteArray.data.toList

theorem bytes_append (s t : String) : bytes (s ++ t) = bytes s ++ bytes t := by
  simp [bytes, String.toByteArray_append, ByteArray.data_append]

theorem bytes_inj {s t : String} : bytes s = bytes t ↔ s = t := by
  refine ⟨fun h => String.toByteArray_inj.mp (ByteArray.ext (Array.toList_inj.mp h)), ?_⟩
  rintro rfl
  rfl

theorem PrefixFree.text_inj {parts : List String} (h : PrefixFree (parts.map bytes))
    {part part' s s' : String} (hpart : part ∈ parts) (hpart' : part' ∈ parts)
    (heq : part ++ s = part' ++ s') : part = part' ∧ s = s' := by
  have hbytes := congrArg bytes heq
  rw [bytes_append, bytes_append] at hbytes
  obtain ⟨hcode, hrest⟩ :=
    h.append_inj (List.mem_map_of_mem hpart) (List.mem_map_of_mem hpart') hbytes
  exact ⟨bytes_inj.mp hcode, bytes_inj.mp hrest⟩

theorem SuffixFree.text_inj {parts : List String} (h : SuffixFree (parts.map bytes))
    {part part' s s' : String} (hpart : part ∈ parts) (hpart' : part' ∈ parts)
    (heq : s ++ part = s' ++ part') : s = s' ∧ part = part' := by
  have hbytes := congrArg bytes heq
  rw [bytes_append, bytes_append] at hbytes
  obtain ⟨hrest, hcode⟩ :=
    h.append_inj (List.mem_map_of_mem hpart) (List.mem_map_of_mem hpart') hbytes
  exact ⟨bytes_inj.mp hrest, bytes_inj.mp hcode⟩

def Begins (b s : String) : Prop := ∃ rest, s = b ++ rest

theorem begins_append (b rest : String) : Begins b (b ++ rest) := ⟨rest, rfl⟩

theorem Begins.append {b s : String} (h : Begins b s) (t : String) : Begins b (s ++ t) := by
  obtain ⟨rest, rfl⟩ := h
  exact ⟨rest ++ t, String.append_assoc⟩

theorem Begins.prepend {b s : String} (h : Begins b s) (a : String) : Begins (a ++ b) (a ++ s) := by
  obtain ⟨rest, rfl⟩ := h
  exact ⟨rest, String.append_assoc.symm⟩

/-- Texts are different if neither of their beginnings begins with the other one. -/
theorem Begins.ne {a b s t : String} (ha : Begins a s) (hb : Begins b t)
    (hab : ¬ bytes a <+: bytes b) (hba : ¬ bytes b <+: bytes a) : s ≠ t := by
  obtain ⟨rest, rfl⟩ := ha
  obtain ⟨rest', rfl⟩ := hb
  intro heq
  have hbytes := congrArg bytes heq
  rw [bytes_append, bytes_append] at hbytes
  rcases List.prefix_or_prefix_of_prefix (List.prefix_append (bytes a) (bytes rest))
      (hbytes ▸ List.prefix_append (bytes b) (bytes rest')) with hpre | hpre
  · exact hab hpre
  · exact hba hpre

end PrefixCode
