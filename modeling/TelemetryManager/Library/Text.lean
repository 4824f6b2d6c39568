import Mathlib.Data.List.DropRight
import Mathlib.Data.List.Infix
import Mathlib.Data.List.TakeDrop

/-! Text functions of a systems-language standard library, by structural recursion on the
characters, so that they compute on literals. -/
namespace Text

def contains (s sub : String) : Bool :=
  s.toList.tails.any fun t => sub.toList.isPrefixOf t

def hasPrefix (s pre : String) : Bool := pre.toList.isPrefixOf s.toList

/-- Replace the non-overlapping occurrences of `old`, from the left, after skipping `skip`
characters that belong to the last occurrence. -/
def replaceAllAux (old new : List Char) : Nat → List Char → List Char
  | _, [] => []
  | skip + 1, _ :: cs => replaceAllAux old new skip cs
  | 0, c :: cs =>
    if old.isPrefixOf (c :: cs) then new ++ replaceAllAux old new (old.length - 1) cs
    else c :: replaceAllAux old new 0 cs

def replaceAll (s old new : String) : String :=
  String.ofList (replaceAllAux old.toList new.toList 0 s.toList)

theorem toList_replaceAll_char {s old new : String} {a b : Char} (hold : old.toList = [a])
    (hnew : new.toList = [b]) :
    (replaceAll s old new).toList = s.toList.map fun c => if c = a then b else c := by
  rw [replaceAll, String.toList_ofList, hold, hnew]
  induction s.toList with
  | nil => rfl
  | cons c cs ih =>
    by_cases hc : c = a
    · simp [replaceAllAux, List.isPrefixOf, hc, ih]
    · simp [replaceAllAux, List.isPrefixOf, hc, ih, Ne.symm hc]

/-- With a shorter replacement the text does not become longer, and it becomes shorter if there is
an occurrence. -/
theorem length_replaceAllAux {old new : List Char} (hlen : new.length < old.length) (skip : Nat)
    (s : List Char) :
    (replaceAllAux old new skip s).length + min skip s.length ≤ s.length ∧
      (skip = 0 → (s.tails.any fun t => old.isPrefixOf t) = true →
        (replaceAllAux old new 0 s).length < s.length) := by
  induction s generalizing skip with
  | nil =>
    cases old with
    | nil => simp at hlen
    | cons a old => simp [replaceAllAux]
  | cons c cs ih =>
    cases skip with
    | succ skip =>
      have hrest := (ih skip).1
      simp only [replaceAllAux, List.length_cons]
      exact ⟨by omega, fun h => absurd h (Nat.succ_ne_zero skip)⟩
    | zero =>
      simp only [replaceAllAux, List.length_cons]
      by_cases hocc : old.isPrefixOf (c :: cs)
      · have hold : old.length ≤ cs.length + 1 := by
          simpa using (List.isPrefixOf_iff_prefix.mp hocc).length_le
        have hrest := (ih (old.length - 1)).1
        rw [if_pos hocc, List.length_append]
        exact ⟨by omega, fun _ _ => by omega⟩
      · have hrest := ih 0
        rw [if_neg hocc, List.length_cons]
        refine ⟨by omega, fun _ hany => ?_⟩
        rw [List.tails_cons, List.any_cons, Bool.or_eq_true] at hany
        have hcs := hrest.2 rfl (hany.resolve_left hocc)
        omega

/-- Replacing by a shorter text changes nothing exactly if there is no occurrence. -/
theorem replaceAll_eq_self_iff {s old new : String} (hlen : new.toList.length < old.toList.length) :
    replaceAll s old new = s ↔ contains s old = false := by
  rw [← String.toList_inj, replaceAll, String.toList_ofList, contains]
  constructor
  · intro h
    by_contra hocc
    have hshorter := (length_replaceAllAux hlen 0 s.toList).2 rfl (by simpa using hocc)
    rw [h] at hshorter
    exact Nat.lt_irrefl _ hshorter
  · intro h
    generalize s.toList = cs at h ⊢
    induction cs with
    | nil => rfl
    | cons c cs ih =>
      rw [List.tails_cons, List.any_cons, Bool.or_eq_false_iff] at h
      rw [replaceAllAux, h.1, ih h.2]
      rfl

def replaceFirstAux (old new : List Char) : List Char → List Char
  | [] => []
  | c :: cs =>
    if old.isPrefixOf (c :: cs) then new ++ (c :: cs).drop old.length
    else c :: replaceFirstAux old new cs

def replaceFirst (s old new : String) : String :=
  String.ofList (replaceFirstAux old.toList new.toList s.toList)

def splitAux (sep : Char) : List Char → List (List Char)
  | [] => [[]]
  | c :: cs =>
    if c = sep then [] :: splitAux sep cs
    else match splitAux sep cs with
      | [] => [[c]]
      | part :: parts => (c :: part) :: parts

theorem splitAux_eq_splitOnP (sep : Char) (cs : List Char) :
    splitAux sep cs = cs.splitOnP (· == sep) := by
  induction cs with
  | nil => rfl
  | cons c cs ih =>
    rw [splitAux, List.splitOnP_cons_eq_if_modifyHead, ih]
    by_cases hc : c = sep
    · simp [hc]
    · obtain ⟨part, parts, hparts⟩ :=
        List.exists_cons_of_ne_nil (List.splitOnP_ne_nil (· == sep) cs)
      simp [hc, hparts]

theorem splitAux_append_sep (sep : Char) (before after : List Char) :
    splitAux sep (before ++ sep :: after) = splitAux sep before ++ splitAux sep after := by
  simp only [splitAux_eq_splitOnP]
  exact List.splitOnP_append_cons before after (by simp)

variable {sep : Char}

theorem splitAux_eq_singleton {cs : List Char} (h : sep ∉ cs) :
    splitAux sep cs = [cs] := by
  rw [splitAux_eq_splitOnP]
  exact List.splitOnP_eq_singleton fun c hc => by
    simpa using fun heq : c = sep => h (heq ▸ hc)

theorem splitAux_append_of_notMem {front : List Char} (h : sep ∉ front) (back : List Char) :
    splitAux sep (front ++ back) =
      (front ++ (splitAux sep back).headD []) :: (splitAux sep back).tail := by
  induction front with
  | nil =>
    cases hback : splitAux sep back with
    | nil => simp [splitAux_eq_splitOnP, List.splitOnP_ne_nil] at hback
    | cons part parts => simp [hback]
  | cons c front ih =>
    rw [List.mem_cons, not_or] at h
    simp [splitAux, ih h.2, Ne.symm h.1]

theorem notMem_of_mem_splitAux {cs part : List Char} (h : part ∈ splitAux sep cs) :
    sep ∉ part := by
  induction cs generalizing part with
  | nil => simp_all [splitAux]
  | cons c cs ih =>
    rw [splitAux] at h
    split at h
    · rcases List.mem_cons.mp h with rfl | h
      · simp
      · exact ih h
    · next hc =>
      split at h
      · simp_all [Ne.symm hc]
      · next first parts heq =>
        rcases List.mem_cons.mp h with rfl | h
        · simp [Ne.symm hc, ih (heq ▸ List.mem_cons_self)]
        · exact ih (heq ▸ List.mem_cons_of_mem _ h)

theorem exists_mem_splitAux {sep c : Char} {cs : List Char} (hc : c ∈ cs) (hsep : c ≠ sep) :
    ∃ part ∈ splitAux sep cs, c ∈ part := by
  induction cs with
  | nil => cases hc
  | cons d cs ih =>
    rw [splitAux]
    rcases List.mem_cons.mp hc with rfl | hc
    · rw [if_neg hsep]
      split
      · exact ⟨[c], by simp, by simp⟩
      · exact ⟨_, List.mem_cons_self, by simp⟩
    · obtain ⟨part, hpart, hmem⟩ := ih hc
      split
      · exact ⟨part, List.mem_cons_of_mem _ hpart, hmem⟩
      · split
        · next heq => simp [heq] at hpart
        · next first parts heq =>
          rw [heq] at hpart
          rcases List.mem_cons.mp hpart with rfl | hpart
          · exact ⟨d :: part, List.mem_cons_self, List.mem_cons_of_mem d hmem⟩
          · exact ⟨part, List.mem_cons_of_mem _ hpart, hmem⟩

def split (s : String) (sep : Char) : List String := (splitAux sep s.toList).map String.ofList

theorem split_intercalate {joint : String} (hjoint : joint.toList = [sep])
    {parts : List String} (hne : parts ≠ []) (hparts : ∀ part ∈ parts, sep ∉ part.toList) :
    split (joint.intercalate parts) sep = parts := by
  induction parts with
  | nil => exact absurd rfl hne
  | cons part parts ih =>
    have hpart : sep ∉ part.toList := hparts part List.mem_cons_self
    cases parts with
    | nil => simp [split, splitAux_eq_singleton hpart]
    | cons next rest =>
      have hrest := ih (List.cons_ne_nil next rest) fun p hp =>
        hparts p (List.mem_cons_of_mem part hp)
      unfold split at hrest ⊢
      rw [String.intercalate_cons_cons, String.toList_append, String.toList_append, hjoint,
        List.append_assoc, List.singleton_append, splitAux_append_sep,
        splitAux_eq_singleton hpart, List.map_append, hrest]
      simp

/-- The text before and after the first separator, if there is one. -/
def cut (s : String) (sep : Char) : Option (String × String) :=
  match s.toList.span (· ≠ sep) with
  | (_, []) => none
  | (before, _ :: after) => some (String.ofList before, String.ofList after)

theorem cut_append {before : List Char} (h : sep ∉ before) (after : List Char) :
    cut (String.ofList (before ++ sep :: after)) sep =
      some (String.ofList before, String.ofList after) := by
  have hbefore : ∀ c ∈ before, decide (c ≠ sep) := by
    intro c hc
    exact decide_eq_true fun heq => h (heq ▸ hc)
  rw [cut, String.toList_ofList, List.span_eq_takeWhile_dropWhile,
    List.takeWhile_append_of_pos hbefore, List.dropWhile_append_of_pos hbefore]
  simp

theorem cut_eq_some {s before after : String} (h : cut s sep = some (before, after)) :
    s.toList = before.toList ++ sep :: after.toList ∧ sep ∉ before.toList := by
  unfold cut at h
  rw [List.span_eq_takeWhile_dropWhile] at h
  have hsplit := @List.takeWhile_append_dropWhile _ (· ≠ sep) s.toList
  cases hdrop : s.toList.dropWhile (· ≠ sep) with
  | nil => simp only [hdrop, reduceCtorEq] at h
  | cons c rest =>
    simp only [hdrop, Option.some.injEq, Prod.mk.injEq] at h
    obtain ⟨rfl, rfl⟩ := h
    have hsep : c = sep := by
      have hnot := List.head?_dropWhile_not (· ≠ sep) s.toList
      rw [hdrop] at hnot
      simpa using hnot
    rw [hdrop, hsep] at hsplit
    refine ⟨by simpa using hsplit.symm, ?_⟩
    intro hmem
    have hne := List.mem_takeWhile_imp (by simpa using hmem)
    simp at hne

/-- The white space characters of Unicode. -/
def isSpace (c : Char) : Bool :=
  c ∈ ['\t', '\n', '\x0b', '\x0c', '\r', ' ', '\u0085', '\u00a0', '\u1680', '\u2028',
    '\u2029', '\u202f', '\u205f', '\u3000'] || ('\u2000' ≤ c && c ≤ '\u200a')

def trimAux (p : Char → Bool) (cs : List Char) : List Char :=
  ((cs.dropWhile p).reverse.dropWhile p).reverse

section Trim

variable {p : Char → Bool} {cs : List Char}

theorem rdropWhile_append (p : Char → Bool) (front back : List Char) :
    (front ++ back).rdropWhile p =
      if back.rdropWhile p = [] then front.rdropWhile p else front ++ back.rdropWhile p := by
  simp only [List.rdropWhile, List.reverse_append, List.dropWhile_append, List.isEmpty_iff,
    List.reverse_eq_nil_iff]
  split <;> simp

theorem trimAux_append_of_forall {front : List Char} (h : ∀ c ∈ front, p c)
    (back : List Char) : trimAux p (front ++ back) = trimAux p back := by
  rw [trimAux, List.dropWhile_append_of_pos h]
  rfl

/-- No character at either end is to be trimmed. -/
structure Trimmed (p : Char → Bool) (cs : List Char) : Prop where
  head : ∀ c ∈ cs.head?, p c = false
  last : ∀ c ∈ cs.getLast?, p c = false

theorem Trimmed.of_forall (h : ∀ c ∈ cs, p c = false) : Trimmed p cs where
  head := fun c hc => h c (List.mem_of_mem_head? hc)
  last := fun c hc => h c (List.mem_of_mem_getLast? hc)

theorem Trimmed.dropWhile_eq (h : Trimmed p cs) : cs.dropWhile p = cs := by
  cases cs with
  | nil => rfl
  | cons c cs =>
    rw [List.dropWhile_cons, h.head c rfl]
    rfl

theorem Trimmed.rdropWhile_eq (h : Trimmed p cs) : cs.rdropWhile p = cs := by
  rw [List.rdropWhile_eq_self_iff]
  intro hne
  simp [h.last _ (List.getLast?_eq_getLast_of_ne_nil hne)]

theorem Trimmed.trimAux_eq (h : Trimmed p cs) : trimAux p cs = cs := by
  have heq : trimAux p cs = (cs.dropWhile p).rdropWhile p := rfl
  rw [heq, h.dropWhile_eq, h.rdropWhile_eq]

theorem trimmed_trimAux (p : Char → Bool) (cs : List Char) : Trimmed p (trimAux p cs) where
  head := by
    intro c hc
    obtain ⟨rest, hrest⟩ : trimAux p cs <+: cs.dropWhile p := List.rdropWhile_prefix p _
    -- the first character is the one where dropping from the left stopped
    have hhead : (cs.dropWhile p).head? = some c := by
      rw [← hrest, List.head?_append, Option.mem_def.mp hc]
      rfl
    have hnot := List.head?_dropWhile_not p cs
    rwa [hhead] at hnot
  last := by
    intro c hc
    have hne : (cs.dropWhile p).rdropWhile p ≠ [] := by
      intro hnil
      rw [show trimAux p cs = (cs.dropWhile p).rdropWhile p from rfl, hnil] at hc
      cases hc
    have hlast := List.rdropWhile_last_not p (cs.dropWhile p) hne
    have hc' := List.getLast?_eq_getLast_of_ne_nil hne
    rw [show trimAux p cs = (cs.dropWhile p).rdropWhile p from rfl, hc'] at hc
    cases hc
    simpa using hlast

theorem mem_of_mem_trimAux {c : Char} (h : c ∈ trimAux p cs) : c ∈ cs :=
  (List.dropWhile_sublist p).subset ((List.rdropWhile_prefix p _).subset h)

/-- Blanks behind a trimmed text are the only ones that trimming removes. -/
theorem Trimmed.trimAux_append (h : Trimmed p cs) (hne : cs ≠ []) (back : List Char) :
    trimAux p (cs ++ back) = cs ++ back.rdropWhile p := by
  have heq : trimAux p (cs ++ back) = ((cs ++ back).dropWhile p).rdropWhile p := rfl
  have hfront : (cs.dropWhile p).isEmpty = false := by
    rw [h.dropWhile_eq]
    simpa using hne
  rw [heq, List.dropWhile_append, hfront, if_neg Bool.false_ne_true, h.dropWhile_eq,
    rdropWhile_append, h.rdropWhile_eq]
  split
  · next hnil => rw [hnil, List.append_nil]
  · rfl

theorem trimAux_rdropWhile (p : Char → Bool) (cs : List Char) :
    trimAux p (cs.rdropWhile p) = trimAux p cs := by
  have hblank : ∀ c ∈ cs.takeWhile p, p c = true := fun c hc => List.mem_takeWhile_imp hc
  have hblanks : (cs.takeWhile p).rdropWhile p = [] :=
    List.rdropWhile_eq_nil_iff.mpr fun c hc => by simp [hblank c hc]
  have htrim : (cs.dropWhile p).rdropWhile p = trimAux p cs := rfl
  have hsplit := rdropWhile_append p (cs.takeWhile p) (cs.dropWhile p)
  rw [List.takeWhile_append_dropWhile, hblanks, htrim] at hsplit
  rw [hsplit]
  split
  · next hnil => rw [hnil]; rfl
  · rw [trimAux_append_of_forall hblank]
    exact (trimmed_trimAux p cs).trimAux_eq

end Trim

def trimSpace (s : String) : String := String.ofList (trimAux isSpace s.toList)

def trimChar (s : String) (c : Char) : String := String.ofList (trimAux (· == c) s.toList)

/-- Lower case of a character, exact wherever the result is ASCII: besides `A` to `Z` these are
the dotted capital I and the Kelvin sign. Other characters are left alone. -/
def toLowerChar (c : Char) : Char :=
  if c = '\u0130' then 'i' else if c = '\u212a' then 'k' else c.toLower

def toLower (s : String) : String := String.ofList (s.toList.map toLowerChar)

theorem isLower_iff {c : Char} : c.isLower ↔ 97 ≤ c.val.toNat ∧ c.val.toNat ≤ 122 := by
  unfold Char.isLower
  rw [Bool.and_eq_true, decide_eq_true_iff, decide_eq_true_iff, ge_iff_le,
    UInt32.le_iff_toNat_le, UInt32.le_iff_toNat_le]
  rfl

theorem toLowerChar_cases (c : Char) : toLowerChar c = c ∨ (toLowerChar c).isLower := by
  unfold toLowerChar
  split
  · exact .inr (by decide)
  · split
    · exact .inr (by decide)
    · unfold Char.toLower
      split
      · next hc =>
        rw [ge_iff_le, UInt32.le_iff_toNat_le, UInt32.le_iff_toNat_le] at hc
        have hbounds : 65 ≤ c.val.toNat ∧ c.val.toNat ≤ 90 := hc
        refine .inr (isLower_iff.mpr ?_)
        have hval : (c.val + ('a'.val - 'A'.val)).toNat = c.val.toNat + 32 := by
          rw [UInt32.toNat_add, show ('a'.val - 'A'.val).toNat = 32 by decide]
          omega
        rw [hval]
        omega
      · exact .inl rfl

theorem toLowerChar_eq_self {c : Char} (hascii : c.val.toNat < 128) (hupper : c.isUpper = false) :
    toLowerChar c = c := by
  have hne : ∀ d : Char, 128 ≤ d.val.toNat → c ≠ d := by
    rintro d hd rfl
    omega
  rw [toLowerChar, if_neg (hne _ (by decide)), if_neg (hne _ (by decide))]
  unfold Char.toLower
  exact dif_neg (of_decide_eq_false hupper)

theorem toLowerChar_of_isLower {c : Char} (h : c.isLower) : toLowerChar c = c := by
  have hbounds := isLower_iff.mp h
  refine toLowerChar_eq_self (by omega) (decide_eq_false fun hupper => ?_)
  have hle : c.val.toNat ≤ 90 := UInt32.le_iff_toNat_le.mp hupper.2
  omega

theorem toLowerChar_ne {c d : Char} (hd : d.isLower = false) (h : c ≠ d) : toLowerChar c ≠ d := by
  rintro rfl
  rcases toLowerChar_cases c with hc | hc
  · exact h hc.symm
  · rw [hc] at hd
    cases hd

theorem val_of_isSpace {c : Char} (h : isSpace c) :
    c.val.toNat ≤ 32 ∨ 133 ≤ c.val.toNat := by
  rw [isSpace, Bool.or_eq_true, decide_eq_true_iff, Bool.and_eq_true, decide_eq_true_iff,
    Char.le_def, UInt32.le_iff_toNat_le] at h
  rcases h with hmem | ⟨hge, -⟩
  · have hall : ∀ d ∈ ['\t', '\n', '\x0b', '\x0c', '\r', ' ', '\u0085', '\u00a0', '\u1680',
        '\u2028', '\u2029', '\u202f', '\u205f', '\u3000'],
        d.val.toNat ≤ 32 ∨ 133 ≤ d.val.toNat := List.forall_iff_forall_mem.mp (by decide)
    exact hall c hmem
  · have hval : '\u2000'.val.toNat = 8192 := by decide
    omega

theorem isSpace_toLowerChar {c : Char} (h : isSpace c = false) :
    isSpace (toLowerChar c) = false := by
  rcases toLowerChar_cases c with hc | hc
  · rw [hc]
    exact h
  · -- letters are not white space
    rw [isLower_iff] at hc
    rw [← Bool.not_eq_true]
    intro hspace
    have := val_of_isSpace hspace
    omega

@[simp] theorem toLower_toLower (s : String) : toLower (toLower s) = toLower s := by
  simp only [toLower, String.toList_ofList, List.map_map]
  congr 2
  funext c
  rcases toLowerChar_cases c with h | h
  · rw [Function.comp_apply, h]
    exact h
  · exact toLowerChar_of_isLower h

/-- Upper case of a character, exact wherever the result is ASCII: besides `a` to `z` these are the
dotless i and the long s. Other characters are left alone. -/
def toUpperChar (c : Char) : Char :=
  if c = '\u0131' then 'I' else if c = '\u017f' then 'S' else c.toUpper

def toUpper (s : String) : String := String.ofList (s.toList.map toUpperChar)

/-- A representative of the characters that simple case folding identifies with `c`, exact for
the classes that contain an ASCII letter: the Kelvin sign folds to `k`, the long s to `s`. -/
def foldChar (c : Char) : Char :=
  if c = '\u212a' then 'k' else if c = '\u017f' then 's' else c.toLower

def equalFold (s t : String) : Bool := s.toList.map foldChar == t.toList.map foldChar

end Text
