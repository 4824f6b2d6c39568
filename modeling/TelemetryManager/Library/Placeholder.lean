import Mathlib.Data.List.Basic

/-! Placeholders for environment variables in configuration texts. -/
namespace Placeholder

def ref (name : String) : String := "$\x7b" ++ name ++ "\x7d"

def isVariableChar (c : Char) : Bool := c.isUpper || c.isDigit || c = '_'

/-- A variable name in upper case, which does not start with a digit. -/
def isVariableName (name : List Char) : Bool :=
  name.all isVariableChar && name.head?.any fun c => !c.isDigit

theorem isVariableName_append {s t : List Char} (hs : isVariableName s)
    (ht : t.all isVariableChar = true) : isVariableName (s ++ t) = true := by
  obtain ⟨hchars, hhead⟩ := Bool.and_eq_true_iff.mp hs
  cases s with
  | nil => cases hhead
  | cons c s =>
    rw [isVariableName, List.all_append, hchars, ht]
    exact hhead

/-- Which variables a program reads when it expands the placeholders of a text. -/
structure Expansion where
  names : String → List String
  names_ref : ∀ name, isVariableName name.toList → names (ref name) = [name]
  names_verbatim : ∀ text : String, '$' ∉ text.toList → names text = []

/-- Read the placeholders of a text, where `name` is what has been read of the current one, last
character first, and `dollar` says that a dollar sign stands in front. -/
def scan : Option (List Char) → Bool → List Char → List String
  | _, _, [] => []
  | name, dollar, c :: cs =>
    if dollar = true ∧ c = '\x7b' then scan (some []) false cs
    else if c = '\x7d' then
      (name.map fun cs => String.ofList cs.reverse).toList ++ scan none false cs
    else scan (name.map (c :: ·)) (c = '$') cs

theorem scan_name {text : List Char} (h : text.all isVariableChar = true)
    (name : Option (List Char)) (rest : List Char) :
    scan name false (text ++ rest) = scan (name.map (text.reverse ++ ·)) false rest := by
  induction text generalizing name with
  | nil => simp
  | cons c text ih =>
    obtain ⟨hc, hrest⟩ := Bool.and_eq_true_iff.mp h
    have hdollar : c ≠ '$' := by
      rintro rfl
      exact absurd hc (by decide)
    have hbrace : c ≠ '\x7d' := by
      rintro rfl
      exact absurd hc (by decide)
    have hstep : scan name false (c :: (text ++ rest)) =
        scan (name.map (c :: ·)) false (text ++ rest) := by
      simp [scan, hdollar, hbrace]
    rw [List.cons_append, hstep, ih hrest]
    cases name <;> simp

theorem scan_verbatim {text : List Char} (h : '$' ∉ text) : scan none false text = [] := by
  induction text with
  | nil => rfl
  | cons c text ih =>
    rw [List.mem_cons, not_or] at h
    have hc : c ≠ '$' := Ne.symm h.1
    by_cases hbrace : c = '\x7d'
    · simp [scan, hbrace, ih h.2]
    · simp [scan, hbrace, hc, ih h.2]

/-- A placeholder reaches from the last `${` in front of a closing brace to that brace. -/
def lastOpening : Expansion where
  names text := scan none false text.toList
  names_ref := by
    intro name hname
    obtain ⟨hchars, -⟩ := Bool.and_eq_true_iff.mp hname
    have hopen : scan none false ('$' :: '\x7b' :: (name.toList ++ ['\x7d'])) =
        scan (some []) false (name.toList ++ ['\x7d']) := by
      simp [scan]
    have hsplit : (ref name).toList = '$' :: '\x7b' :: (name.toList ++ ['\x7d']) := by
      simp [ref]
    rw [hsplit, hopen, scan_name hchars]
    simp [scan]
  names_verbatim := fun _ h => scan_verbatim h

end Placeholder
