import Mathlib.Data.List.AList
import TelemetryManager.Library.Regex

/-! Relabel programs. A program is a list of rules that keep or drop a target by the values of its
labels, or write labels. An absent label has the empty value. -/
namespace Relabel

abbrev Target := AList fun _ : String => String

def value (t : Target) (label : String) : String := (t.lookup label).getD ""

/-- An empty value removes the label. -/
def set (t : Target) (label v : String) : Target :=
  if v = "" then t.erase label else t.insert label v

/-- A part of a replacement: a text, or the text of a group. -/
inductive Piece where
  | text (s : String)
  | group (n : Nat)

inductive Action where
  | keep
  | drop
  | replace
  | labelMap

/-- The expression is by default `(.*)`, and the replacement the text of the first group. -/
structure Rule where
  sourceLabels : List String := []
  action : Action
  regex : Regex := .group 1 (.many Regex.any)
  targetLabel : String := ""
  replacement : List Piece := [.group 1]

namespace Rule

def expandPiece (g : Regex.Captures) : Piece → List Char
  | .text s => s.toList
  | .group n => g n

def expand (rule : Rule) (g : Regex.Captures) : String :=
  String.ofList (rule.replacement.map (expandPiece g)).flatten

/-- The values of the source labels, separated by semicolons. -/
def sourceValue (rule : Rule) (t : Target) : List Char :=
  [';'].intercalate (rule.sourceLabels.map fun label => (value t label).toList)

/-- A rule whose expression does not match leaves the target as it is. -/
def replace (rule : Rule) (t : Target) : Target :=
  match rule.regex.fullMatch (rule.sourceValue t) with
  | none => t
  | some g => set t rule.targetLabel (rule.expand g)

def labelMap (rule : Rule) (t : Target) : Target :=
  t.entries.foldl (fun acc e =>
    match rule.regex.fullMatch e.1.toList with
    | none => acc
    | some g => set acc (rule.expand g) e.2) t

def apply (rule : Rule) (t : Target) : Option Target :=
  match rule.action with
  | .keep => if (rule.regex.fullMatch (rule.sourceValue t)).isSome then some t else none
  | .drop => if (rule.regex.fullMatch (rule.sourceValue t)).isSome then none else some t
  | .replace => some (rule.replace t)
  | .labelMap => some (rule.labelMap t)

end Rule

def relabel (rules : List Rule) (t : Target) : Option Target :=
  rules.foldlM (fun t rule => rule.apply t) t

def Keeps (rules : List Rule) (t : Target) : Prop := (relabel rules t).isSome = true

variable {rule : Rule} {rules : List Rule} {t : Target} {label v : String}

@[simp] theorem value_set_self (t : Target) (label v : String) :
    value (set t label v) label = v := by
  unfold set value
  by_cases hv : v = ""
  · rw [if_pos hv, AList.lookup_erase, hv]
    rfl
  · rw [if_neg hv, AList.lookup_insert]
    rfl

theorem value_set_of_ne {label' : String} (h : label' ≠ label) :
    value (set t label v) label' = value t label' := by
  unfold set value
  by_cases hv : v = ""
  · rw [if_pos hv, AList.lookup_erase_ne h]
  · rw [if_neg hv, AList.lookup_insert_ne h]

theorem value_replace_of_ne (h : label ≠ rule.targetLabel) :
    value (rule.replace t) label = value t label := by
  unfold Rule.replace
  split
  · rfl
  · exact value_set_of_ne h

theorem replace_of_not_matches (h : ¬ rule.regex.Matches (rule.sourceValue t)) :
    rule.replace t = t := by
  unfold Rule.replace
  rw [(Regex.fullMatch_eq_none_iff _ _).mpr h]

theorem exists_replace_eq (h : rule.regex.Matches (rule.sourceValue t)) :
    ∃ g, rule.regex.fullMatch (rule.sourceValue t) = some g ∧
      rule.replace t = set t rule.targetLabel (rule.expand g) := by
  obtain ⟨g, hg⟩ := Option.isSome_iff_exists.mp ((Regex.isSome_fullMatch_iff _ _).mpr h)
  refine ⟨g, hg, ?_⟩
  unfold Rule.replace
  rw [hg]

theorem value_labelMap_of_ne (h : ∀ g, rule.expand g ≠ label) :
    value (rule.labelMap t) label = value t label := by
  have hfold : ∀ (entries : List (Sigma fun _ : String => String)) (acc : Target),
      value (entries.foldl (fun acc e =>
        match rule.regex.fullMatch e.1.toList with
        | none => acc
        | some g => set acc (rule.expand g) e.2) acc) label = value acc label := by
    intro entries
    induction entries with
    | nil => exact fun acc => rfl
    | cons e rest ih =>
      intro acc
      rw [List.foldl_cons, ih]
      split
      · rfl
      · exact value_set_of_ne (h _).symm
  exact hfold t.entries t

theorem sourceValue_singleton (hrule : rule.sourceLabels = [label]) :
    rule.sourceValue t = (value t label).toList := by
  simp [Rule.sourceValue, hrule]

theorem keeps_nil (t : Target) : Keeps [] t := rfl

theorem keeps_cons_of_apply {t' : Target} (h : rule.apply t = some t') :
    Keeps (rule :: rules) t ↔ Keeps rules t' := by
  unfold Keeps relabel
  rw [List.foldlM_cons, h]
  rfl

theorem not_keeps_cons_of_apply (h : rule.apply t = none) : ¬ Keeps (rule :: rules) t := by
  unfold Keeps relabel
  rw [List.foldlM_cons, h]
  exact Bool.false_ne_true

theorem keeps_cons_keep (hrule : rule.action = .keep) : Keeps (rule :: rules) t ↔
    rule.regex.Matches (rule.sourceValue t) ∧ Keeps rules t := by
  rw [← Regex.isSome_fullMatch_iff]
  by_cases hmatch : (rule.regex.fullMatch (rule.sourceValue t)).isSome
  · have happly : rule.apply t = some t := by simp [Rule.apply, hrule, hmatch]
    rw [keeps_cons_of_apply happly]
    exact ⟨fun h => ⟨hmatch, h⟩, fun h => h.2⟩
  · refine iff_of_false (not_keeps_cons_of_apply ?_) fun h => hmatch h.1
    simp [Rule.apply, hrule, hmatch]

theorem keeps_cons_drop (hrule : rule.action = .drop) : Keeps (rule :: rules) t ↔
    ¬ rule.regex.Matches (rule.sourceValue t) ∧ Keeps rules t := by
  rw [← Regex.isSome_fullMatch_iff]
  by_cases hmatch : (rule.regex.fullMatch (rule.sourceValue t)).isSome
  · refine iff_of_false (not_keeps_cons_of_apply ?_) fun h => h.1 hmatch
    simp [Rule.apply, hrule, hmatch]
  · have happly : rule.apply t = some t := by simp [Rule.apply, hrule, hmatch]
    rw [keeps_cons_of_apply happly]
    exact ⟨fun h => ⟨hmatch, h⟩, fun h => h.2⟩

theorem keeps_cons_replace (hrule : rule.action = .replace) :
    Keeps (rule :: rules) t ↔ Keeps rules (rule.replace t) :=
  keeps_cons_of_apply (by simp [Rule.apply, hrule])

theorem keeps_cons_labelMap (hrule : rule.action = .labelMap) :
    Keeps (rule :: rules) t ↔ Keeps rules (rule.labelMap t) :=
  keeps_cons_of_apply (by simp [Rule.apply, hrule])

theorem keeps_of_replaces (h : ∀ rule ∈ rules, rule.action = .replace) (t : Target) :
    Keeps rules t := by
  induction rules generalizing t with
  | nil => exact keeps_nil t
  | cons rule rest ih =>
    rw [keeps_cons_replace (h rule List.mem_cons_self)]
    apply ih
    intro r hr
    exact h r (List.mem_cons_of_mem _ hr)

end Relabel
