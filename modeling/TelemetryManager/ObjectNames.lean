import TelemetryManager.Library.Text

/-! Names that Kubernetes accepts for custom resources. -/
namespace TelemetryManager

def isNameChar (c : Char) : Bool := c.isLower || c.isDigit || c = '-'

/-- A DNS label: letters and digits, and dashes inside. -/
def isDNS1123Label (label : List Char) : Bool :=
  label ≠ [] && label.all isNameChar && label.head? ≠ some '-' && label.getLast? ≠ some '-'

/-- A DNS subdomain: labels with dots between them. -/
def isDNS1123Subdomain (name : String) : Bool :=
  (Text.splitAux '.' name.toList).all isDNS1123Label && name.toList.length ≤ 253

theorem isNameChar_of_isDNS1123Subdomain {name : String} (h : isDNS1123Subdomain name) :
    ∀ c ∈ name.toList, c = '.' ∨ isNameChar c := by
  have hlabels : (Text.splitAux '.' name.toList).all isDNS1123Label = true := by
    rw [isDNS1123Subdomain, Bool.and_eq_true] at h
    exact h.1
  generalize name.toList = cs at hlabels
  intro c hc
  by_cases hdot : c = '.'
  · exact .inl hdot
  · obtain ⟨label, hlabel, hmem⟩ := Text.exists_mem_splitAux hc hdot
    have hvalid := List.all_eq_true.mp hlabels label hlabel
    simp only [isDNS1123Label, Bool.and_eq_true] at hvalid
    exact .inr (List.all_eq_true.mp hvalid.1.1.2 c hmem)

theorem val_of_isNameChar {c : Char} (h : isNameChar c) :
    45 ≤ c.val.toNat ∧ c.val.toNat ≤ 122 := by
  rw [isNameChar, Bool.or_eq_true, Bool.or_eq_true, decide_eq_true_iff, Text.isLower_iff] at h
  rcases h with (h | h) | rfl
  · omega
  · rw [Char.isDigit, Bool.and_eq_true, decide_eq_true_iff, decide_eq_true_iff, ge_iff_le,
      UInt32.le_iff_toNat_le, UInt32.le_iff_toNat_le] at h
    have hdigit : 48 ≤ c.val.toNat ∧ c.val.toNat ≤ 57 := h
    omega
  · decide

theorem isSpace_of_isNameChar {c : Char} (h : isNameChar c) : Text.isSpace c = false := by
  have hval := val_of_isNameChar h
  rw [← Bool.not_eq_true]
  intro hspace
  have := Text.val_of_isSpace hspace
  omega

theorem notMem_of_isDNS1123Subdomain {name : String} (h : isDNS1123Subdomain name) {c : Char}
    (hc : (c = '.' || isNameChar c) = false) : c ∉ name.toList := by
  intro hmem
  have hname := isNameChar_of_isDNS1123Subdomain h c hmem
  rw [Bool.or_eq_false_iff, decide_eq_false_iff_not] at hc
  rcases hname with hdot | hchar
  · exact hc.1 hdot
  · exact Bool.false_ne_true (hc.2.symm.trans hchar)

end TelemetryManager
