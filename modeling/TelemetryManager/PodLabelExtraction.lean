import TelemetryManager.Library.RegexText
import TelemetryManager.ProcessorBuilders

/-! Which pod labels the Kubernetes attributes processor extracts: it matches the whole key of a
label against the expressions that are built from the enrichment settings. -/
namespace TelemetryManager.Collector

open RegexText

def isLabelKeyChar (c : Char) : Bool := c.isAlphanum || ['-', '_', '.', '/'].contains c

theorem newline_notMem {cs : List Char} (h : ∀ c ∈ cs, isLabelKeyChar c) : '\n' ∉ cs := by
  intro hmem
  exact absurd (h _ hmem) (by decide)

section Expressions

variable {other : List Char → Option (List Char → Prop)} {cs : List Char} {text : String}

@[simp]
theorem accepts_whole_iff {e : Expr} {w : List Char} :
    (sequence [.textStart, sequence [e], .textEnd]).Accepts w ↔ Matches e [] w [] := by
  simp [Expr.Accepts, matches_sequence_cons_iff]

/-- The frames around the expression: the group of the whole match in the outermost frame. -/
def wholeFrames : List Frame := [{}, ⟨none, [.textStart]⟩]

theorem parse_key (h : ∀ c ∈ cs, isOrdinary c) :
    parse (['^', '(', '?', ':', '(', '^'] ++ (cs ++ ['$', ')', ')', '$'])) =
      .ok (sequence [.textStart,
        sequence [sequence (.textStart :: (cs.map ordinary ++ [.textEnd]))], .textEnd]) := by
  rw [parse_ordinary h (s := ⟨wholeFrames, ⟨none, [.textStart]⟩, .atom⟩) (f := ⟨none, [.textEnd,
    sequence [sequence (.textEnd :: ((cs.map ordinary).reverse ++ [.textStart])).reverse],
    .textStart]⟩) rfl (by decide) (by rintro l (rfl | rfl) <;> rfl)]
  simp [Frame.close, Frame.concat]

theorem parse_keyPrefix (h : ∀ c ∈ cs, isOrdinary c) :
    parse (['^', '(', '?', ':', '('] ++ (cs ++ ['.', '*', ')', ')', '$'])) =
      .ok (sequence [.textStart,
        sequence [sequence (cs.map ordinary ++ [.star dot])], .textEnd]) := by
  rw [parse_ordinary h (s := ⟨wholeFrames, {}, .opened⟩) (f := ⟨none, [.textEnd,
    sequence [sequence (.star dot :: ((cs.map ordinary).reverse ++ [])).reverse], .textStart]⟩)
    rfl (by decide) (by rintro l (rfl | rfl) <;> rfl)]
  simp [Frame.close, Frame.concat]

/-- The dots of a key stand for any character. -/
theorem readWhole_key (h : ∀ c ∈ text.toList, isOrdinary c) :
    ∃ language, readWhole other ("(^" ++ text ++ "$)") = some language ∧
      ∀ w, language w ↔ List.Forall₂ StandsFor text.toList w := by
  have htext : ("^(?:" ++ ("(^" ++ text ++ "$)") ++ ")$").toList =
      ['^', '(', '?', ':', '(', '^'] ++ (text.toList ++ ['$', ')', ')', '$']) := by simp
  refine ⟨_, (congrArg (read other) htext).trans (read_of_parse (parse_key h)), ?_⟩
  intro w
  simp [matches_sequence_cons_iff, matches_sequence_ordinary_iff]

theorem readWhole_keyPrefix (h : ∀ c ∈ text.toList, isOrdinary c) :
    ∃ language, readWhole other ("(" ++ text ++ ".*)") = some language ∧
      ∀ w, language w ↔
        ∃ u v, w = u ++ v ∧ List.Forall₂ StandsFor text.toList u ∧ '\n' ∉ v := by
  have htext : ("^(?:" ++ ("(" ++ text ++ ".*)") ++ ")$").toList =
      ['^', '(', '?', ':', '('] ++ (text.toList ++ ['.', '*', ')', ')', '$']) := by simp
  have hline : ∀ v : List Char, (∀ c ∈ v, c ≠ '\n') ↔ '\n' ∉ v := by
    intro v
    exact ⟨fun h hv => h _ hv rfl, fun h c hc hcn => h (hcn ▸ hc)⟩
  refine ⟨_, (congrArg (read other) htext).trans (read_of_parse (parse_keyPrefix h)), ?_⟩
  intro w
  simp [matches_sequence_ordinary_iff, dot, matches_star_char_iff, hline]

end Expressions

def podLabelRule (label : PodLabel) : ExtractLabel where
  «from» := "pod"
  tagName := "k8s.pod.label.$0"
  keyRegex :=
    if label.keyPrefix ≠ "" then "(" ++ label.keyPrefix ++ ".*)" else "(^" ++ label.key ++ "$)"

theorem mem_extractPodLabels_iff {enrichments : Option EnrichmentSpec} {rule : ExtractLabel} :
    rule ∈ extractPodLabels enrichments ↔
      ∃ spec ∈ enrichments, ∃ label ∈ spec.extractPodLabels, podLabelRule label = rule := by
  cases enrichments with
  | none => simp [extractPodLabels]
  | some spec => simp [extractPodLabels, podLabelRule]

section Extraction

/- What the engine makes of the expressions that are not modelled. -/
variable (other : List Char → Option (List Char → Prop))

def ExtractLabel.Matches (rule : ExtractLabel) (key : String) : Prop :=
  ∃ language, readWhole other rule.keyRegex = some language ∧ language key.toList

/-- A rule with an expression that does not compile keeps the processor from starting. -/
def Starts (rules : List ExtractLabel) : Prop :=
  ∀ rule ∈ rules, (readWhole other rule.keyRegex).isSome

/-- The label is an attribute `k8s.pod.label.<key>`: the reference in the tag name is the whole
match. -/
def Extracted (enrichments : Option EnrichmentSpec) (key : String) : Prop :=
  Starts other (extractPodLabels enrichments) ∧
    ∃ rule ∈ extractPodLabels enrichments, rule.from = "pod" ∧
      rule.tagName = "k8s.pod.label.$0" ∧ rule.Matches other key

/-- The entry has the key, or a prefix of it. -/
def PodLabel.Names (label : PodLabel) (key : String) : Prop :=
  (label.keyPrefix = "" ∧ label.key = key) ∨
    (label.keyPrefix ≠ "" ∧ label.keyPrefix.toList <+: key.toList)

def Named (enrichments : Option EnrichmentSpec) (key : String) : Prop :=
  ∃ spec ∈ enrichments, ∃ label ∈ spec.extractPodLabels, label.Names key

variable {other} {enrichments : Option EnrichmentSpec} {label : PodLabel} {key : String}

theorem extracted_iff : Extracted other enrichments key ↔
    Starts other (extractPodLabels enrichments) ∧
      ∃ spec ∈ enrichments, ∃ label ∈ spec.extractPodLabels,
        (podLabelRule label).Matches other key := by
  simp only [Extracted, mem_extractPodLabels_iff]
  constructor
  · intro h
    obtain ⟨hstarts, -, ⟨spec, hspec, label, hlabel, rfl⟩, -, -, hmatches⟩ := h
    exact ⟨hstarts, spec, hspec, label, hlabel, hmatches⟩
  · intro h
    obtain ⟨hstarts, spec, hspec, label, hlabel, hmatches⟩ := h
    exact ⟨hstarts, _, ⟨spec, hspec, label, hlabel, rfl⟩, rfl, rfl, hmatches⟩

/-- The entry has no character with a meaning of its own in an expression, apart from dots. -/
def PodLabel.IsOrdinary (label : PodLabel) : Prop :=
  ∀ c ∈ label.key.toList ++ label.keyPrefix.toList, isOrdinary c

/-- The key, or its first part, reads like the entry if a dot may stand for any character. -/
def PodLabel.Resembles (label : PodLabel) (key : String) : Prop :=
  (label.keyPrefix = "" ∧ List.Forall₂ StandsFor label.key.toList key.toList) ∨
    (label.keyPrefix ≠ "" ∧
      ∃ u v, key.toList = u ++ v ∧ List.Forall₂ StandsFor label.keyPrefix.toList u)

/-- A dot of the entry stands for another character of the key. -/
def PodLabel.Misreads (label : PodLabel) (key : String) : Prop :=
  label.Resembles key ∧ ¬ label.Names key

theorem PodLabel.Names.resembles (hline : '\n' ∉ key.toList) (h : label.Names key) :
    label.Resembles key := by
  rcases h with ⟨hempty, rfl⟩ | ⟨hne, rest, hfront⟩
  · exact .inl ⟨hempty, forall₂_standsFor_self hline⟩
  · rw [← hfront, List.mem_append, not_or] at hline
    exact .inr ⟨hne, _, rest, hfront.symm, forall₂_standsFor_self hline.1⟩

variable (other) in
/-- The expression of an ordinary entry compiles, and it matches the keys that resemble the
entry. -/
theorem PodLabel.IsOrdinary.readWhole (h : label.IsOrdinary) :
    ∃ language, readWhole other (podLabelRule label).keyRegex = some language ∧
      ∀ key : String, '\n' ∉ key.toList → (language key.toList ↔ label.Resembles key) := by
  by_cases hempty : label.keyPrefix = ""
  · obtain ⟨language, hread, hlanguage⟩ := @readWhole_key other label.key
      fun c hc => h c (List.mem_append_left _ hc)
    refine ⟨language, by simpa [podLabelRule, hempty] using hread, fun key _ => ?_⟩
    simp [hlanguage, PodLabel.Resembles, hempty]
  · obtain ⟨language, hread, hlanguage⟩ := @readWhole_keyPrefix other label.keyPrefix
      fun c hc => h c (List.mem_append_right _ hc)
    refine ⟨language, by simpa [podLabelRule, hempty] using hread, fun key hline => ?_⟩
    rw [hlanguage]
    constructor
    · intro hmatches
      obtain ⟨u, v, hkey, hu, -⟩ := hmatches
      exact .inr ⟨hempty, u, v, hkey, hu⟩
    · intro hresembles
      rcases hresembles with ⟨hcontra, -⟩ | ⟨-, u, v, hkey, hu⟩
      · exact absurd hcontra hempty
      · rw [hkey, List.mem_append, not_or] at hline
        exact ⟨u, v, hkey, hu, hline.2⟩

/-- Ordinary entries extract the labels that resemble one of them. -/
theorem extracted_iff_resembles (hline : '\n' ∉ key.toList)
    (h : ∀ spec ∈ enrichments, ∀ label ∈ spec.extractPodLabels, label.IsOrdinary) :
    Extracted other enrichments key ↔
      ∃ spec ∈ enrichments, ∃ label ∈ spec.extractPodLabels, label.Resembles key := by
  have hmatches : ∀ spec ∈ enrichments, ∀ label ∈ spec.extractPodLabels,
      ((podLabelRule label).Matches other key ↔ label.Resembles key) := by
    intro spec hspec label hlabel
    obtain ⟨language, hread, hlanguage⟩ := (h spec hspec label hlabel).readWhole other
    simp [ExtractLabel.Matches, hread, hlanguage key hline]
  have hstarts : Starts other (extractPodLabels enrichments) := by
    intro rule hrule
    obtain ⟨spec, hspec, label, hlabel, rfl⟩ := mem_extractPodLabels_iff.1 hrule
    obtain ⟨language, hread, -⟩ := (h spec hspec label hlabel).readWhole other
    exact Option.isSome_iff_exists.2 ⟨language, hread⟩
  rw [extracted_iff, and_iff_right hstarts]
  constructor
  · intro hextracted
    obtain ⟨spec, hspec, label, hlabel, hrule⟩ := hextracted
    exact ⟨spec, hspec, label, hlabel, (hmatches spec hspec label hlabel).1 hrule⟩
  · intro hresembles
    obtain ⟨spec, hspec, label, hlabel, hlike⟩ := hresembles
    exact ⟨spec, hspec, label, hlabel, (hmatches spec hspec label hlabel).2 hlike⟩

def nameLabel : EnrichmentSpec where
  extractPodLabels := [{ key := "app.kubernetes.io/name" }, { keyPrefix := "team" }]

/-- Every character of the entry stands for itself only. -/
def PodLabel.IsPlain (label : PodLabel) : Prop :=
  ∀ c ∈ label.key.toList ++ label.keyPrefix.toList, isOrdinary c ∧ c ≠ '.'

theorem PodLabel.IsPlain.not_misreads (h : label.IsPlain) : ¬ label.Misreads key := by
  rintro ⟨hlike, hnames⟩
  rcases hlike with ⟨hempty, hkey⟩ | ⟨hne, u, v, hkey, hu⟩
  · have hdot : '.' ∉ label.key.toList := fun hc => (h _ (List.mem_append_left _ hc)).2 rfl
    rw [forall₂_standsFor_iff hdot] at hkey
    exact hnames (.inl ⟨hempty, String.toList_inj.1 hkey.symm⟩)
  · have hdot : '.' ∉ label.keyPrefix.toList := fun hc => (h _ (List.mem_append_right _ hc)).2 rfl
    rw [forall₂_standsFor_iff hdot] at hu
    exact hnames (.inr ⟨hne, v, by rw [hkey, hu]⟩)

/-- Plain entries extract exactly the labels that they name. -/
theorem extracted_iff_named_of_isPlain (hchars : ∀ c ∈ key.toList, isLabelKeyChar c)
    (h : ∀ spec ∈ enrichments, ∀ label ∈ spec.extractPodLabels, label.IsPlain) :
    Extracted other enrichments key ↔ Named enrichments key := by
  have hline := newline_notMem hchars
  have hordinary : ∀ spec ∈ enrichments, ∀ label ∈ spec.extractPodLabels, label.IsOrdinary :=
    fun spec hspec label hlabel c hc => (h spec hspec label hlabel c hc).1
  rw [extracted_iff_resembles hline hordinary]
  constructor
  · intro hresembles
    obtain ⟨spec, hspec, label, hlabel, hlike⟩ := hresembles
    refine ⟨spec, hspec, label, hlabel, ?_⟩
    by_contra hnames
    exact (h spec hspec label hlabel).not_misreads ⟨hlike, hnames⟩
  · intro hnamed
    obtain ⟨spec, hspec, label, hlabel, hnames⟩ := hnamed
    exact ⟨spec, hspec, label, hlabel, hnames.resembles hline⟩

theorem team_label_extracted :
    Extracted (fun _ => none) (some { extractPodLabels := [{ key := "team" }] }) "team" :=
  (extracted_iff_named_of_isPlain (List.all_eq_true.mp (by decide +kernel)) (by
    rintro _ ⟨⟩ label hlabel c hc
    rw [List.mem_singleton.mp hlabel] at hc
    have hplain : (['t', 'e', 'a', 'm'].all fun c => isOrdinary c && c != '.') = true := by decide
    simpa using List.all_eq_true.mp hplain c (by simpa using hc))).mpr
      ⟨_, rfl, _, List.mem_singleton_self _, .inl ⟨rfl, rfl⟩⟩

end Extraction

end TelemetryManager.Collector
