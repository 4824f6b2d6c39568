import TelemetryManager.FluentBitReadback
import TelemetryManager.Library.Glob

/-! Which records the filters and outputs of a pipeline see.
The input of a pipeline tags its records with the name of the pipeline, a dot and the path of the
file; filters and outputs select records by a pattern on the tag. The dot is also allowed in names,
so the name of one pipeline can begin with the name of another one and a dot. -/
namespace TelemetryManager.FluentBitBuilder

open SpecValidators FluentBit SectionText

def dotted (path : String) : List Char := path.toList.map fun c => if c = '/' then '.' else c

/-- Fluent Bit replaces the `*` of the tag of an input by the path of the file. -/
def expandTag (tag path : String) : List Char :=
  tag.toList.flatMap fun c => if c = '*' then dotted path else [c]

/-- The tags that an input of a configuration gives to the records of a file. -/
def Tagged (text path : String) (tag : List Char) : Prop :=
  ∃ r ∈ readSections text, r.header = "[INPUT]" ∧
    ∃ value ∈ paramValues r.params "tag", tag = expandTag value path

def Selecting (text pattern : String) : Prop :=
  ∃ r ∈ readSections text, r.header ∈ ["[FILTER]", "[OUTPUT]"] ∧
    pattern ∈ paramValues r.params "match"

/-- No record of one configuration is selected by a filter or an output of the other one. -/
def Isolated (source other : String) : Prop :=
  ∀ path tag pattern, Tagged source path tag → Selecting other pattern →
    Glob.accepts pattern.toList tag = false

section Patterns

variable (lp : LogPipeline) (cfg : BuilderConfig) (clusterName : String)

/-- The patterns that the user gives in custom sections; the validator accepts none. -/
def userMatches : List String :=
  (lp.fluentBitFilters.flatMap fun filter => paramValues (parseMultiline filter.custom) "match") ++
    if isCustomOutputDefined lp.output then
      paramValues (parseMultiline lp.output.fluentBitCustom) "match"
    else []

/-- The texts that are inserted as they are have no further lines. -/
structure KeepsLines : Prop where
  limit : '\n' ∉ cfg.fsBufferLimit.toList
  texts : ∀ text ∈ interpolated lp cfg clusterName, OneLine text.toList

variable {lp cfg clusterName}

theorem match_value_iff {value : String} :
    (∃ s ∈ sections lp cfg clusterName,
      s.content.kind ≠ .input ∧ value ∈ s.content.values "match") ↔
      value = matchPattern lp.name ∨ value ∈ userMatches lp := by
  constructor
  · rintro ⟨s, hs, hkind, hvalue⟩
    rcases mem_sections lp cfg clusterName hs with rfl | ⟨filter, hfilter, rfl⟩ |
      ⟨-, -, plugin, hselects⟩ | ⟨sb, hsb, rfl⟩
    · exact absurd (kind_createInputSection lp _ _) hkind
    · rw [values_customFilterSection, if_pos rfl, List.mem_append, List.mem_singleton] at hvalue
      rcases hvalue with hvalue | hvalue
      · exact .inr (List.mem_append_left _ (List.mem_flatMap.mpr ⟨filter, hfilter, hvalue⟩))
      · exact .inl hvalue
    · rw [hselects.pattern, List.mem_singleton] at hvalue
      exact .inl hvalue
    · rcases createOutputSection_cases lp cfg hsb with ⟨hcustom, rfl⟩ | ⟨-, http, -, rfl⟩
      · rw [values_generateCustomOutput _ _ _ (by decide) (by decide), if_pos rfl,
          if_neg (by decide), List.append_nil, List.mem_append, List.mem_singleton] at hvalue
        rcases hvalue with hvalue | hvalue
        · refine .inr (List.mem_append_right _ ?_)
          rwa [if_pos hcustom]
        · exact .inl hvalue
      · rw [(generateHTTPOutput_selects http _ _).pattern, List.mem_singleton] at hvalue
        exact .inl hvalue
  · rintro (rfl | hvalue)
    · refine ⟨⟨.builder, createRecordModifierFilter lp clusterName⟩, by simp [sections], nofun, ?_⟩
      rw [(createRecordModifierFilter_selects lp clusterName).pattern]
      exact List.mem_singleton_self _
    · rcases List.mem_append.mp hvalue with hvalue | hvalue
      · obtain ⟨filter, hfilter, hvalue⟩ := List.mem_flatMap.mp hvalue
        obtain ⟨filterType, hmem⟩ :=
          (mem_createCustomFilters lp).mpr ⟨filter, hfilter, rfl⟩
        refine ⟨⟨.userFilter, customFilterSection lp filter⟩, ?_,
          by simp [kind_customFilterSection], ?_⟩
        · cases filterType <;> simp [sections, hmem]
        · rw [values_customFilterSection]
          exact List.mem_append_left _ hvalue
      · obtain ⟨hcustom, hvalue⟩ := List.mem_ite_nil_right.mp hvalue
        refine ⟨⟨.builder, generateCustomOutput lp.output cfg.fsBufferLimit lp.name⟩, ?_, ?_, ?_⟩
        · simp [sections, createOutputSection, hcustom]
        · rw [kind_createOutputSection lp cfg (by simp [createOutputSection, hcustom])]
          decide
        · rw [values_generateCustomOutput _ _ _ (by decide) (by decide), List.append_assoc]
          exact List.mem_append_left _ hvalue

theorem inline_userMatches {value : String} (h : value ∈ userMatches lp) :
    inline value = value := by
  rcases List.mem_append.mp h with h | h
  · obtain ⟨filter, -, h⟩ := List.mem_flatMap.mp h
    exact inline_parsed h
  · exact inline_parsed (List.mem_ite_nil_right.mp h).2

variable (hname : isDNS1123Subdomain lp.name) (hlines : KeepsLines lp cfg clusterName)

include hname hlines

theorem exists_read_iff {P : ReadSection → Prop} :
    (∃ r ∈ readSections (sectionsText lp cfg clusterName), P r) ↔
      ∃ s ∈ sections lp cfg clusterName, P s.content.readBack := by
  have hnewline : '\n' ∉ lp.name.toList := notMem_of_isDNS1123Subdomain hname (by decide)
  rw [readSections_sectionsText ((valuesOk_sections_iff hlines.limit hnewline).mpr hlines.texts)]
  simp

theorem tagged_iff {path : String} {tag : List Char} :
    Tagged (sectionsText lp cfg clusterName) path tag ↔
      tag = lp.name.toList ++ '.' :: dotted path := by
  have hvalues : ∀ includePath excludePath,
      (createInputSection lp includePath excludePath).values "tag" = [lp.name ++ ".*"] := by
    intro includePath excludePath
    simp (disch := decide) only [createInputSection, SectionBuilder.values_add_ne,
      SectionBuilder.values_add_self, SectionBuilder.values_addIfNotEmpty_ne]
    rfl
  have hread : ∀ includePath excludePath,
      paramValues (createInputSection lp includePath excludePath).readBack.params "tag" =
        [lp.name ++ ".*"] := fun includePath excludePath =>
    (values_readBack_singleton (hvalues includePath excludePath)).trans
      (congrArg (List.cons · []) (inline_matchPattern hname))
  have hexpand : expandTag (lp.name ++ ".*") path = lp.name.toList ++ '.' :: dotted path := by
    have hstar : '*' ∉ lp.name.toList := notMem_of_isDNS1123Subdomain hname (by decide)
    have hchar : ∀ c ∈ lp.name.toList, (if c = '*' then dotted path else [c]) = [c] :=
      fun c hc => if_neg fun h : c = '*' => hstar (h ▸ hc)
    rw [expandTag, String.toList_append, List.flatMap_append, List.flatMap_congr hchar]
    simp
  have hheader : ∀ kind : SectionKind, kind.header = "[INPUT]" → kind = .input := by
    rintro (_ | _ | _) <;> decide
  rw [Tagged, exists_read_iff hname hlines]
  constructor
  · rintro ⟨s, hs, hkind, value, hvalue, rfl⟩
    replace hkind := hheader _ hkind
    rcases mem_sections lp cfg clusterName hs with rfl | ⟨filter, -, rfl⟩ | ⟨-, hfilter, -⟩ |
      ⟨sb, hsb, rfl⟩
    · rw [hread, List.mem_singleton] at hvalue
      rw [hvalue, hexpand]
    · rw [kind_customFilterSection] at hkind
      cases hkind
    · rw [hfilter] at hkind
      cases hkind
    · rw [kind_createOutputSection lp cfg hsb] at hkind
      cases hkind
  · rintro rfl
    refine ⟨⟨.builder, createInputSection lp (createIncludePath lp)
      (createExcludePath lp cfg.collectAgentLogs)⟩, by simp [sections],
      congrArg SectionKind.header (kind_createInputSection lp _ _), lp.name ++ ".*", ?_,
      hexpand.symm⟩
    rw [hread]
    exact List.mem_singleton_self _

theorem selecting_iff {pattern : String} :
    Selecting (sectionsText lp cfg clusterName) pattern ↔
      pattern = matchPattern lp.name ∨ pattern ∈ userMatches lp := by
  have hheader : ∀ kind : SectionKind, kind.header ∈ ["[FILTER]", "[OUTPUT]"] ↔ kind ≠ .input := by
    rintro (_ | _ | _) <;> decide
  have hinline : ∀ value, value = matchPattern lp.name ∨ value ∈ userMatches lp →
      inline value = value := by
    rintro value (rfl | hvalue)
    · exact inline_matchPattern hname
    · exact inline_userMatches hvalue
  rw [Selecting, exists_read_iff hname hlines]
  simp only [mem_values_readBack_iff]
  constructor
  · rintro ⟨s, hs, hkind, value, hvalue, rfl⟩
    have hwritten := match_value_iff.mp ⟨s, hs, (hheader _).mp hkind, hvalue⟩
    rwa [hinline value hwritten]
  · intro hpattern
    obtain ⟨s, hs, hkind, hvalue⟩ := match_value_iff.mpr hpattern
    exact ⟨s, hs, (hheader _).mpr hkind, pattern, hvalue, hinline pattern hpattern⟩

omit hname hlines in
theorem userMatches_of_accepted (h : SpecAccepted lp) : userMatches lp = [] := by
  have hfilters : lp.fluentBitFilters.flatMap
      (fun filter => paramValues (parseMultiline filter.custom) "match") = [] := by
    rw [List.flatMap_eq_nil_iff]
    intro filter hfilter
    rcases validateCustomFilter_ok (h.filters filter hfilter) with hempty | ⟨hmatch, -⟩
    · rw [hempty]
      decide
    · exact hmatch
  rw [userMatches, hfilters, List.nil_append]
  by_cases hcustom : isCustomOutputDefined lp.output
  · rw [if_pos hcustom]
    rcases validateCustomOutput_ok h.output with hempty | ⟨hmatch, -⟩
    · rw [isCustomOutputDefined, hempty] at hcustom
      cases hcustom
    · exact hmatch
  · rw [if_neg hcustom]

end Patterns

def Extends (name start : String) : Prop := start.toList ++ ['.'] <+: name.toList

def isTagChar (c : Char) : Bool := c ≠ '/'

def meetsTags (pattern name : String) : Bool :=
  Glob.meets isTagChar pattern.toList (name.toList ++ ['.'])

structure KeptFrom (source other : LogPipeline) : Prop where
  names : ¬ Extends source.name other.name ∧ ¬ Extends other.name source.name
  userMatches : ∀ pattern ∈ userMatches other, meetsTags pattern source.name = false

/-- Every text without slashes is a path in a tag. -/
theorem exists_dotted_iff {P : List Char → Prop} :
    (∃ path, P (dotted path)) ↔ ∃ rest, (∀ c ∈ rest, isTagChar c) ∧ P rest := by
  constructor
  · rintro ⟨path, hpath⟩
    refine ⟨dotted path, ?_, hpath⟩
    intro c hc
    obtain ⟨d, -, rfl⟩ := List.mem_map.mp hc
    by_cases hd : d = '/' <;> simp [isTagChar, hd]
  · rintro ⟨rest, hrest, hP⟩
    refine ⟨String.ofList rest, ?_⟩
    have hdotted : dotted (String.ofList rest) = rest := by
      have hchar : ∀ c ∈ rest, (if c = '/' then '.' else c) = c := fun c hc =>
        if_neg (by simpa [isTagChar] using hrest c hc)
      rw [dotted, String.toList_ofList, List.map_congr_left hchar, List.map_id']
    rwa [hdotted]

section Names

variable {name other : String}

private theorem tag_start_allowed (h : isDNS1123Subdomain name) :
    ∀ c ∈ name.toList ++ ['.'], isTagChar c := by
  have hslash : '/' ∉ name.toList := notMem_of_isDNS1123Subdomain h (by decide)
  intro c hc
  rcases List.mem_append.mp hc with hc | hc
  · exact decide_eq_true fun hslash' => hslash (hslash' ▸ hc)
  · rw [List.mem_singleton.mp hc]
    rfl

theorem prefix_dot_iff (hne : name ≠ other) :
    other.toList ++ ['.'] <+: name.toList ++ ['.'] ↔ Extends name other := by
  rw [List.prefix_concat_iff, Extends]
  constructor
  · rintro (heq | hpre)
    · exact absurd (String.toList_inj.mp (List.append_cancel_right heq)).symm hne
    · exact hpre
  · exact .inr

theorem meetsTags_matchPattern_iff (hname : isDNS1123Subdomain name)
    (hother : isDNS1123Subdomain other) (hne : name ≠ other) :
    meetsTags (matchPattern other) name ↔ Extends name other ∨ Extends other name := by
  have hstar : '*' ∉ other.toList ++ ['.'] := by
    simp [notMem_of_isDNS1123Subdomain hother (c := '*') (by decide)]
  have hpattern : (matchPattern other).toList = other.toList ++ ['.'] ++ ['*'] := by
    simp [matchPattern]
  rw [meetsTags, hpattern, Glob.meets_literal_star_iff hstar (tag_start_allowed hother)
    (tag_start_allowed hname), prefix_dot_iff hne, prefix_dot_iff hne.symm]

end Names

section Isolation

variable {cfg : BuilderConfig} {clusterName : String} {source other : LogPipeline}

theorem isolated_iff_keptFrom (hsource : isDNS1123Subdomain source.name)
    (hother : isDNS1123Subdomain other.name) (hne : source.name ≠ other.name)
    (hsourceLines : KeepsLines source cfg clusterName)
    (hotherLines : KeepsLines other cfg clusterName) :
    Isolated (sectionsText source cfg clusterName) (sectionsText other cfg clusterName) ↔
      KeptFrom source other := by
  have hselecting := @selecting_iff _ _ _ hother hotherLines
  -- a pattern selects a record if and only if it meets the tags
  have hpatterns :
      Isolated (sectionsText source cfg clusterName) (sectionsText other cfg clusterName) ↔
        ∀ pattern, Selecting (sectionsText other cfg clusterName) pattern →
          meetsTags pattern source.name = false := by
    simp only [Isolated, tagged_iff hsource hsourceLines, ← Bool.not_eq_true, meetsTags,
      Glob.meets_iff (tag_start_allowed hsource), ← exists_dotted_iff, not_exists,
      List.append_assoc, List.singleton_append]
    constructor
    · intro h pattern hpattern path
      exact h path _ pattern rfl hpattern
    · rintro h path tag pattern rfl hpattern
      exact h pattern hpattern path
  rw [hpatterns]
  constructor
  · intro h
    have hown := h _ (hselecting.mpr (.inl rfl))
    rw [← Bool.not_eq_true, meetsTags_matchPattern_iff hsource hother hne, not_or] at hown
    exact ⟨hown, fun pattern hpattern => h pattern (hselecting.mpr (.inr hpattern))⟩
  · rintro ⟨hnames, hmatches⟩ pattern hpattern
    rcases hselecting.mp hpattern with rfl | hpattern
    · rw [← Bool.not_eq_true, meetsTags_matchPattern_iff hsource hother hne, not_or]
      exact hnames
    · exact hmatches pattern hpattern

/-- Accepted pipelines are kept apart by their names alone. -/
theorem keptFrom_of_accepted (haccepted : SpecAccepted other)
    (hnames : ¬ Extends source.name other.name ∧ ¬ Extends other.name source.name) :
    KeptFrom source other :=
  ⟨hnames, by rw [userMatches_of_accepted haccepted]; exact nofun⟩

end Isolation

/-- Accepted pipelines whose inserted texts keep to their lines see only their own records exactly
if neither name is the other one, a dot and more. -/
theorem accepted_isolated_iff (cfg : BuilderConfig) (clusterName : String) (p q : LogPipeline)
    (text text' : String) (hbuild : buildFluentBitSectionsConfig p cfg clusterName = .ok text)
    (hbuild' : buildFluentBitSectionsConfig q cfg clusterName = .ok text')
    (haccepted : SpecAccepted p ∧ SpecAccepted q) (hp : isDNS1123Subdomain p.name)
    (hq : isDNS1123Subdomain q.name) (hne : p.name ≠ q.name)
    (hlines : KeepsLines p cfg clusterName) (hlines' : KeepsLines q cfg clusterName) :
    (Isolated text text' ∧ Isolated text' text) ↔
      ¬ Extends p.name q.name ∧ ¬ Extends q.name p.name := by
  rw [eq_sectionsText hbuild, eq_sectionsText hbuild',
    isolated_iff_keptFrom hp hq hne hlines hlines',
    isolated_iff_keptFrom hq hp hne.symm hlines' hlines]
  constructor
  · intro h
    exact h.1.names
  · intro hnames
    exact ⟨keptFrom_of_accepted haccepted.2 hnames, keptFrom_of_accepted haccepted.1 hnames.symm⟩

def httpPipeline (name : String) : LogPipeline where
  name := name
  output := { fluentBitHTTP := some { host := { value := "logs.example" } } }

def httpText (name : String) : String := sectionsText (httpPipeline name) {} "cluster"

theorem keepsLines_httpPipeline (name : String) : KeepsLines (httpPipeline name) {} "cluster" where
  limit := by decide
  texts := by
    intro text htext
    refine SectionBuilder.oneLine_of_notMem ?_
    have hrest : ∀ text ∈ ["cluster", "", "", "", "", "logs.example", "", ""],
        '\n' ∉ text.toList := by decide
    rcases htext with _ | ⟨_, _ | ⟨_, htext⟩⟩
    · exact (newline_notMem_paths rfl).1
    · exact (newline_notMem_paths rfl).2
    · exact hrest text htext

theorem shop_and_shop2_isolated :
    Isolated (httpText "shop") (httpText "shop2") ∧
      Isolated (httpText "shop2") (httpText "shop") :=
  (accepted_isolated_iff {} "cluster" (httpPipeline "shop") (httpPipeline "shop2") _ _ (by rfl)
    (by rfl) ⟨⟨rfl, nofun, rfl, rfl⟩, ⟨rfl, nofun, rfl, rfl⟩⟩ (by decide) (by decide) (by decide)
    (keepsLines_httpPipeline _) (keepsLines_httpPipeline _)).mpr
      ⟨by simp [Extends, httpPipeline], by simp [Extends, httpPipeline]⟩

end TelemetryManager.FluentBitBuilder
