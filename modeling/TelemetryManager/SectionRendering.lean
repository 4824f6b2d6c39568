import TelemetryManager.FluentBitReadback

/-! What the section builder renders. The parser of custom sections reads a rendered section back,
and the two passes over the custom filters of a pipeline render each of them once. -/
namespace TelemetryManager.FluentBitBuilder

open SpecValidators FluentBit

/-- A parameter that is written on a line of its own and read as it was given. -/
structure Readable (p : Parameter) : Prop where
  key_ne : p.key ≠ ""
  key_char : ∀ c ∈ p.key.toList, c.val.toNat < 128 ∧ c.isUpper = false ∧ Text.isSpace c = false
  key_comment : p.key.toList.head? ≠ some '#'
  value_ne : p.value ≠ ""
  value_trimmed : Text.trimSpace p.value = p.value
  value_line : '\n' ∉ p.value.toList

namespace Readable

variable {p : Parameter}

theorem toLower_key (h : Readable p) : Text.toLower p.key = p.key := by
  have hchars : p.key.toList.map Text.toLowerChar = p.key.toList := by
    refine (List.map_congr_left fun c hc => ?_).trans (List.map_id _)
    exact Text.toLowerChar_eq_self (h.key_char c hc).1 (h.key_char c hc).2.1
  rw [Text.toLower, hchars, String.ofList_toList]

theorem trimmed_key (h : Readable p) : Text.Trimmed Text.isSpace p.key.toList :=
  .of_forall fun c hc => (h.key_char c hc).2.2

theorem trimmed_value (h : Readable p) : Text.Trimmed Text.isSpace p.value.toList := by
  have htrimmed := Text.trimmed_trimAux Text.isSpace p.value.toList
  have hvalue := congrArg String.toList h.value_trimmed
  rw [Text.trimSpace, String.toList_ofList] at hvalue
  rwa [hvalue] at htrimmed

theorem notMem_key (h : Readable p) {c : Char} (hc : Text.isSpace c) :
    c ∉ p.key.toList := by
  intro hmem
  rw [(h.key_char c hmem).2.2] at hc
  cases hc

/-- A key, blanks and a value are read as the parameter. -/
theorem parseLine_eq (h : Readable p) {line : String} (pad : Nat) (hline : Text.trimSpace line =
      String.ofList (p.key.toList ++ ' ' :: (List.replicate pad ' ' ++ p.value.toList))) :
    parseLine line = .ok (some p) := by
  have hblank : ∀ c ∈ List.replicate pad ' ', Text.isSpace c := by
    intro c hc
    rw [List.eq_of_mem_replicate hc]
    decide
  have hskip : ¬ (Text.trimSpace line = "" ∨ Text.hasPrefix (Text.trimSpace line) "#") := by
    have hcomment := h.key_comment
    have hne : p.key.toList ≠ [] := by simpa using h.key_ne
    obtain ⟨c, cs, hkey⟩ := List.exists_cons_of_ne_nil hne
    rw [hkey, List.head?_cons, ne_eq, Option.some.injEq] at hcomment
    simp [hline, Text.hasPrefix, hkey, Ne.symm hcomment]
  have hkey : Text.trimSpace (String.ofList p.key.toList) = p.key := by
    rw [Text.trimSpace, String.toList_ofList, h.trimmed_key.trimAux_eq, String.ofList_toList]
  have hvalue : Text.trimSpace (String.ofList (List.replicate pad ' ' ++ p.value.toList)) =
      p.value := by
    rw [Text.trimSpace, String.toList_ofList, Text.trimAux_append_of_forall hblank,
      h.trimmed_value.trimAux_eq, String.ofList_toList]
  have hcut := Text.cut_append (h.notMem_key (c := ' ') (by decide))
    (List.replicate pad ' ' ++ p.value.toList)
  rw [← hline] at hcut
  simp only [parseLine, if_neg hskip, hcut, hkey, hvalue, h.toLower_key]

variable {sb : SectionBuilder}

theorem parseLine_line (h : Readable p) : parseLine (sb.line p) = .ok (some p) := by
  generalize hpad : sb.keyLen - p.key.utf8ByteSize = pad
  have hline : (sb.line p).toList = List.replicate 4 ' ' ++
      (p.key.toList ++ ' ' :: (List.replicate pad ' ' ++ p.value.toList)) := by
    simp [SectionBuilder.line, hpad, List.replicate_succ]
  have hindent : ∀ c ∈ List.replicate 4 ' ', Text.isSpace c := by simp [Text.isSpace]
  have hkey : p.key.toList ≠ [] := by simpa using h.key_ne
  have hvalue : p.value.toList ≠ [] := by simpa using h.value_ne
  -- the line ends with the value
  have hend : (' ' :: (List.replicate pad ' ' ++ p.value.toList)).rdropWhile Text.isSpace =
      ' ' :: (List.replicate pad ' ' ++ p.value.toList) := by
    rw [← List.cons_append, Text.rdropWhile_append, h.trimmed_value.rdropWhile_eq, if_neg hvalue]
  apply h.parseLine_eq pad
  rw [Text.trimSpace, hline, Text.trimAux_append_of_forall hindent,
    h.trimmed_key.trimAux_append hkey, hend]

theorem parseMultiline_line (h : Readable p) : parseMultiline (sb.line p) = [p] := by
  have hkey := h.notMem_key (c := '\n') (by decide)
  have hnewline : '\n' ∉ (sb.line p).toList := by simp [SectionBuilder.line, hkey, h.value_line]
  rw [parseMultiline, Text.split, Text.splitAux_eq_singleton hnewline]
  simp [h.parseLine_line]

end Readable

theorem parseMultiline_append (front back : String) :
    parseMultiline (front ++ "\n" ++ back) = parseMultiline front ++ parseMultiline back := by
  have hlist : (front ++ "\n" ++ back).toList = front.toList ++ '\n' :: back.toList := by simp
  rw [parseMultiline, Text.split, hlist, Text.splitAux_append_sep, List.map_append,
    List.filterMap_append]
  rfl

namespace SectionBuilder

variable {params : ParameterList}

def body (sb : SectionBuilder) : String :=
  String.join ((sortParams sb.params).map fun p => sb.line p ++ "\n") ++ "\n"

theorem parseMultiline_body {sb : SectionBuilder} (h : ∀ p ∈ sb.params, Readable p) :
    parseMultiline sb.body = sortParams sb.params := by
  have hlines : ∀ ps : ParameterList, (∀ p ∈ ps, Readable p) →
      parseMultiline (String.join (ps.map fun p => sb.line p ++ "\n") ++ "\n") = ps := by
    intro ps hps
    induction ps with
    | nil =>
      have hblank : parseMultiline "\n" = [] := by decide
      exact hblank
    | cons p ps ih =>
      obtain ⟨hp, hps⟩ := List.forall_mem_cons.mp hps
      rw [List.map_cons, String.join_cons, String.append_assoc, parseMultiline_append,
        hp.parseMultiline_line, ih hps, List.singleton_append]
  exact hlines _ fun p hp => h p ((sortParams_perm sb.params).mem_iff.mp hp)

theorem keyLen_addParams_le_iff (sb : SectionBuilder) (params : ParameterList) {n : Nat} :
    (sb.addParams params).keyLen ≤ n ↔
      sb.keyLen ≤ n ∧ ∀ p ∈ params, p.key.utf8ByteSize ≤ n := by
  induction params generalizing sb with
  | nil => simp [addParams]
  | cons p params ih =>
    have hlongest : (sb.addConfigParam p.key p.value).keyLen ≤ n ↔
        sb.keyLen ≤ n ∧ p.key.utf8ByteSize ≤ n := by
      simp only [addConfigParam]
      split <;> omega
    rw [List.forall_mem_cons, ← and_assoc, ← hlongest]
    exact ih (sb.addConfigParam p.key p.value)

theorem params_addParams_of_readable (kind : SectionKind) (h : ∀ p ∈ params, Readable p) :
    (addParams { kind := kind } params).params = params := by
  rw [params_addParams, List.nil_append]
  refine (List.map_congr_left fun p hp => ?_).trans (List.map_id params)
  rw [(h p hp).toLower_key]
  rfl

theorem build_addParams_perm (kind : SectionKind) {params' : ParameterList}
    (hperm : params'.Perm params) (h : ∀ p ∈ params, Readable p) :
    (addParams { kind := kind } params').build = (addParams { kind := kind } params).build := by
  have h' : ∀ p ∈ params', Readable p := fun p hp => h p (hperm.mem_iff.mp hp)
  have hsorted : sortParams params' = sortParams params :=
    eq_sortParams ((sortParams_perm params').trans hperm) (sortParams_sorted params')
  have hlen : (addParams { kind := kind } params').keyLen =
      (addParams { kind := kind } params).keyLen := by
    refine eq_of_forall_ge_iff fun n => ?_
    simp only [keyLen_addParams_le_iff, hperm.mem_iff]
  simp only [build, line, kind_addParams, params_addParams_of_readable kind h,
    params_addParams_of_readable kind h', hsorted, hlen]

/-- A section is read back as it was collected, in the order of the rendered text, which does not
depend on the order in which the parameters were added. -/
theorem section_round_trip (kind : SectionKind) (h : ∀ p ∈ params, Readable p) :
    let sb := addParams { kind := kind } params
    sb.build = kind.header ++ "\n" ++ sb.body ∧
      (parseMultiline sb.body).Perm params ∧
      (parseMultiline sb.body).Pairwise (sortKey · ≤ sortKey ·) ∧
      (∀ params' : ParameterList, params'.Perm params →
        (addParams { kind := kind } params').build = sb.build) ∧
      ∀ p ∈ sb.params, 0 ≤ (sb.keyLen : Int) - p.key.utf8ByteSize + 1 := by
  intro sb
  have hparams : sb.params = params := params_addParams_of_readable kind h
  have hparsed : parseMultiline sb.body = sortParams params := by
    rw [parseMultiline_body (hparams.symm ▸ h), hparams]
  refine ⟨?_, ?_, ?_, fun params' hperm => build_addParams_perm kind hperm h, ?_⟩
  · simp only [sb, build, body, kind_addParams, String.append_assoc]
  · rw [hparsed]
    exact sortParams_perm params
  · rw [hparsed]
    refine (sortParams_sorted params).imp fun hless => ?_
    rwa [← Bool.not_eq_true, less_iff, not_lt] at hless
  · intro p hp
    have hlongest := (keyLen_addParams_le_iff { kind := kind } params).mp (le_refl sb.keyLen)
    have hkey := hlongest.2 p (hparams ▸ hp)
    omega

def grepParams : ParameterList := [⟨"regex", "log  error"⟩, ⟨"match", "b.*"⟩, ⟨"name", "grep"⟩]

theorem grepParams_round_trip :
    (parseMultiline (addParams { kind := .filter } grepParams).body).Perm grepParams ∧
      (addParams { kind := .filter } grepParams).build =
        "[FILTER]\n    name  grep\n    match b.*\n    regex log  error\n\n" := by
  have hreadable : ∀ p ∈ grepParams, Readable p := by
    unfold grepParams
    simp only [List.forall_mem_cons]
    refine ⟨?_, ?_, ?_, List.forall_mem_nil _⟩ <;>
      exact ⟨by decide, List.forall_iff_forall_mem.mp (by decide), by decide, by decide, by decide,
        by decide⟩
  exact ⟨(section_round_trip .filter hreadable).2.1, by decide +kernel⟩

end SectionBuilder

section CustomFilters

theorem head?_paramValues (params : ParameterList) (key : String) :
    (paramValues params key).head? = (getByKey params key).map (·.value) := by
  induction params with
  | nil => rfl
  | cons p params ih =>
    by_cases hkey : p.key = key
    · simp [paramValues, getByKey, hkey]
    · simpa [paramValues, getByKey, hkey] using ih

theorem isMultilineFilter_iff (params : ParameterList) :
    isMultilineFilter params ↔ (paramValues params "name").head? = some "multiline" := by
  have hcontains : containsKey params "name" = (getByKey params "name").isSome :=
    List.isSome_find?.symm
  rw [head?_paramValues, isMultilineFilter, hcontains, pluginName]
  cases getByKey params "name" <;> simp

def namesMultiline (filter : FluentBitFilter) : Bool :=
  (paramValues (parseMultiline filter.custom) "name").head? = some "multiline"

theorem ofType_multiline : ofType .multiline = namesMultiline := by
  funext filter
  rw [Bool.eq_iff_iff, namesMultiline, decide_eq_true_iff]
  exact isMultilineFilter_iff _

theorem ofType_nonMultiline : ofType .nonMultiline = (!namesMultiline ·) := by
  rw [← ofType_multiline]
  rfl

theorem createCustomFilters_eq (lp : LogPipeline) :
    createCustomFilters lp .multiline =
        (lp.fluentBitFilters.filter namesMultiline).map (customFilterSection lp) ∧
      createCustomFilters lp .nonMultiline =
        (lp.fluentBitFilters.filter (!namesMultiline ·)).map (customFilterSection lp) := by
  rw [← ofType_nonMultiline, ← ofType_multiline]
  exact ⟨rfl, rfl⟩

/-- What is read of a section are the parameters of the filter and the pattern of the pipeline. -/
structure RendersFilter (lp : LogPipeline) (filter : FluentBitFilter) (r : ReadSection) : Prop where
  header : r.header = "[FILTER]"
  params : r.params.Perm (parseMultiline filter.custom ++ [⟨"match", lp.name ++ ".*"⟩])

variable {lp : LogPipeline}

theorem rendersFilter_readBack (hname : isDNS1123Subdomain lp.name) (filter : FluentBitFilter) :
    RendersFilter lp filter (customFilterSection lp filter).readBack where
  header := by simp [SectionBuilder.readBack, kind_customFilterSection, SectionKind.header]
  params := by
    have hparams : (customFilterSection lp filter).params =
        parseMultiline filter.custom ++ [⟨"match", matchPattern lp.name⟩] := by
      have hkeys : (parseMultiline filter.custom).map (fun p => ⟨Text.toLower p.key, p.value⟩) =
          parseMultiline filter.custom := by
        refine (List.map_congr_left fun p hp => ?_).trans (List.map_id _)
        rw [toLower_key_parseMultiline filter.custom p hp]
        rfl
      rw [customFilterSection, SectionBuilder.params_addConfigParam,
        SectionBuilder.params_addParams, hkeys]
      rfl
    have hinline : ∀ p ∈ (customFilterSection lp filter).params,
        (⟨p.key, inline p.value⟩ : Parameter) = p := by
      intro p hp
      rw [hparams, List.mem_append, List.mem_singleton] at hp
      rcases hp with hp | rfl
      · obtain ⟨-, hline, htrimmed⟩ := parsed_param hp
        rw [inline_eq hline htrimmed]
      · rw [inline_matchPattern hname]
    have hperm := sortParams_perm (customFilterSection lp filter).params
    rw [SectionBuilder.readBack, List.map_congr_left fun p hp => hinline p (hperm.mem_iff.mp hp),
      List.map_id']
    exact hparams ▸ hperm

theorem readSections_joinFilters {sbs : List SectionBuilder} (hkeys : ∀ sb ∈ sbs, sb.KeysOk) :
    readSections (joinFilters sbs) = readAll sbs := by
  rw [readSections, (rendered_joinFilters hkeys).read_eq]
  rfl

theorem filters_rendered (hname : isDNS1123Subdomain lp.name = true)
    (filters : List FluentBitFilter) :
    List.Forall₂ (RendersFilter lp) filters
      (readSections (joinFilters (filters.map (customFilterSection lp)))) := by
  have hkeys : ∀ sb ∈ filters.map (customFilterSection lp), sb.KeysOk :=
    List.forall_mem_map.mpr fun filter _ => keysOk_customFilterSection lp filter
  have hvalues : ∀ sb ∈ filters.map (customFilterSection lp), sb.ValuesOk :=
    List.forall_mem_map.mpr fun filter _ =>
      valuesOk_customFilterSection (notMem_of_isDNS1123Subdomain hname (by decide)) filter
  rw [readSections_joinFilters hkeys, readAll_eq hkeys hvalues, List.map_map,
    List.forall₂_map_right_iff, List.forall₂_same]
  exact fun filter _ => rendersFilter_readBack hname filter

/-- The sections around the two passes do not depend on the custom filters. -/
theorem exists_sections_split (lp : LogPipeline) (cfg : BuilderConfig) (clusterName : String) :
    ∃ front middle back, (sections lp cfg clusterName).map (·.content) =
        front ++ (createCustomFilters lp .multiline ++
          (middle ++ (createCustomFilters lp .nonMultiline ++ back))) ∧
      (sections { lp with fluentBitFilters := [] } cfg clusterName).map (·.content) =
        front ++ (middle ++ back) := by
  refine ⟨[createInputSection lp (createIncludePath lp)
      (createExcludePath lp cfg.collectAgentLogs)],
    [createRecordModifierFilter lp clusterName, createKubernetesFilter lp] ++
      (createTimestampModifyFilter lp).toList,
    (createLuaFilter lp).toList ++ (createOutputSection lp cfg).toList, ?_, ?_⟩
  · simp [sections, Function.comp_def]
  · have hnone : ∀ filterType,
        createCustomFilters { lp with fluentBitFilters := [] } filterType = [] := fun _ => rfl
    simp only [sections, hnone, List.map_nil, List.append_nil, List.map_append, List.map_map,
      Function.comp_def, List.map_id', List.append_assoc]
    rfl

/-- What is read from the texts of the two passes are the custom filters of the pipeline: in one
those that name the multiline plugin, in the other one the rest, both in their order. What is read
from the text of the pipeline are these sections, between those of the pipeline without custom
filters. -/
theorem customFilters_rendered_once (lp : LogPipeline) (cfg : BuilderConfig)
    (clusterName : String) (hname : isDNS1123Subdomain lp.name) :
    let multiline := readSections (joinFilters (createCustomFilters lp .multiline))
    let nonMultiline := readSections (joinFilters (createCustomFilters lp .nonMultiline))
    List.Forall₂ (RendersFilter lp) (lp.fluentBitFilters.filter namesMultiline) multiline ∧
      List.Forall₂ (RendersFilter lp) (lp.fluentBitFilters.filter (!namesMultiline ·))
        nonMultiline ∧
      ∃ front middle back,
        readSections (sectionsText lp cfg clusterName) =
          front ++ multiline ++ middle ++ nonMultiline ++ back ∧
        readSections (sectionsText { lp with fluentBitFilters := [] } cfg clusterName) =
          front ++ middle ++ back := by
  intro multiline nonMultiline
  obtain ⟨hmultiline, hnonMultiline⟩ := createCustomFilters_eq lp
  obtain ⟨front, middle, back, hsections, hempty⟩ := exists_sections_split lp cfg clusterName
  have hkeys := List.forall_mem_map.mpr (keysOk_sections lp clusterName cfg)
  rw [hsections] at hkeys
  obtain ⟨-, hkeys₁⟩ := List.forall_mem_append.mp hkeys
  obtain ⟨hmulti, hkeys₂⟩ := List.forall_mem_append.mp hkeys₁
  obtain ⟨hmiddle, hkeys₃⟩ := List.forall_mem_append.mp hkeys₂
  obtain ⟨hnon, hback⟩ := List.forall_mem_append.mp hkeys₃
  refine ⟨?_, ?_, readAll front, readAll middle, readAll back, ?_, ?_⟩
  · simpa only [multiline, hmultiline] using filters_rendered hname _
  · simpa only [nonMultiline, hnonMultiline] using filters_rendered hname _
  · simp only [multiline, nonMultiline, readSections_joinFilters hmulti,
      readSections_joinFilters hnon, readSections_eq_readAll, hsections, readAll_append _ hkeys₁,
      readAll_append _ hkeys₂, readAll_append _ hkeys₃, readAll_append _ hback, List.append_assoc]
  · rw [readSections_eq_readAll, hempty, List.append_assoc,
      readAll_append _ (List.forall_mem_append.mpr ⟨hmiddle, hback⟩), readAll_append _ hback]

def mergingPipeline : LogPipeline where
  name := "audit"
  fluentBitFilters := [{ custom := "name grep\nregex log error" },
    { custom := "name multiline\nmultiline.parser java" }]
  output := { fluentBitCustom := "name stdout" }

theorem java_filter_rendered :
    List.Forall₂ (RendersFilter mergingPipeline)
      [{ custom := "name multiline\nmultiline.parser java" }]
      (readSections (joinFilters (createCustomFilters mergingPipeline .multiline))) := by
  have hfilters : mergingPipeline.fluentBitFilters.filter namesMultiline =
      [{ custom := "name multiline\nmultiline.parser java" }] := by decide
  exact hfilters ▸ (customFilters_rendered_once mergingPipeline {} "cluster" (by decide)).1

end CustomFilters

end TelemetryManager.FluentBitBuilder
