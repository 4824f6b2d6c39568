import TelemetryManager.FluentBitAcceptance
import TelemetryManager.Library.SectionText
import TelemetryManager.ObjectNames

/-! What Fluent Bit reads from the text that is generated for a pipeline.
The section builder neither escapes nor checks the texts that it inserts, so a line break in one of
them starts a line of the user's own. The validator looks into custom sections, but at the first
`name` only. -/
namespace TelemetryManager.FluentBitBuilder

open SpecValidators FluentBit SectionText SectionBuilder

/-! ## Reading a configuration -/

structure ReadSection where
  header : String
  params : ParameterList

def ReadSection.ofChars (s : List Char × List (List Char × List Char)) : ReadSection :=
  ⟨String.ofList s.1, s.2.map fun p => ⟨String.ofList p.1, String.ofList p.2⟩⟩

def readSections (text : String) : List ReadSection :=
  (SectionText.read text.toList).map .ofChars

def isForbidden (plugin : String) : Bool := forbiddenFilters.any (Text.equalFold plugin)

structure Kept (name : String) (s : Section) (r : ReadSection) : Prop where
  header : r.header = s.content.kind.header
  keys : (r.params.map (·.key)).Perm (s.content.params.map (·.key))
  plugin : s.content.kind ≠ .input → ∃ plugin, paramValues r.params "name" = [plugin]
  pattern : s.content.kind ≠ .input → paramValues r.params "match" = [matchPattern name]
  allowed : s.origin = .userFilter →
    ∀ plugin ∈ paramValues r.params "name", isForbidden plugin = false
  limit : s.content.kind = .output →
    ∃ limit, paramValues r.params "storage.total_limit_size" = [limit]

/-- The sections that are read from a text are those that were written, and all of them are kept. -/
def ReadBack (lp : LogPipeline) (clusterName text : String) : Prop :=
  List.Forall₂ (Kept lp.name) (sections lp {} clusterName) (readSections text)

def httpTexts (lp : LogPipeline) : List String :=
  if isCustomOutputDefined lp.output then []
  else match lp.output.fluentBitHTTP with
    | some http =>
      if isHTTPOutputDefined lp.output then
        [http.uri, http.compress, http.port, http.format, resolveValue http.host lp.name,
         resolveOptional http.password lp.name, resolveOptional http.user lp.name]
      else []
    | none => []

/-- The texts that are inserted without having been parsed. -/
def interpolated (lp : LogPipeline) (cfg : BuilderConfig) (clusterName : String) : List String :=
  [createIncludePath lp, createExcludePath lp cfg.collectAgentLogs, clusterName] ++ httpTexts lp

structure Plain (lp : LogPipeline) (clusterName : String) : Prop where
  filters : ∀ filter ∈ lp.fluentBitFilters,
    ∃ plugin, paramValues (parseMultiline filter.custom) "name" = [plugin]
  output : isCustomOutputDefined lp.output →
    ∃ plugin, paramValues (parseMultiline lp.output.fluentBitCustom) "name" = [plugin]
  texts : ∀ text ∈ interpolated lp {} clusterName, OneLine text.toList

section Custom

variable {content : String} {p : Parameter}

private theorem lower_key {line k v : List Char} (hline : '\n' ∉ line)
    (hcut : Text.trimAux Text.isSpace line = k ++ ' ' :: v) (hspace : ' ' ∉ k)
    (hcomment : (Text.trimAux Text.isSpace line).head? ≠ some '#') :
    isKey ((Text.trimAux Text.isSpace k).map Text.toLowerChar) = true := by
  have htrimmed := Text.trimmed_trimAux Text.isSpace line
  rw [hcut] at htrimmed hcomment
  cases k with
  | nil =>
    have := htrimmed.head ' ' rfl
    exact absurd this (by decide)
  | cons c cs =>
    have hc : Text.isSpace c = false := htrimmed.head c rfl
    have hkey : Text.trimAux Text.isSpace (c :: cs) = c :: cs.rdropWhile Text.isSpace := by
      have hone : Text.Trimmed Text.isSpace [c] := .of_forall (by simpa using hc)
      exact hone.trimAux_append (by simp) cs
    have hpart := Text.trimmed_trimAux Text.isSpace (c :: cs)
    refine isKey_iff.mpr ⟨by simp [hkey], ⟨?_, ?_⟩, ?_, ?_⟩
    · intro d hd
      rw [List.head?_map, Option.mem_def, Option.map_eq_some_iff] at hd
      obtain ⟨e, he, rfl⟩ := hd
      exact Text.isSpace_toLowerChar (hpart.head e he)
    · intro d hd
      rw [List.getLast?_map, Option.mem_def, Option.map_eq_some_iff] at hd
      obtain ⟨e, he, rfl⟩ := hd
      exact Text.isSpace_toLowerChar (hpart.last e he)
    · rw [hkey, List.map_cons, List.head?_cons, ne_eq, Option.some.injEq]
      exact Text.toLowerChar_ne (by decide) (by simpa using hcomment)
    · intro d hd
      obtain ⟨e, he, rfl⟩ := List.mem_map.mp hd
      have hmem : e ∈ c :: cs := Text.mem_of_mem_trimAux he
      have hraw : e ∈ line := Text.mem_of_mem_trimAux (hcut ▸ List.mem_append_left _ hmem)
      refine ⟨Text.toLowerChar_ne (by decide) fun h => hspace (h ▸ hmem),
        Text.toLowerChar_ne (by decide) fun h => hline (h ▸ hraw), ?_⟩
      rcases Text.toLowerChar_cases e with h | h
      · rw [h]
        exact h
      · exact Text.toLowerChar_of_isLower h

/-- The parameters of a custom section are read as they were parsed. -/
theorem parsed_param (h : p ∈ parseMultiline content) :
    isKey p.key.toList ∧ '\n' ∉ p.value.toList ∧
      Text.Trimmed Text.isSpace p.value.toList := by
  obtain ⟨line, hline, hparse⟩ := mem_parseMultiline.mp h
  obtain ⟨key, value, hcut, hskip, rfl⟩ := parseLine_eq_some hparse
  obtain ⟨part, hpart, rfl⟩ := List.mem_map.mp hline
  have hnewline : '\n' ∉ part := Text.notMem_of_mem_splitAux hpart
  obtain ⟨hsplit, hspace⟩ := Text.cut_eq_some hcut
  rw [Text.trimSpace, String.toList_ofList, String.toList_ofList] at hsplit
  have hcomment : (Text.trimAux Text.isSpace part).head? ≠ some '#' := by
    intro hhash
    refine hskip (.inr ?_)
    obtain ⟨cs, hcs⟩ := List.head?_eq_some_iff.mp hhash
    simp [Text.hasPrefix, Text.trimSpace, hcs]
  refine ⟨?_, ?_, ?_⟩
  · rw [Text.toLower, Text.trimSpace, String.toList_ofList, String.toList_ofList]
    exact lower_key hnewline hsplit hspace hcomment
  · intro hmem
    rw [show (Text.trimSpace value).toList = Text.trimAux Text.isSpace value.toList from
      String.toList_ofList] at hmem
    have hvalue : '\n' ∈ Text.trimAux Text.isSpace part := by
      rw [hsplit]
      exact List.mem_append_right _ (List.mem_cons_of_mem _ (Text.mem_of_mem_trimAux hmem))
    exact hnewline (Text.mem_of_mem_trimAux hvalue)
  · rw [show (Text.trimSpace value).toList = Text.trimAux Text.isSpace value.toList from
      String.toList_ofList]
    exact Text.trimmed_trimAux _ _

end Custom

namespace SectionBuilder

variable (sb : SectionBuilder)

def block : Block where
  header := sb.kind.header.toList
  entries := (sortParams sb.params).map fun p =>
    ⟨3, p.key.toList, sb.keyLen - p.key.utf8ByteSize, p.value.toList⟩

theorem toList_build : sb.build.toList = sb.block.text := by
  have hindent : "    ".toList = List.replicate 4 ' ' := by decide
  have hnewline : "\n".toList = ['\n'] := by decide
  simp only [build, block, line, Block.text, Entry.text, Entry.start, String.toList_append,
    String.toList_join, String.toList_ofList, List.flatMap_map, hindent, hnewline,
    List.append_assoc, List.singleton_append]
  rfl

def KeysOk : Prop := ∀ p ∈ sb.params, isKey p.key.toList

def ValuesOk : Prop := ∀ p ∈ sb.params, OneLine p.value.toList

variable {sb}

theorem block_wellFormed (h : sb.KeysOk) : sb.block.WellFormed where
  header := by cases hkind : sb.kind <;> simp [block, hkind, SectionKind.header, isHeader]
  header_line := by cases hkind : sb.kind <;> simp [block, hkind, SectionKind.header]
  keys := by
    intro e he
    obtain ⟨p, hp, rfl⟩ := List.mem_map.mp he
    exact h p ((sortParams_perm sb.params).mem_iff.mp hp)

theorem valuesOk_iff_block : sb.ValuesOk ↔ ∀ e ∈ sb.block.entries, OneLine e.value := by
  simp only [block, List.forall_mem_map, (sortParams_perm sb.params).mem_iff]
  rfl

section Add

variable {key value : String}

theorem keysOk_add (h : isKey (Text.toLower key).toList) :
    (sb.addConfigParam key value).KeysOk ↔ sb.KeysOk := by
  simp [KeysOk, or_imp, forall_and, h]

theorem keysOk_addIf (h : isKey (Text.toLower key).toList) {condition : Bool} :
    (sb.addIf condition key value).KeysOk ↔ sb.KeysOk := by
  cases condition
  · rfl
  · exact keysOk_add h

theorem keysOk_addIfNotEmpty (h : isKey (Text.toLower key).toList) :
    (sb.addIfNotEmpty key value).KeysOk ↔ sb.KeysOk :=
  keysOk_addIf h

theorem valuesOk_add :
    (sb.addConfigParam key value).ValuesOk ↔ sb.ValuesOk ∧ OneLine value.toList := by
  simp [ValuesOk, or_imp, forall_and]

theorem valuesOk_addIf {condition : Bool} :
    (sb.addIf condition key value).ValuesOk ↔
      sb.ValuesOk ∧ (condition → OneLine value.toList) := by
  cases condition
  · simp [addIf]
  · simpa [addIf] using valuesOk_add

theorem keysOk_addParams {content : String} :
    (sb.addParams (parseMultiline content)).KeysOk ↔ sb.KeysOk := by
  have hkeys : ∀ p ∈ parseMultiline content, isKey (Text.toLower p.key).toList := by
    intro p hp
    rw [toLower_key_parseMultiline content p hp]
    exact (parsed_param hp).1
  simp only [KeysOk, params_addParams, List.mem_append, or_imp, forall_and, List.forall_mem_map]
  exact and_iff_left hkeys

theorem oneLine_of_notMem {value : List Char} (h : '\n' ∉ value) : OneLine value := by
  rw [OneLine, furtherLines, Text.splitAux_eq_singleton h]
  nofun

theorem oneLine_append {front back : List Char} (h : '\n' ∉ front) :
    OneLine (front ++ back) ↔ OneLine back := by
  rw [OneLine, furtherLines, Text.splitAux_append_of_notMem h]
  rfl

theorem oneLine_literal (h : '\n' ∉ value.toList) : OneLine value.toList ↔ True :=
  iff_true_intro (oneLine_of_notMem h)

theorem valuesOk_addIfNotEmpty :
    (sb.addIfNotEmpty key value).ValuesOk ↔ sb.ValuesOk ∧ OneLine value.toList := by
  rw [addIfNotEmpty, valuesOk_addIf]
  by_cases hvalue : value = ""
  · have hempty : OneLine "".toList := oneLine_of_notMem (by decide)
    simp only [hvalue, hempty, implies_true]
  · simp [hvalue]

theorem valuesOk_new (kind : SectionKind) : (⟨kind, [], 0⟩ : SectionBuilder).ValuesOk ↔ True :=
  iff_true_intro nofun

theorem valuesOk_addParams {content : String} :
    (sb.addParams (parseMultiline content)).ValuesOk ↔ sb.ValuesOk := by
  simp only [ValuesOk, params_addParams, List.mem_append, or_imp, forall_and, List.forall_mem_map]
  exact and_iff_left fun p hp => oneLine_of_notMem (parsed_param hp).2.1

end Add
end SectionBuilder

section Sections

open SectionBuilder

variable (lp : LogPipeline) (clusterName : String)

theorem keysOk_customFilterSection (filter : FluentBitFilter) :
    (customFilterSection lp filter).KeysOk :=
  (keysOk_add (by decide)).mpr (keysOk_addParams.mpr nofun)

theorem keysOk_sections (cfg : BuilderConfig) :
    ∀ s ∈ sections lp cfg clusterName, s.content.KeysOk := by
  have hnew : ∀ kind, (⟨kind, [], 0⟩ : SectionBuilder).KeysOk := fun kind => nofun
  have houtput : ∀ sb ∈ createOutputSection lp cfg, sb.KeysOk := by
    intro sb hsb
    rcases createOutputSection_cases lp cfg hsb with ⟨-, rfl⟩ | ⟨-, http, -, rfl⟩
    · simp (disch := decide +kernel) only [generateCustomOutput, keysOk_add, keysOk_addIf,
        keysOk_addParams]
      exact hnew .output
    · simp (disch := decide +kernel) only [generateHTTPOutput, keysOk_add, keysOk_addIf,
        keysOk_addIfNotEmpty, addIfNotEmptyOrDefault_eq]
      exact hnew .output
  rw [forall_sections_iff]
  refine ⟨?_, fun filter _ => keysOk_customFilterSection lp filter, ?_, ?_, fun sb hsb => ?_,
    fun sb hsb => ?_, houtput⟩
  · simp (disch := decide +kernel) only [createInputSection, keysOk_add, keysOk_addIfNotEmpty]
    exact hnew .input
  · simp (disch := decide +kernel) only [createRecordModifierFilter, keysOk_add]
    exact hnew .filter
  · simp (disch := decide +kernel) only [createKubernetesFilter, keysOk_add]
    exact hnew .filter
  all_goals
    obtain ⟨-, hkind⟩ := Option.ite_none_right_eq_some.mp hsb
    cases hkind
    simp (disch := decide +kernel) only [keysOk_add]
    exact hnew .filter

section Values

variable {lp clusterName}

theorem oneLine_matchPattern {name : String} (hname : '\n' ∉ name.toList) :
    OneLine (matchPattern name).toList :=
  oneLine_of_notMem (by simp [matchPattern, hname])

section Named

variable (hname : '\n' ∉ lp.name.toList)

include hname

theorem valuesOk_createInputSection {includePath excludePath : String} :
    (createInputSection lp includePath excludePath).ValuesOk ↔
      OneLine includePath.toList ∧ OneLine excludePath.toList := by
  have hself : OneLine lp.name.toList := oneLine_of_notMem hname
  have htag : OneLine (lp.name ++ ".*").toList := oneLine_matchPattern hname
  have hdb : OneLine ("/data/flb_" ++ lp.name ++ ".db").toList :=
    oneLine_of_notMem (by simp [hname])
  simp (disch := decide) only [createInputSection, newInputSectionBuilder, valuesOk_add,
    valuesOk_addIfNotEmpty, valuesOk_new, oneLine_literal, hself, htag, hdb, and_true, true_and]

theorem valuesOk_createRecordModifierFilter :
    (createRecordModifierFilter lp clusterName).ValuesOk ↔ OneLine clusterName.toList := by
  simp (disch := decide) only [createRecordModifierFilter, newFilterSectionBuilder, valuesOk_add,
    valuesOk_new, oneLine_literal, oneLine_matchPattern hname, and_true, true_and]
  rw [String.toList_append]
  exact oneLine_append (by decide)

theorem valuesOk_createKubernetesFilter : (createKubernetesFilter lp).ValuesOk := by
  have hpre : OneLine (lp.name ++ ".var.log.pods.").toList :=
    oneLine_of_notMem (by simp [hname])
  have hswitch : ∀ b, OneLine (fluentBitBool b).toList := fun b =>
    oneLine_of_notMem (by cases b <;> decide)
  simp (disch := decide) only [createKubernetesFilter, newFilterSectionBuilder, valuesOk_add,
    valuesOk_new, oneLine_literal, oneLine_matchPattern hname, hpre, hswitch, and_true]

theorem valuesOk_createTimestampModifyFilter {sb : SectionBuilder}
    (hsb : sb ∈ createTimestampModifyFilter lp) : sb.ValuesOk := by
  obtain ⟨-, hkind⟩ := Option.ite_none_right_eq_some.mp hsb
  cases hkind
  simp (disch := decide) only [newFilterSectionBuilder, valuesOk_add, valuesOk_new,
    oneLine_literal, oneLine_matchPattern hname, and_true]

theorem valuesOk_createLuaFilter {sb : SectionBuilder} (hsb : sb ∈ createLuaFilter lp) :
    sb.ValuesOk := by
  obtain ⟨-, hkind⟩ := Option.ite_none_right_eq_some.mp hsb
  cases hkind
  have hcall : ∀ b : Bool, OneLine
      (if b then "dedot_and_enrich_app_name" else "enrich_app_name").toList := fun b =>
    oneLine_of_notMem (by cases b <;> decide)
  simp (disch := decide) only [newFilterSectionBuilder, valuesOk_add, valuesOk_new,
    oneLine_literal, oneLine_matchPattern hname, hcall, and_true]

theorem valuesOk_customFilterSection (filter : FluentBitFilter) :
    (customFilterSection lp filter).ValuesOk := by
  simp [customFilterSection, newFilterSectionBuilder, valuesOk_add, valuesOk_addParams,
    valuesOk_new, oneLine_matchPattern hname]

end Named

theorem valuesOk_generateCustomOutput {limit name : String} (hlimit : '\n' ∉ limit.toList)
    (hname : '\n' ∉ name.toList) (output : LogPipelineOutput) :
    (generateCustomOutput output limit name).ValuesOk := by
  have hself : OneLine name.toList := oneLine_of_notMem hname
  have hlimit : OneLine limit.toList := oneLine_of_notMem hlimit
  have hretry : OneLine retryLimit.toList := oneLine_of_notMem (by decide)
  simp (disch := decide) only [generateCustomOutput, newOutputSectionBuilder, valuesOk_add,
    valuesOk_addIf, valuesOk_addParams, valuesOk_new, oneLine_matchPattern hname, hself, hlimit,
    hretry, implies_true, and_true]

theorem resolveOptional_of_invalid {value : Option ValueType} (name : String)
    (h : SharedTypes.isValid value = false) : resolveOptional value name = "" := by
  cases value with
  | none => rfl
  | some value =>
    have hvalue : value.value = "" := by
      by_contra hne
      simp [SharedTypes.isValid, hne] at h
    simp only [resolveOptional, Option.map_some, Option.getD_some, resolveValue, hvalue, ne_eq,
      not_true_eq_false, if_false, h, Bool.false_eq_true]
    split <;> rfl

theorem oneLine_if_valid {value : Option ValueType} {name : String} :
    (SharedTypes.isValid value → OneLine (resolveOptional value name).toList) ↔
      OneLine (resolveOptional value name).toList := by
  cases hvalid : SharedTypes.isValid value with
  | true => simp
  | false =>
    rw [resolveOptional_of_invalid name hvalid]
    simp [oneLine_of_notMem]

theorem valuesOk_generateHTTPOutput {limit name : String} (hlimit : '\n' ∉ limit.toList)
    (hname : '\n' ∉ name.toList) (http : FluentBitHTTPOutput) :
    (generateHTTPOutput http limit name).ValuesOk ↔
      ∀ text ∈ [http.uri, http.compress, http.port, http.format, resolveValue http.host name,
        resolveOptional http.password name, resolveOptional http.user name],
        OneLine text.toList := by
  have hself : OneLine name.toList := oneLine_of_notMem hname
  have hlimit : OneLine limit.toList := oneLine_of_notMem hlimit
  have hretry : OneLine retryLimit.toList := oneLine_of_notMem (by decide)
  have hswitch : ∀ b : Bool, OneLine (if b then "off" else "on").toList := fun b =>
    oneLine_of_notMem (by cases b <;> decide)
  have hfile : ∀ suffix : String, '\n' ∉ suffix.toList →
      OneLine ("/fluent-bit/etc/output-tls-config/" ++ name ++ suffix).toList :=
    fun suffix hsuffix => oneLine_of_notMem (by simp [hname, hsuffix])
  have hdefault : ∀ text default : String, '\n' ∉ default.toList →
      (OneLine (if text = "" then default else text).toList ↔ OneLine text.toList) := by
    intro text default hline
    by_cases htext : text = ""
    · rw [if_pos htext, htext]
      exact iff_of_true (oneLine_of_notMem hline) (oneLine_of_notMem (by decide))
    · rw [if_neg htext]
  have hhost : (SharedTypes.isValid (some http.host) →
      OneLine (resolveValue http.host name).toList) ↔
      OneLine (resolveValue http.host name).toList := @oneLine_if_valid (some http.host) name
  simp (disch := decide) only [generateHTTPOutput, newOutputSectionBuilder, valuesOk_add,
    valuesOk_addIf, valuesOk_addIfNotEmpty, addIfNotEmptyOrDefault_eq, valuesOk_new,
    oneLine_literal, oneLine_matchPattern hname, hself, hlimit, hretry, hswitch, hfile, hdefault,
    hhost, oneLine_if_valid, implies_true, and_true, true_and, List.forall_mem_cons,
    List.not_mem_nil, false_implies, and_assoc]

theorem valuesOk_sections_iff {cfg : BuilderConfig} (hlimit : '\n' ∉ cfg.fsBufferLimit.toList)
    (hname : '\n' ∉ lp.name.toList) :
    (∀ s ∈ sections lp cfg clusterName, s.content.ValuesOk) ↔
      ∀ text ∈ interpolated lp cfg clusterName, OneLine text.toList := by
  have houtput : (∀ sb ∈ createOutputSection lp cfg, sb.ValuesOk) ↔
      ∀ text ∈ httpTexts lp, OneLine text.toList := by
    unfold createOutputSection httpTexts
    by_cases hcustom : isCustomOutputDefined lp.output
    · simp [hcustom, valuesOk_generateCustomOutput hlimit hname]
    · rw [if_neg hcustom, if_neg hcustom]
      cases lp.output.fluentBitHTTP with
      | none => simp
      | some http =>
        by_cases hhttp : isHTTPOutputDefined lp.output
        · simp only [if_pos hhttp, Option.mem_def, Option.some.injEq, forall_eq',
            valuesOk_generateHTTPOutput hlimit hname]
        · simp [hhttp]
  simp only [forall_sections_iff, valuesOk_createInputSection hname,
    valuesOk_createRecordModifierFilter hname, houtput, interpolated, List.forall_mem_append,
    List.forall_mem_cons, List.not_mem_nil, false_implies, implies_true, and_true]
  constructor
  · rintro ⟨⟨hinclude, hexclude⟩, -, hcluster, -, -, -, htexts⟩
    exact ⟨⟨hinclude, hexclude, hcluster⟩, htexts⟩
  · rintro ⟨⟨hinclude, hexclude, hcluster⟩, htexts⟩
    exact ⟨⟨hinclude, hexclude⟩, fun filter _ => valuesOk_customFilterSection hname filter,
      hcluster, valuesOk_createKubernetesFilter hname,
      fun _ hsb => valuesOk_createTimestampModifyFilter hname hsb,
      fun _ hsb => valuesOk_createLuaFilter hname hsb, htexts⟩

end Values

/-! ## The text of a pipeline -/

theorem rendered_build {sb : SectionBuilder} (h : sb.KeysOk) :
    Rendered sb.build.toList [sb.block] := by
  rw [toList_build]
  exact Rendered.block (block_wellFormed h)

theorem rendered_joinFilters {filters : List SectionBuilder} (h : ∀ sb ∈ filters, sb.KeysOk) :
    Rendered (joinFilters filters).toList (filters.map (·.block)) := by
  unfold joinFilters
  induction filters with
  | nil => exact Rendered.nil
  | cons sb filters ih =>
    have hfirst := rendered_build (h sb List.mem_cons_self)
    have hrest := ih fun sb' hsb' => h sb' (List.mem_cons_of_mem sb hsb')
    cases filters with
    | nil => simpa using hfirst
    | cons sb' filters =>
      have hjoin := hfirst.append hrest.newline_append
      simpa [String.intercalate_cons_cons, String.toList_append] using hjoin

theorem rendered_buildOptional {part : Option SectionBuilder} (h : ∀ sb ∈ part, sb.KeysOk) :
    Rendered (buildOptional part).toList (part.toList.map (·.block)) := by
  cases part with
  | none => exact Rendered.nil
  | some sb => exact rendered_build (h sb rfl)

theorem rendered_sectionsText (cfg : BuilderConfig) :
    Rendered (sectionsText lp cfg clusterName).toList
      ((sections lp cfg clusterName).map (·.content.block)) := by
  have hkeys := keysOk_sections lp clusterName cfg
  have hfilters : ∀ filterType, ∀ sb ∈ createCustomFilters lp filterType, sb.KeysOk := by
    intro filterType sb hsb
    refine hkeys ⟨.userFilter, sb⟩ ?_
    cases filterType <;> simp [sections, hsb]
  obtain ⟨hinput, -, hrecord, hkubernetes, htimestamp, hlua, houtput⟩ :=
    (forall_sections_iff lp cfg clusterName).mp hkeys
  have htext := (((((((rendered_build hinput).append
    (rendered_joinFilters (hfilters .multiline))).append
    (rendered_build hrecord)).append (rendered_build hkubernetes)).append
    (rendered_buildOptional htimestamp)).append
    (rendered_joinFilters (hfilters .nonMultiline))).append (rendered_buildOptional hlua)).append
    (rendered_buildOptional houtput)
  simpa [sectionsText, sections, String.toList_append, Function.comp_def] using htext

end Sections

/-! ## Reading it back -/

def inline (value : String) : String :=
  String.ofList (Text.trimAux Text.isSpace (firstLine value.toList))

theorem inline_eq {value : String} (hline : '\n' ∉ value.toList)
    (htrimmed : Text.Trimmed Text.isSpace value.toList) : inline value = value := by
  have hfirst : firstLine value.toList = value.toList := by
    rw [firstLine, Text.splitAux_eq_singleton hline]
    rfl
  rw [inline, hfirst, htrimmed.trimAux_eq, String.ofList_toList]

theorem inline_parsed {content k value : String}
    (h : value ∈ paramValues (parseMultiline content) k) : inline value = value := by
  obtain ⟨p, hp, hvalue⟩ := List.mem_filterMap.mp h
  obtain ⟨-, hvalue⟩ := Option.ite_none_right_eq_some.mp hvalue
  cases hvalue
  obtain ⟨-, hline, htrimmed⟩ := parsed_param hp
  exact inline_eq hline htrimmed

theorem inline_matchPattern {name : String} (hname : isDNS1123Subdomain name) :
    inline (matchPattern name) = matchPattern name := by
  refine inline_eq ?_ (.of_forall ?_)
  · have hnewline : '\n' ∉ name.toList := notMem_of_isDNS1123Subdomain hname (by decide)
    simp [matchPattern, hnewline]
  · intro c hc
    rw [matchPattern, String.toList_append, List.mem_append] at hc
    rcases hc with hc | hc
    · rcases isNameChar_of_isDNS1123Subdomain hname c hc with rfl | hchar
      · decide
      · exact isSpace_of_isNameChar hchar
    · have hpattern : ∀ d ∈ ".*".toList, Text.isSpace d = false :=
        List.forall_iff_forall_mem.mp (by decide)
      exact hpattern c hc

def SectionBuilder.readBack (sb : SectionBuilder) : ReadSection where
  header := sb.kind.header
  params := (sortParams sb.params).map fun p => ⟨p.key, inline p.value⟩

section ReadingBack

variable {sb : SectionBuilder} {k : String}

theorem values_readBack_perm (sb : SectionBuilder) (k : String) :
    (paramValues sb.readBack.params k).Perm ((sb.values k).map inline) := by
  have hmap : paramValues sb.readBack.params k =
    (paramValues (sortParams sb.params) k).map inline := by
    simp only [paramValues, readBack, List.filterMap_map, List.map_filterMap]
    refine List.filterMap_congr fun p _ => ?_
    by_cases hp : p.key = k <;> simp [hp]
  rw [hmap]
  exact ((sortParams_perm sb.params).filterMap _).map inline

theorem values_readBack_singleton {value : String} (h : sb.values k = [value]) :
    paramValues sb.readBack.params k = [inline value] := by
  have hperm := values_readBack_perm sb k
  rw [h] at hperm
  exact List.perm_singleton.mp hperm

theorem mem_values_readBack_iff {value : String} :
    value ∈ paramValues sb.readBack.params k ↔ ∃ raw ∈ sb.values k, inline raw = value := by
  rw [(values_readBack_perm sb k).mem_iff, List.mem_map]

theorem exists_values_of_readBack (h : ∃ value, paramValues sb.readBack.params k = [value]) :
    ∃ value, sb.values k = [value] := by
  obtain ⟨value, hvalue⟩ := h
  have hlength := (values_readBack_perm sb k).length_eq
  rw [hvalue, List.length_map] at hlength
  exact List.length_eq_one_iff.mp hlength.symm

end ReadingBack

section SectionsText

variable {lp : LogPipeline} {cfg : BuilderConfig} {clusterName : String}

/-- What is read of sections that stand one behind the other. -/
def readAll (sbs : List SectionBuilder) : List ReadSection :=
  (readBlocks (sbs.map (·.block))).map .ofChars

theorem readAll_append (sbs : List SectionBuilder) {sbs' : List SectionBuilder}
    (hkeys : ∀ sb ∈ sbs', sb.KeysOk) : readAll (sbs ++ sbs') = readAll sbs ++ readAll sbs' := by
  rw [readAll, List.map_append, readBlocks_append, List.map_append]
  · rfl
  · exact List.forall_mem_map.mpr fun sb hsb => sb.block_wellFormed (hkeys sb hsb)

/-- Sections whose values keep to their lines are read as they were collected. -/
theorem readAll_eq {sbs : List SectionBuilder} (hkeys : ∀ sb ∈ sbs, sb.KeysOk)
    (hvalues : ∀ sb ∈ sbs, sb.ValuesOk) : readAll sbs = sbs.map (·.readBack) := by
  rw [readAll, readBlocks_eq
    (List.forall_mem_map.mpr fun sb hsb => sb.block_wellFormed (hkeys sb hsb))
    (List.forall_mem_map.mpr fun sb hsb => valuesOk_iff_block.mp (hvalues sb hsb)),
    List.map_map, List.map_map]
  refine List.map_congr_left fun sb _ => ?_
  simp [ReadSection.ofChars, block, readBack, Entry.readBack, inline]

theorem readSections_eq_readAll : readSections (sectionsText lp cfg clusterName) =
    readAll ((sections lp cfg clusterName).map (·.content)) := by
  rw [readSections, (rendered_sectionsText lp clusterName cfg).read_eq, readAll, List.map_map]
  rfl

theorem readSections_sectionsText
    (hvalues : ∀ s ∈ sections lp cfg clusterName, s.content.ValuesOk) :
    readSections (sectionsText lp cfg clusterName) =
      (sections lp cfg clusterName).map (·.content.readBack) := by
  rw [readSections_eq_readAll,
    readAll_eq (List.forall_mem_map.mpr (keysOk_sections lp clusterName cfg))
      (List.forall_mem_map.mpr hvalues), List.map_map]
  rfl

theorem blocks_wellFormed :
    ∀ b ∈ (sections lp {} clusterName).map (·.content.block), b.WellFormed :=
  List.forall_mem_map.mpr fun s hs =>
    block_wellFormed (keysOk_sections lp clusterName {} s hs)

/-- If no parameter is added, the inserted texts keep to their lines. -/
theorem ReadBack.valuesOk (h : ReadBack lp clusterName (sectionsText lp {} clusterName)) :
    ∀ s ∈ sections lp {} clusterName, s.content.ValuesOk := by
  rw [ReadBack, readSections, (rendered_sectionsText lp clusterName {}).read_eq,
    List.forall₂_map_right_iff] at h
  have hlengths : List.Forall₂ (fun b r => r.2.length = b.entries.length)
      ((sections lp {} clusterName).map (·.content.block))
      (readBlocks ((sections lp {} clusterName).map (·.content.block))) := by
    rw [List.forall₂_map_left_iff]
    refine h.imp fun s r hkept => ?_
    have hperm := hkept.keys.length_eq
    simpa [ReadSection.ofChars, block,
      (sortParams_perm s.content.params).length_eq] using hperm
  intro s hs
  exact valuesOk_iff_block.mpr
    ((forall₂_length_iff blocks_wellFormed).mp hlengths _ (List.mem_map_of_mem hs))

end SectionsText

section Kept

variable {name : String}

theorem kept_readBack (hname : isDNS1123Subdomain name) {s : Section} {plugin : String}
    (hselects : Selects name plugin s.content)
    (hallowed : s.origin = .userFilter → isForbidden (inline plugin) = false)
    (hlimit : s.content.kind = .output →
      ∃ limit, s.content.values "storage.total_limit_size" = [limit]) :
    Kept name s s.content.readBack where
  header := rfl
  keys := by
    simp only [readBack, List.map_map]
    exact (sortParams_perm s.content.params).map _
  plugin := fun _ => ⟨_, values_readBack_singleton hselects.plugin⟩
  pattern := fun _ => by
    rw [values_readBack_singleton hselects.pattern, inline_matchPattern hname]
  allowed := by
    intro horigin plugin' hplugin'
    rw [values_readBack_singleton hselects.plugin, List.mem_singleton] at hplugin'
    rw [hplugin']
    exact hallowed horigin
  limit := by
    intro hkind
    obtain ⟨limit, hvalue⟩ := hlimit hkind
    exact ⟨_, values_readBack_singleton hvalue⟩

theorem kept_input {s : Section} (hkind : s.content.kind = .input) (horigin : s.origin = .builder) :
    Kept name s s.content.readBack where
  header := rfl
  keys := by
    simp only [readBack, List.map_map]
    exact (sortParams_perm s.content.params).map _
  plugin := fun h => absurd hkind h
  pattern := fun h => absurd hkind h
  allowed := fun h => by
    rw [horigin] at h
    cases h
  limit := fun h => by
    rw [hkind] at h
    cases h

variable {lp : LogPipeline} (hname : isDNS1123Subdomain lp.name)
include hname

theorem kept_customFilter_iff {filter : FluentBitFilter}
    (haccepted : validateCustomFilter filter.custom = .ok ()) :
    Kept lp.name ⟨.userFilter, customFilterSection lp filter⟩
        (customFilterSection lp filter).readBack ↔
      ∃ plugin, paramValues (parseMultiline filter.custom) "name" = [plugin] := by
  have hvalues : (customFilterSection lp filter).values "name" =
      paramValues (parseMultiline filter.custom) "name" := by
    rw [values_customFilterSection, if_neg (by decide), List.append_nil]
  constructor
  · intro h
    have hplugin := h.plugin (by rw [kind_customFilterSection]; decide)
    rw [← hvalues]
    exact exists_values_of_readBack hplugin
  · rintro ⟨plugin, hplugin⟩
    rcases validateCustomFilter_ok haccepted with hempty | ⟨hmatch, hforbidden⟩
    · have hnone : paramValues (parseMultiline "") "name" = [] := by decide
      rw [hempty, hnone] at hplugin
      cases hplugin
    · have hselects : Selects lp.name plugin (customFilterSection lp filter) := by
        refine ⟨by rw [hvalues, hplugin], ?_⟩
        rw [values_customFilterSection, hmatch, if_pos rfl]
        rfl
      refine kept_readBack hname hselects ?_ ?_
      · intro _
        have hmem : plugin ∈ paramValues (parseMultiline filter.custom) "name" := by simp [hplugin]
        rw [inline_parsed hmem, isForbidden, ← pluginName_of_values hplugin]
        exact hforbidden
      · intro hkind
        rw [kind_customFilterSection] at hkind
        cases hkind

theorem kept_customOutput_iff (haccepted : validateCustomOutput lp.output.fluentBitCustom = .ok ())
    (hcustom : isCustomOutputDefined lp.output) :
    Kept lp.name ⟨.builder, generateCustomOutput lp.output "1G" lp.name⟩
        (generateCustomOutput lp.output "1G" lp.name).readBack ↔
      ∃ plugin, paramValues (parseMultiline lp.output.fluentBitCustom) "name" = [plugin] := by
  have hvalues : (generateCustomOutput lp.output "1G" lp.name).values "name" =
      paramValues (parseMultiline lp.output.fluentBitCustom) "name" := by
    rw [values_generateCustomOutput _ _ _ (by decide) (by decide), if_neg (by decide),
      if_neg (by decide), List.append_nil, List.append_nil]
  have hkind : (generateCustomOutput lp.output "1G" lp.name).kind = .output :=
    kind_createOutputSection lp {} (by simp [createOutputSection, hcustom])
  constructor
  · intro h
    rw [← hvalues]
    exact exists_values_of_readBack (h.plugin (by rw [hkind]; decide))
  · rintro ⟨plugin, hplugin⟩
    rcases validateCustomOutput_ok haccepted with hempty | ⟨hmatch, hlimit⟩
    · rw [isCustomOutputDefined, hempty] at hcustom
      cases hcustom
    · have hselects : Selects lp.name plugin (generateCustomOutput lp.output "1G" lp.name) := by
        refine ⟨by rw [hvalues, hplugin], ?_⟩
        rw [values_generateCustomOutput _ _ _ (by decide) (by decide), hmatch, if_pos rfl,
          if_neg (by decide)]
        rfl
      refine kept_readBack hname hselects nofun fun _ => ⟨"1G", ?_⟩
      rw [values_generateCustomOutput _ _ _ (by decide) (by decide), hlimit, if_neg (by decide),
        if_pos rfl]
      rfl

theorem kept_httpOutput (http : FluentBitHTTPOutput) :
    Kept lp.name ⟨.builder, generateHTTPOutput http "1G" lp.name⟩
      (generateHTTPOutput http "1G" lp.name).readBack := by
  refine kept_readBack hname (generateHTTPOutput_selects http "1G" lp.name) nofun fun _ =>
    ⟨"1G", ?_⟩
  simp (disch := decide) only [generateHTTPOutput, values_add_ne,
    addIfNotEmptyOrDefault_eq, values_addIf_ne,
    values_addIfNotEmpty_ne, values_add_self]
  rfl

theorem kept_sections_iff (haccepted : SpecAccepted lp) (clusterName : String) :
    (∀ s ∈ sections lp {} clusterName, Kept lp.name s s.content.readBack) ↔
      (∀ filter ∈ lp.fluentBitFilters,
        ∃ plugin, paramValues (parseMultiline filter.custom) "name" = [plugin]) ∧
      (isCustomOutputDefined lp.output →
        ∃ plugin, paramValues (parseMultiline lp.output.fluentBitCustom) "name" = [plugin]) := by
  rw [forall_sections_iff]
  constructor
  · rintro ⟨-, hfilters, -, -, -, -, houtput⟩
    refine ⟨fun filter hfilter => ?_, fun hcustom => ?_⟩
    · exact (kept_customFilter_iff hname (haccepted.filters filter hfilter)).mp
        (hfilters filter hfilter)
    · exact (kept_customOutput_iff hname haccepted.output hcustom).mp
        (houtput _ (by simp [createOutputSection, hcustom]))
  · rintro ⟨hfilters, houtput⟩
    refine ⟨kept_input (kind_createInputSection lp _ _) rfl, fun filter hfilter => ?_,
      kept_readBack hname (createRecordModifierFilter_selects lp clusterName) nofun nofun,
      kept_readBack hname (createKubernetesFilter_selects lp) nofun nofun,
      fun sb hsb => ?_, fun sb hsb => ?_, fun sb hsb => ?_⟩
    · exact (kept_customFilter_iff hname (haccepted.filters filter hfilter)).mpr
        (hfilters filter hfilter)
    · have hselects := createTimestampModifyFilter_selects lp hsb
      obtain ⟨-, hkind⟩ := Option.ite_none_right_eq_some.mp hsb
      cases hkind
      exact kept_readBack hname hselects nofun nofun
    · have hselects := createLuaFilter_selects lp hsb
      obtain ⟨-, hkind⟩ := Option.ite_none_right_eq_some.mp hsb
      cases hkind
      exact kept_readBack hname hselects nofun nofun
    · rcases createOutputSection_cases lp {} hsb with ⟨hcustom, rfl⟩ | ⟨-, http, -, rfl⟩
      · exact (kept_customOutput_iff hname haccepted.output hcustom).mpr (houtput hcustom)
      · exact kept_httpOutput hname http

theorem readBack_sectionsText_iff (haccepted : SpecAccepted lp) (clusterName : String) :
    ReadBack lp clusterName (sectionsText lp {} clusterName) ↔ Plain lp clusterName := by
  have hnewline : '\n' ∉ lp.name.toList := notMem_of_isDNS1123Subdomain hname (by decide)
  -- if the texts keep to their lines, the sections are read one by one
  have hread : (∀ s ∈ sections lp {} clusterName, s.content.ValuesOk) →
      (ReadBack lp clusterName (sectionsText lp {} clusterName) ↔
        ∀ s ∈ sections lp {} clusterName, Kept lp.name s s.content.readBack) := by
    intro hvalues
    rw [ReadBack, readSections_sectionsText hvalues, List.forall₂_map_right_iff,
      List.forall₂_same]
  constructor
  · intro h
    obtain ⟨hfilters, houtput⟩ := (kept_sections_iff hname haccepted clusterName).mp
      ((hread h.valuesOk).mp h)
    exact ⟨hfilters, houtput, (valuesOk_sections_iff (by decide) hnewline).mp h.valuesOk⟩
  · rintro ⟨hfilters, houtput, htexts⟩
    have hvalues := (valuesOk_sections_iff (by decide) hnewline).mpr htexts
    exact (hread hvalues).mpr
      ((kept_sections_iff hname haccepted clusterName).mpr ⟨hfilters, houtput⟩)

end Kept

/-- What is read from the text of an accepted pipeline is what the builder wrote, with one plugin
and the pattern of the pipeline in each filter and output, if and only if every custom section names
one plugin and the texts inserted as they are have no further lines. -/
theorem accepted_read_back_iff (v : Reconcilable.Validator) (answer : ApiTable)
    (lp : LogPipeline) (clusterName text : String) (haccepted : Accepted v answer lp)
    (hname : isDNS1123Subdomain lp.name)
    (hbuild : buildFluentBitSectionsConfig lp {} clusterName = .ok text) :
    ReadBack lp clusterName text ↔ Plain lp clusterName := by
  rw [eq_sectionsText hbuild]
  exact readBack_sectionsText_iff hname haccepted.spec clusterName

def filteringPipeline (filter : String) : LogPipeline where
  name := "audit"
  uid := "b2"
  fluentBitFilters := [{ custom := filter }]
  output := { fluentBitCustom := "name stdout" }

theorem newline_notMem_paths {lp : LogPipeline} (h : lp.input.runtime = none) :
    '\n' ∉ (createIncludePath lp).toList ∧ '\n' ∉ (createExcludePath lp false).toList := by
  -- The characters of the paths are listed before they are looked at, which is faster.
  unfold createIncludePath createExcludePath makeLogPath
  rw [String.toList_intercalate, String.toList_intercalate]
  simp only [h, systemNamespaces, Option.bind_none, Option.map_none, Option.getD_none,
    List.map_append, List.map_cons, String.toList_append]
  decide +kernel

theorem grep_filter_read_back :
    ReadBack (filteringPipeline "name grep\nregex log error") "cluster"
      (sectionsText (filteringPipeline "name grep\nregex log error") {} "cluster") := by
  refine (accepted_read_back_iff logValidator freeLock
    (filteringPipeline "name grep\nregex log error") "cluster" _ (by rfl) (by decide)
    (by rfl)).mpr ⟨?_, ?_, ?_⟩
  · intro filter hfilter
    rw [List.mem_singleton.mp hfilter]
    exact ⟨"grep", by decide⟩
  · intro _
    exact ⟨"stdout", by decide⟩
  · intro text htext
    refine oneLine_of_notMem ?_
    rcases htext with _ | ⟨_, _ | ⟨_, _ | ⟨_, htext⟩⟩⟩
    · exact (newline_notMem_paths rfl).1
    · exact (newline_notMem_paths rfl).2
    · decide
    · cases htext

/-- The validator sees the first of two names, and the filter is rendered with both. -/
theorem second_name_escapes_validation :
    Accepted logValidator freeLock (filteringPipeline "name grep\nname kubernetes") ∧
      isDNS1123Subdomain (filteringPipeline "name grep\nname kubernetes").name = true ∧
      buildFluentBitSectionsConfig (filteringPipeline "name grep\nname kubernetes") {} "cluster" =
        .ok (sectionsText (filteringPipeline "name grep\nname kubernetes") {} "cluster") ∧
      ¬ ReadBack (filteringPipeline "name grep\nname kubernetes") "cluster"
        (sectionsText (filteringPipeline "name grep\nname kubernetes") {} "cluster") := by
  have haccepted : Accepted logValidator freeLock
      (filteringPipeline "name grep\nname kubernetes") := by rfl
  refine ⟨haccepted, by decide, by rfl, fun h => ?_⟩
  obtain ⟨plugin, hplugin⟩ := ((readBack_sectionsText_iff (by decide) haccepted.spec "cluster").mp
    h).filters ⟨"name grep\nname kubernetes"⟩ (by simp [filteringPipeline])
  have hboth : paramValues (parseMultiline "name grep\nname kubernetes") "name" =
      ["grep", "kubernetes"] := by decide
  rw [hboth] at hplugin
  simp at hplugin

end TelemetryManager.FluentBitBuilder
