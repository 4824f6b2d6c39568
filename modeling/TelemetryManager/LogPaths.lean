import TelemetryManager.Library.Glob
import TelemetryManager.Library.PrefixCode
import TelemetryManager.LogAgentConfig
import TelemetryManager.ObjectNames

/-! The log files that a runtime input selects, in Fluent Bit and in the log agent. -/
namespace TelemetryManager.LogPaths

open FluentBitBuilder (orAny systemNamespaces makeLogPath)

structure LogFile where
  ns : String
  pod : String
  uid : String
  container : String
  index : String
  ns_valid : isDNS1123Label ns.toList
  pod_valid : isDNS1123Subdomain pod
  uid_valid : uid.toList.all isNameChar = true
  container_valid : isDNS1123Label container.toList
  index_valid : index.toList.all Char.isDigit = true

namespace LogFile

variable (file : LogFile)

def directory : String := file.ns ++ "_" ++ file.pod ++ "_" ++ file.uid

def path : String :=
  "/var/log/pods/" ++ file.directory ++ "/" ++ file.container ++ "/" ++ file.index ++ ".log"

end LogFile

def isMatched (file : LogFile) (pattern : String) : Bool :=
  Glob.acceptsPath pattern.toList file.path.toList

/-- A file is selected if a pattern to include matches it and no pattern to exclude does. -/
def isSelected (includes excludes : List String) (file : LogFile) : Bool :=
  includes.any (isMatched file) && !excludes.any (isMatched file)

/-- The selection by Fluent Bit, which separates patterns by commas, without agent logs. -/
def selectedByFluentBit (lp : LogPipeline) (file : LogFile) : Bool :=
  isSelected (Text.split (FluentBitBuilder.createIncludePath lp) ',')
    (Text.split (FluentBitBuilder.createExcludePath lp false) ',') file

def selectedByLogAgent (runtime : Option LogPipelineRuntimeInput) (file : LogFile) : Bool :=
  isSelected (LogAgent.createIncludePath runtime) (LogAgent.createExcludePath runtime false) file

/-- The name is among those to include, if there are any, and not among those to exclude. -/
def Admits («include» exclude : List String) (name : String) : Prop :=
  («include» = [] ∨ name ∈ «include») ∧ name ∉ exclude

/-- The selectors of the input admit the namespace and the container of the file. Without a
namespace selector, the system namespaces are excluded. -/
def Admitted (runtime : Option LogPipelineRuntimeInput) (file : LogFile) : Prop :=
  (match runtime.bind (·.namespaces) with
    | some selector => Admits selector.include selector.exclude file.ns
    | none => file.ns ∉ systemNamespaces) ∧
  (match runtime.bind (·.containers) with
    | some selector => Admits selector.include selector.exclude file.container
    | none => True)

def agentPatterns : List String :=
  [makeLogPath "kyma-system" "telemetry-fluent-bit-*" "fluent-bit",
    makeLogPath "kyma-system" "telemetry-log-agent-*" "collector",
    makeLogPath "kyma-system" "*system-logs-agent-*" "collector",
    makeLogPath "kyma-system" "*system-logs-collector-*" "collector"]

def isAgentFile (file : LogFile) : Bool := agentPatterns.any (isMatched file)

section Matching

variable {file : LogFile}

theorem notMem_of_isDNS1123Label {name : String} (h : isDNS1123Label name.toList) {c : Char}
    (hc : isNameChar c = false) : c ∉ name.toList := by
  intro hmem
  simp only [isDNS1123Label, Bool.and_eq_true] at h
  exact Bool.false_ne_true (hc.symm.trans (List.all_eq_true.mp h.1.1.2 c hmem))

theorem slash_notMem_directory (file : LogFile) : '/' ∉ file.directory.toList := by
  have huid : '/' ∉ file.uid.toList := by
    intro hmem
    exact absurd (List.all_eq_true.mp file.uid_valid '/' hmem) (by decide)
  have hunderscore : '/' ∉ "_".toList := by decide
  simp only [LogFile.directory, String.toList_append, List.mem_append, not_or]
  exact ⟨⟨⟨⟨notMem_of_isDNS1123Label file.ns_valid (by decide), hunderscore⟩,
    notMem_of_isDNS1123Subdomain file.pod_valid (by decide)⟩, hunderscore⟩, huid⟩

theorem toList_pattern (root ns pod container name : String) :
    (root ++ ns ++ "_" ++ pod ++ "/" ++ container ++ name).toList =
      root.toList ++ ((ns ++ "_" ++ pod).toList ++ '/' :: (container.toList ++ name.toList)) := by
  simp

theorem toList_path (root directory container index ending : String) :
    (root ++ directory ++ "/" ++ container ++ "/" ++ index ++ ending).toList =
      root.toList ++ (directory.toList ++
        '/' :: (container.toList ++ '/' :: (index ++ ending).toList)) := by
  simp

theorem isMatched_makeLogPath_iff {ns pod container : String} (hns : '/' ∉ ns.toList)
    (hpod : '/' ∉ pod.toList) (hcontainer : '/' ∉ container.toList) :
    isMatched file (makeLogPath ns pod container) ↔
      Glob.accepts (ns ++ "_" ++ pod).toList file.directory.toList ∧
        Glob.accepts container.toList file.container.toList := by
  have hpattern : (makeLogPath ns pod container).toList = "/var/log/pods/".toList ++
      ((ns ++ "_" ++ pod).toList ++ '/' :: (container.toList ++ '/' :: "*.log".toList)) :=
    toList_pattern "/var/log/pods/" ns pod container "/*.log"
  have hpath : file.path.toList = "/var/log/pods/".toList ++ (file.directory.toList ++
      '/' :: (file.container.toList ++ '/' :: (file.index ++ ".log").toList)) :=
    toList_path "/var/log/pods/" file.directory file.container file.index ".log"
  have hdirectory : '/' ∉ (ns ++ "_" ++ pod).toList := by
    have hunderscore : '/' ∉ "_".toList := by decide
    simp only [String.toList_append, List.mem_append, not_or]
    exact ⟨⟨hns, hunderscore⟩, hpod⟩
  have hname : Glob.acceptsPath "*.log".toList (file.index ++ ".log").toList := by
    have hindex : '/' ∉ file.index.toList := by
      intro hmem
      exact absurd (List.all_eq_true.mp file.index_valid '/' hmem) (by decide)
    rw [Glob.acceptsPath_name (by decide), String.toList_append]
    refine ⟨by simp [hindex], Glob.accepts_star_cons.mpr ⟨".log".toList, ?_, by decide⟩⟩
    exact List.suffix_append file.index.toList ".log".toList
  rw [isMatched, hpattern, hpath, Glob.acceptsPath_literal_append (by decide),
    Glob.acceptsPath_slash_slash hdirectory (slash_notMem_directory file),
    Glob.acceptsPath_slash_slash hcontainer
      (notMem_of_isDNS1123Label file.container_valid (by decide))]
  exact and_congr_right fun _ => and_iff_left hname

/-- A name in a pattern: a valid one, or a star. -/
def IsNamePattern (name : String) : Prop := name = "*" ∨ isDNS1123Label name.toList

theorem IsNamePattern.notMem {name : String} (h : IsNamePattern name) {c : Char}
    (hc : isNameChar c = false) (hstar : c ≠ '*') : c ∉ name.toList := by
  rcases h with rfl | h
  · simpa using hstar
  · exact notMem_of_isDNS1123Label h hc

theorem accepts_name_iff {name text : String} (h : IsNamePattern name) :
    Glob.accepts name.toList text.toList ↔ name = "*" ∨ name = text := by
  rcases h with rfl | h
  · simp [Glob.accepts_star]
  · have hstar : '*' ∉ name.toList := notMem_of_isDNS1123Label h (by decide)
    have hne : name ≠ "*" := by
      rintro rfl
      exact absurd h (by decide)
    have hliteral := Glob.accepts_literal_append hstar [] text.toList
    rw [List.append_nil] at hliteral
    rw [hliteral, or_iff_right hne, ← String.toList_inj]
    constructor
    · rintro ⟨rest, htext, hrest⟩
      rw [htext, List.isEmpty_iff.mp hrest, List.append_nil]
    · intro heq
      exact ⟨[], by rw [heq, List.append_nil], rfl⟩

theorem LogFile.toList_directory (file : LogFile) : file.directory.toList =
    file.ns.toList ++ '_' :: (file.pod ++ "_" ++ file.uid).toList := by
  simp [LogFile.directory]

/-- The namespace stands in front of the first underscore. -/
theorem ns_eq_of_accepts_directory {ns pod : String} (h : isDNS1123Label ns.toList)
    (haccepts : Glob.accepts (ns ++ "_" ++ pod).toList file.directory.toList) :
    ns = file.ns := by
  have hstar : '*' ∉ (ns ++ "_").toList := by
    simp [notMem_of_isDNS1123Label h (c := '*') (by decide)]
  rw [String.toList_append, Glob.accepts_literal_append hstar, file.toList_directory] at haccepts
  obtain ⟨rest, hrest, -⟩ := haccepts
  have hunderscore : (ns ++ "_").toList ++ rest = ns.toList ++ '_' :: rest := by simp
  have heq : file.ns.toList = ns.toList :=
    (PrefixCode.append_sep_inj (notMem_of_isDNS1123Label file.ns_valid (by decide))
      (notMem_of_isDNS1123Label h (by decide)) (hrest.trans hunderscore)).1
  exact (String.toList_inj.mp heq).symm

theorem accepts_directory_iff {ns : String} (h : IsNamePattern ns) :
    Glob.accepts (ns ++ "_" ++ "*").toList file.directory.toList ↔
      ns = "*" ∨ ns = file.ns := by
  have hpattern : (ns ++ "_" ++ "*").toList = ns.toList ++ '_' :: ['*'] := by simp
  rcases h with rfl | h
  · rw [hpattern, file.toList_directory]
    refine iff_of_true (Glob.accepts_star_cons.mpr ⟨_, List.suffix_append _ _, ?_⟩) (.inl rfl)
    exact (Glob.accepts_char_cons (by decide)).mpr ⟨_, rfl, Glob.accepts_star _⟩
  · have hne : ns ≠ "*" := by
      rintro rfl
      exact absurd h (by decide)
    rw [or_iff_right hne]
    refine ⟨ns_eq_of_accepts_directory h, ?_⟩
    intro heq
    have hstar : '*' ∉ ns.toList := notMem_of_isDNS1123Label h (by decide)
    rw [hpattern, file.toList_directory, Glob.accepts_literal_append hstar, heq]
    exact ⟨_, rfl, (Glob.accepts_char_cons (by decide)).mpr ⟨_, rfl, Glob.accepts_star _⟩⟩

theorem isMatched_iff {ns container : String} (hns : IsNamePattern ns)
    (hcontainer : IsNamePattern container) :
    isMatched file (makeLogPath ns "*" container) ↔
      (ns = "*" ∨ ns = file.ns) ∧ (container = "*" ∨ container = file.container) := by
  rw [isMatched_makeLogPath_iff (hns.notMem (by decide) (by decide)) (by decide)
    (hcontainer.notMem (by decide) (by decide)), accepts_directory_iff hns,
    accepts_name_iff hcontainer]

theorem comma_notMem_pattern {root ns pod container name : String} (hroot : ',' ∉ root.toList)
    (hns : ',' ∉ ns.toList) (hpod : ',' ∉ pod.toList) (hcontainer : ',' ∉ container.toList)
    (hname : ',' ∉ name.toList) :
    ',' ∉ (root ++ ns ++ "_" ++ pod ++ "/" ++ container ++ name).toList := by
  simp [hroot, hns, hpod, hcontainer, hname]

theorem comma_notMem_makeLogPath {ns pod container : String} (hns : ',' ∉ ns.toList)
    (hpod : ',' ∉ pod.toList) (hcontainer : ',' ∉ container.toList) :
    ',' ∉ (makeLogPath ns pod container).toList := by
  have hroot : ',' ∉ "/var/log/pods/".toList := by decide
  have hname : ',' ∉ "/*.log".toList := by decide
  exact comma_notMem_pattern hroot hns hpod hcontainer hname

theorem IsNamePattern.comma_notMem {ns container : String} (hns : IsNamePattern ns)
    (hcontainer : IsNamePattern container) : ',' ∉ (makeLogPath ns "*" container).toList :=
  comma_notMem_makeLogPath (hns.notMem (by decide) (by decide)) (by decide)
    (hcontainer.notMem (by decide) (by decide))

end Matching

section Selectors

def ValidNames («include» exclude : List String) : Prop :=
  ∀ name ∈ «include» ++ exclude, isDNS1123Label name.toList

structure ValidSelectors (runtime : Option LogPipelineRuntimeInput) : Prop where
  namespaces : ∀ selector ∈ runtime.bind (·.namespaces),
    ValidNames selector.include selector.exclude
  containers : ∀ selector ∈ runtime.bind (·.containers),
    ValidNames selector.include selector.exclude

variable {names : List String}

theorem isNamePattern_of_mem_orAny (h : ∀ name ∈ names, isDNS1123Label name.toList)
    {name : String} (hmem : name ∈ orAny names) : IsNamePattern name := by
  unfold orAny at hmem
  split at hmem
  · exact .inl (List.mem_singleton.mp hmem)
  · exact .inr (h name hmem)

/-- Names to include admit what they say, and everything if there are none. -/
theorem exists_mem_orAny_iff (h : ∀ name ∈ names, isDNS1123Label name.toList) {value : String} :
    (∃ name ∈ orAny names, name = "*" ∨ name = value) ↔ names = [] ∨ value ∈ names := by
  by_cases hnames : names = []
  · simp [orAny, hnames]
  · rw [orAny, if_neg hnames, or_iff_right hnames]
    constructor
    · intro hex
      obtain ⟨name, hmem, hname⟩ := hex
      rcases hname with rfl | rfl
      · exact absurd (h "*" hmem) (by decide)
      · exact hmem
    · intro hmem
      exact ⟨value, hmem, .inr rfl⟩

variable {file : LogFile} {namespaces containers : List String}

theorem any_include_iff (hns : ∀ name ∈ namespaces, isDNS1123Label name.toList)
    (hcontainers : ∀ name ∈ containers, isDNS1123Label name.toList) :
    ((orAny namespaces).flatMap fun ns =>
      (orAny containers).map fun container => makeLogPath ns "*" container).any
        (isMatched file) = true ↔
      (namespaces = [] ∨ file.ns ∈ namespaces) ∧
        (containers = [] ∨ file.container ∈ containers) := by
  rw [← exists_mem_orAny_iff hns, ← exists_mem_orAny_iff hcontainers, List.any_flatMap,
    List.any_eq_true]
  simp only [List.any_map, List.any_eq_true, Function.comp_apply]
  constructor
  · intro hex
    obtain ⟨ns, hmem, container, hmem', hmatched⟩ := hex
    rw [isMatched_iff (isNamePattern_of_mem_orAny hns hmem)
      (isNamePattern_of_mem_orAny hcontainers hmem')] at hmatched
    exact ⟨⟨ns, hmem, hmatched.1⟩, ⟨container, hmem', hmatched.2⟩⟩
  · intro hboth
    obtain ⟨⟨ns, hmem, hname⟩, ⟨container, hmem', hname'⟩⟩ := hboth
    exact ⟨ns, hmem, container, hmem', (isMatched_iff (isNamePattern_of_mem_orAny hns hmem)
      (isNamePattern_of_mem_orAny hcontainers hmem')).mpr ⟨hname, hname'⟩⟩

theorem any_matched_iff {names : List String} {path : String → String} {part : String}
    (h : ∀ name ∈ names, isDNS1123Label name.toList)
    (hpath : ∀ name, isDNS1123Label name.toList →
      (isMatched file (path name) ↔ name = "*" ∨ name = part)) :
    (names.map path).any (isMatched file) ↔ part ∈ names := by
  simp only [List.any_map, List.any_eq_true, Function.comp_apply]
  constructor
  · intro hex
    obtain ⟨name, hmem, hmatched⟩ := hex
    rcases (hpath name (h name hmem)).mp hmatched with rfl | rfl
    · exact absurd (h "*" hmem) (by decide)
    · exact hmem
  · intro hmem
    exact ⟨part, hmem, (hpath part (h part hmem)).mpr (.inr rfl)⟩

theorem any_exclude_namespaces_iff (hns : ∀ name ∈ namespaces, isDNS1123Label name.toList) :
    (namespaces.map fun ns => makeLogPath ns "*" "*").any (isMatched file) ↔
      file.ns ∈ namespaces :=
  any_matched_iff hns fun _ hname => by simp [isMatched_iff (.inr hname) (.inl rfl)]

theorem any_exclude_containers_iff (hcontainers : ∀ name ∈ containers, isDNS1123Label name.toList) :
    (containers.map fun container => makeLogPath "*" "*" container).any (isMatched file) ↔
      file.container ∈ containers :=
  any_matched_iff hcontainers fun _ hname => by simp [isMatched_iff (.inl rfl) (.inr hname)]

end Selectors

section Selections

structure Names where
  includedNamespaces : List String
  includedContainers : List String
  excludedNamespaces : List String
  excludedContainers : List String

def namesOf (runtime : Option LogPipelineRuntimeInput) : Names where
  includedNamespaces := ((runtime.bind (·.namespaces)).map (·.include)).getD []
  includedContainers := ((runtime.bind (·.containers)).map (·.include)).getD []
  excludedNamespaces := ((runtime.bind (·.namespaces)).map (·.exclude)).getD systemNamespaces
  excludedContainers := ((runtime.bind (·.containers)).map (·.exclude)).getD []

def Names.includes (names : Names) : List String :=
  (orAny names.includedNamespaces).flatMap fun ns =>
    (orAny names.includedContainers).map fun container => makeLogPath ns "*" container

def Names.excludes (names : Names) : List String :=
  names.excludedNamespaces.map (fun ns => makeLogPath ns "*" "*") ++
    names.excludedContainers.map fun container => makeLogPath "*" "*" container

structure Names.Valid (names : Names) : Prop where
  includedNamespaces : ∀ name ∈ names.includedNamespaces, isDNS1123Label name.toList
  includedContainers : ∀ name ∈ names.includedContainers, isDNS1123Label name.toList
  excludedNamespaces : ∀ name ∈ names.excludedNamespaces, isDNS1123Label name.toList
  excludedContainers : ∀ name ∈ names.excludedContainers, isDNS1123Label name.toList

variable {runtime : Option LogPipelineRuntimeInput} {file : LogFile}

theorem forall_mem_getD {α : Type} {selector : Option α} {names : α → List String}
    {fallback : List String} {p : String → Prop} (h : ∀ s ∈ selector, ∀ name ∈ names s, p name)
    (hfallback : ∀ name ∈ fallback, p name) :
    ∀ name ∈ (selector.map names).getD fallback, p name := by
  cases selector with
  | none => exact hfallback
  | some s => exact h s rfl

theorem ValidSelectors.names (h : ValidSelectors runtime) : (namesOf runtime).Valid where
  includedNamespaces := forall_mem_getD
    (fun s hs name hname => h.namespaces s hs name (List.mem_append_left _ hname)) (by simp)
  includedContainers := forall_mem_getD
    (fun s hs name hname => h.containers s hs name (List.mem_append_left _ hname)) (by simp)
  excludedNamespaces := forall_mem_getD
    (fun s hs name hname => h.namespaces s hs name (List.mem_append_right _ hname))
    (List.forall_iff_forall_mem.mp (by decide))
  excludedContainers := forall_mem_getD
    (fun s hs name hname => h.containers s hs name (List.mem_append_right _ hname)) (by simp)

theorem admitted_iff :
    Admitted runtime file ↔
      (((namesOf runtime).includedNamespaces = [] ∨
          file.ns ∈ (namesOf runtime).includedNamespaces) ∧
        ((namesOf runtime).includedContainers = [] ∨
          file.container ∈ (namesOf runtime).includedContainers)) ∧
      ¬ (file.ns ∈ (namesOf runtime).excludedNamespaces ∨
        file.container ∈ (namesOf runtime).excludedContainers) := by
  unfold Admitted namesOf
  cases runtime.bind (·.namespaces) <;> cases runtime.bind (·.containers) <;>
    simp only [Admits, Option.map_none, Option.map_some, Option.getD_none, Option.getD_some,
      List.not_mem_nil] <;> tauto

variable {names : Names}

theorem Names.Valid.any_includes_iff (h : names.Valid) :
    names.includes.any (isMatched file) = true ↔
      (names.includedNamespaces = [] ∨ file.ns ∈ names.includedNamespaces) ∧
        (names.includedContainers = [] ∨ file.container ∈ names.includedContainers) :=
  any_include_iff h.includedNamespaces h.includedContainers

theorem Names.Valid.any_excludes_iff (h : names.Valid) :
    names.excludes.any (isMatched file) = true ↔
      file.ns ∈ names.excludedNamespaces ∨ file.container ∈ names.excludedContainers := by
  rw [Names.excludes, List.any_append, Bool.or_eq_true,
    any_exclude_namespaces_iff h.excludedNamespaces,
    any_exclude_containers_iff h.excludedContainers]

/-- The order of the patterns for the agents does not matter. -/
theorem isSelected_iff (h : ValidSelectors runtime) {agents : List String}
    (hagents : agents.Perm agentPatterns) :
    isSelected (namesOf runtime).includes (agents ++ (namesOf runtime).excludes) file ↔
      isAgentFile file = false ∧ Admitted runtime file := by
  have hagent : agents.any (isMatched file) = isAgentFile file := hagents.any_eq
  rw [isSelected, List.any_append, hagent, Bool.and_eq_true, Bool.not_eq_true',
    Bool.or_eq_false_iff, h.names.any_includes_iff, ← Bool.not_eq_true (List.any _ _),
    h.names.any_excludes_iff, admitted_iff]
  exact and_left_comm

theorem comma_notMem_includes (h : names.Valid) :
    ∀ pattern ∈ names.includes, ',' ∉ pattern.toList := by
  intro pattern hmem
  obtain ⟨ns, hns, hmem⟩ := List.mem_flatMap.mp hmem
  obtain ⟨container, hcontainer, rfl⟩ := List.mem_map.mp hmem
  exact (isNamePattern_of_mem_orAny h.includedNamespaces hns).comma_notMem
    (isNamePattern_of_mem_orAny h.includedContainers hcontainer)

theorem comma_notMem_excludes (h : names.Valid) :
    ∀ pattern ∈ names.excludes, ',' ∉ pattern.toList := by
  intro pattern hmem
  rcases List.mem_append.mp hmem with hmem | hmem
  · obtain ⟨ns, hns, rfl⟩ := List.mem_map.mp hmem
    exact IsNamePattern.comma_notMem (.inr (h.excludedNamespaces ns hns)) (.inl rfl)
  · obtain ⟨container, hcontainer, rfl⟩ := List.mem_map.mp hmem
    exact IsNamePattern.comma_notMem (.inl rfl) (.inr (h.excludedContainers container hcontainer))

theorem exists_of_mem_agentPatterns {pattern : String} (h : pattern ∈ agentPatterns) :
    ∃ pod container, ',' ∉ pod.toList ∧ '/' ∉ pod.toList ∧ ',' ∉ container.toList ∧
      '/' ∉ container.toList ∧ pattern = makeLogPath "kyma-system" pod container := by
  simp only [agentPatterns, List.mem_cons, List.not_mem_nil, or_false] at h
  rcases h with rfl | rfl | rfl | rfl
  all_goals exact ⟨_, _, by decide, by decide, by decide, by decide, rfl⟩

theorem comma_notMem_agentPatterns : ∀ pattern ∈ agentPatterns, ',' ∉ pattern.toList := by
  intro pattern hmem
  obtain ⟨pod, container, hpod, -, hcontainer, -, rfl⟩ := exists_of_mem_agentPatterns hmem
  exact comma_notMem_makeLogPath (by decide) hpod hcontainer

theorem isAgentFile_of_ns_ne (h : file.ns ≠ "kyma-system") : isAgentFile file = false := by
  rw [isAgentFile, List.any_eq_false]
  intro pattern hmem hmatched
  obtain ⟨pod, container, -, hpod, -, hcontainer, rfl⟩ := exists_of_mem_agentPatterns hmem
  rw [isMatched_makeLogPath_iff (by decide) hpod hcontainer] at hmatched
  exact h (ns_eq_of_accepts_directory (by decide) hmatched.1).symm

theorem orAny_ne_nil (selected : List String) : orAny selected ≠ [] := by
  unfold orAny
  split
  · exact List.cons_ne_nil _ _
  · assumption

theorem includes_ne_nil (names : Names) : names.includes ≠ [] := by
  obtain ⟨ns, hns⟩ := List.exists_mem_of_ne_nil _ (orAny_ne_nil names.includedNamespaces)
  obtain ⟨container, hcontainer⟩ :=
    List.exists_mem_of_ne_nil _ (orAny_ne_nil names.includedContainers)
  exact List.ne_nil_of_mem (List.mem_flatMap.mpr ⟨ns, hns, List.mem_map_of_mem hcontainer⟩)

theorem makePath_eq_makeLogPath (ns pod container : String) :
    LogAgent.makePath ns pod container = makeLogPath ns pod container := rfl

theorem logAgent_includes : LogAgent.createIncludePath runtime = (namesOf runtime).includes := by
  simp only [LogAgent.createIncludePath, makePath_eq_makeLogPath]
  rfl

theorem logAgent_excludes :
    LogAgent.createExcludePath runtime false = agentPatterns ++ (namesOf runtime).excludes := by
  simp only [LogAgent.createExcludePath, makePath_eq_makeLogPath, List.append_assoc]
  rfl

def fluentBitAgentPatterns : List String :=
  [makeLogPath "kyma-system" "telemetry-fluent-bit-*" "fluent-bit",
    makeLogPath "kyma-system" "*system-logs-agent-*" "collector",
    makeLogPath "kyma-system" "*system-logs-collector-*" "collector",
    makeLogPath "kyma-system" "telemetry-log-agent-*" "collector"]

theorem fluentBitAgentPatterns_perm : fluentBitAgentPatterns.Perm agentPatterns := by
  unfold fluentBitAgentPatterns agentPatterns
  refine .cons _ ?_
  exact (List.perm_append_comm : ([_, _] ++ [_]).Perm ([_] ++ [_, _]))

theorem fluentBit_includes {lp : LogPipeline} (h : ValidSelectors lp.input.runtime) :
    Text.split (FluentBitBuilder.createIncludePath lp) ',' =
      (namesOf lp.input.runtime).includes :=
  Text.split_intercalate (by decide) (includes_ne_nil (namesOf _)) (comma_notMem_includes h.names)

theorem fluentBit_excludes {lp : LogPipeline} (h : ValidSelectors lp.input.runtime) :
    Text.split (FluentBitBuilder.createExcludePath lp false) ',' =
      fluentBitAgentPatterns ++ (namesOf lp.input.runtime).excludes := by
  have hpath : FluentBitBuilder.createExcludePath lp false =
      ",".intercalate (fluentBitAgentPatterns ++ (namesOf lp.input.runtime).excludes) := by
    simp only [FluentBitBuilder.createExcludePath, List.append_assoc]
    rfl
  rw [hpath]
  refine Text.split_intercalate (by decide) (List.cons_ne_nil _ _) ?_
  intro pattern hmem
  rcases List.mem_append.mp hmem with hmem | hmem
  · exact comma_notMem_agentPatterns pattern (fluentBitAgentPatterns_perm.subset hmem)
  · exact comma_notMem_excludes h.names pattern hmem

end Selections

/-- Fluent Bit and the log agent select the same files: those of the admitted namespaces and
containers, without the files of the agents. -/
theorem log_paths_select_iff (lp : LogPipeline) (h : ValidSelectors lp.input.runtime)
    (file : LogFile) :
    selectedByFluentBit lp file = selectedByLogAgent lp.input.runtime file ∧
      (selectedByFluentBit lp file ↔
        isAgentFile file = false ∧ Admitted lp.input.runtime file) := by
  have hfluentBit : selectedByFluentBit lp file ↔
      isAgentFile file = false ∧ Admitted lp.input.runtime file := by
    rw [selectedByFluentBit, fluentBit_includes h, fluentBit_excludes h]
    exact isSelected_iff h fluentBitAgentPatterns_perm
  have hlogAgent : selectedByLogAgent lp.input.runtime file ↔
      isAgentFile file = false ∧ Admitted lp.input.runtime file := by
    rw [selectedByLogAgent, logAgent_includes, logAgent_excludes]
    exact isSelected_iff h (List.Perm.refl agentPatterns)
  exact ⟨Bool.eq_iff_iff.mpr (hfluentBit.trans hlogAgent.symm), hfluentBit⟩

def ordersInput : LogPipelineRuntimeInput where
  namespaces := some { «include» := ["orders"] }
  containers := some { exclude := ["istio-proxy"] }

def ordersPipeline : LogPipeline where
  name := "orders"
  input := { runtime := some ordersInput }
  output := {}

def ordersFile : LogFile where
  ns := "orders"
  pod := "shop-7d9f"
  uid := "b1c2-03"
  container := "shop"
  index := "0"
  ns_valid := by decide
  pod_valid := by decide
  uid_valid := by decide
  container_valid := by decide
  index_valid := by decide

theorem ordersPipeline_valid : ValidSelectors ordersPipeline.input.runtime where
  namespaces := by
    intro selector hselector
    cases hselector
    exact List.forall_iff_forall_mem.mp (by decide)
  containers := by
    intro selector hselector
    cases hselector
    exact List.forall_iff_forall_mem.mp (by decide)

theorem ordersFile_selected :
    isAgentFile ordersFile = false ∧ Admitted ordersPipeline.input.runtime ordersFile ∧
      selectedByFluentBit ordersPipeline ordersFile ∧
      selectedByLogAgent ordersPipeline.input.runtime ordersFile := by
  have hagent : isAgentFile ordersFile = false := isAgentFile_of_ns_ne (by decide)
  have hadmitted : Admitted ordersPipeline.input.runtime ordersFile :=
    ⟨⟨.inr (by decide), by decide⟩, .inl rfl, by decide⟩
  obtain ⟨hsame, hiff⟩ := log_paths_select_iff ordersPipeline ordersPipeline_valid ordersFile
  have hselected := hiff.mpr ⟨hagent, hadmitted⟩
  exact ⟨hagent, hadmitted, hselected, hsame ▸ hselected⟩

end TelemetryManager.LogPaths
