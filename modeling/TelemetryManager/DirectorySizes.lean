import Mathlib.Data.List.Nodup
import TelemetryManager.Library.BinaryRounding

/-! The exporter for the sizes of directories.
In each iteration the sub-directories of a watched path are listed, and the size of each of them is
set in a gauge with the name of the directory as label. -/
namespace TelemetryManager.DirectorySizes

open BinaryRounding

/-- A node of a file system. Special files are devices, pipes and sockets. -/
inductive Node where
  | regular (size : Nat)
  | symlink
  | special
  | dir (readable : Bool) (entries : List (String × Node))

@[irreducible] def wrap64 (n : Int) : Int := n.bmod 18446744073709551616

mutual

def dirSize : Node → Option Int
  | .dir true entries => some (addSizes 0 entries)
  | _ => none

/-- The loop over the entries. Directories that cannot be read are left out. -/
def addSizes (size : Int) : List (String × Node) → Int
  | [] => size
  | (_, .symlink) :: rest => addSizes size rest
  | (_, .special) :: rest => addSizes size rest
  | (_, .regular n) :: rest => addSizes (wrap64 (size + n)) rest
  | (_, .dir readable entries) :: rest =>
    match dirSize (.dir readable entries) with
    | none => addSizes size rest
    | some subSize => addSizes (wrap64 (size + subSize)) rest

end

/-- The name and the size of a sub-directory. Symbolic links and files are left out. -/
def subDirectory : String × Node → Option (String × Int)
  | (name, .dir readable entries) => (dirSize (.dir readable entries)).map fun size => (name, size)
  | _ => none

def listDirs : Node → Option (List (String × Int))
  | .dir true entries => some (entries.filterMap subDirectory)
  | _ => none

def float64 : Int → Int
  | .ofNat n => Int.ofNat (roundToBits 53 n)
  | .negSucc n => -Int.ofNat (roundToBits 53 (n + 1))

abbrev Gauges := String → Option Int

def setGauge (g : Gauges) (d : String × Int) : Gauges :=
  fun name => if name = d.1 then some (float64 d.2) else g name

/-- A failed listing changes nothing. -/
def recordingIteration (g : Gauges) (root : Node) : Gauges :=
  match listDirs root with
  | none => g
  | some directories => directories.foldl setGauge g

def recordMetrics (roots : List Node) : Gauges := roots.foldl recordingIteration fun _ => none

mutual

/-- The paths and sizes of the regular files that are reached from the node. -/
def reachableFiles : Node → List (List String × Nat)
  | .regular size => [([], size)]
  | .dir true entries => filesIn entries
  | _ => []

def filesIn : List (String × Node) → List (List String × Nat)
  | [] => []
  | (name, node) :: rest =>
    (reachableFiles node).map (fun file => (name :: file.1, file.2)) ++ filesIn rest

end

def sumSizes : List (List String × Nat) → Nat
  | [] => 0
  | file :: rest => file.2 + sumSizes rest

def totalSize (node : Node) : Nat := sumSizes (reachableFiles node)

theorem sumSizes_append (files files' : List (List String × Nat)) :
    sumSizes (files ++ files') = sumSizes files + sumSizes files' := by
  induction files with
  | nil => simp [sumSizes]
  | cons file rest ih =>
    simp only [List.cons_append, sumSizes, ih]
    omega

theorem sumSizes_map (name : String) (files : List (List String × Nat)) :
    sumSizes (files.map fun file => (name :: file.1, file.2)) = sumSizes files := by
  induction files with
  | nil => rfl
  | cons file rest ih => simp [sumSizes, ih]

theorem sumSizes_filesIn_cons (name : String) (node : Node) (rest : List (String × Node)) :
    sumSizes (filesIn ((name, node) :: rest)) = totalSize node + sumSizes (filesIn rest) := by
  rw [filesIn, sumSizes_append, sumSizes_map, totalSize]

theorem wrap64_wrap64 (a : Int) : wrap64 (wrap64 a) = wrap64 a := by
  simp [wrap64]

theorem wrap64_wrap64_add (a b : Int) : wrap64 (wrap64 a + b) = wrap64 (a + b) := by
  simp [wrap64]

theorem wrap64_add_wrap64 (a b : Int) : wrap64 (a + wrap64 b) = wrap64 (a + b) := by
  simp [wrap64]

mutual

theorem dirSize_dir : ∀ entries : List (String × Node),
    dirSize (.dir true entries) = some (wrap64 (totalSize (.dir true entries)))
  | entries => by
    rw [dirSize, addSizes_eq entries 0 (by simp [wrap64]), totalSize, reachableFiles, zero_add]

theorem addSizes_eq : ∀ (entries : List (String × Node)) (size : Int), wrap64 size = size →
    addSizes size entries = wrap64 (size + sumSizes (filesIn entries))
  | [], size, hsize => by simp [addSizes, filesIn, sumSizes, hsize]
  | (name, .symlink) :: rest, size, hsize => by
    rw [addSizes, addSizes_eq rest size hsize, sumSizes_filesIn_cons]
    simp [totalSize, reachableFiles, sumSizes]
  | (name, .special) :: rest, size, hsize => by
    rw [addSizes, addSizes_eq rest size hsize, sumSizes_filesIn_cons]
    simp [totalSize, reachableFiles, sumSizes]
  | (name, .regular n) :: rest, size, hsize => by
    rw [addSizes, addSizes_eq rest _ (wrap64_wrap64 _), wrap64_wrap64_add, sumSizes_filesIn_cons]
    simp [totalSize, reachableFiles, sumSizes, add_assoc]
  | (name, .dir false entries) :: rest, size, hsize => by
    have hunreadable : dirSize (.dir false entries) = none := rfl
    rw [addSizes, hunreadable]
    dsimp only
    rw [addSizes_eq rest size hsize, sumSizes_filesIn_cons]
    simp [totalSize, reachableFiles, sumSizes]
  | (name, .dir true entries) :: rest, size, hsize => by
    rw [addSizes, dirSize_dir entries]
    dsimp only
    rw [wrap64_add_wrap64, addSizes_eq rest _ (wrap64_wrap64 _), wrap64_wrap64_add,
      sumSizes_filesIn_cons]
    simp [add_assoc]

end

theorem wrap64_of_lt {n : Nat} (h : n < 9223372036854775808) : wrap64 n = n := by
  simp only [wrap64, Int.bmod_def]
  omega

/-- A larger sum does not come back as a positive number close to it. -/
theorem two_mul_lt_of_wrap64_eq {n k : Nat} (h : ¬ n < 9223372036854775808) (hk : wrap64 n = k) :
    2 * k < n := by
  simp only [wrap64, Int.bmod_def] at hk
  split at hk <;> omega

theorem float64_ofNat (n : Nat) : float64 (Int.ofNat n) = Int.ofNat (roundToBits 53 n) := by
  rw [float64]

theorem float64_negSucc_le (n : Nat) : float64 (.negSucc n) ≤ 0 := by
  rw [float64]
  exact Int.neg_nonpos_of_nonneg (Int.natCast_nonneg _)

theorem float64_wrap64_ne {n : Nat} (hn : ¬ n < 9223372036854775808) :
    float64 (wrap64 n) ≠ n := by
  intro heq
  cases hwrap : wrap64 n with
  | ofNat k =>
    have hk := two_mul_lt_of_wrap64_eq hn hwrap
    have hround := roundToBits_le_two_mul 53 k
    rw [hwrap, float64_ofNat] at heq
    have hnat : roundToBits 53 k = n := Int.ofNat.inj heq
    omega
  | negSucc k =>
    have hneg := float64_negSucc_le k
    rw [hwrap] at heq
    omega

/-- A size goes through an `int64` and a `float64` unchanged exactly if both can represent it. -/
theorem float64_wrap64_eq_iff (n : Nat) :
    float64 (wrap64 n) = n ↔ n < 9223372036854775808 ∧ Representable 53 n := by
  rw [← roundToBits_eq_self_iff (Nat.succ_pos 52)]
  by_cases hn : n < 9223372036854775808
  · have hfloat : float64 (wrap64 n) = Int.ofNat (roundToBits 53 n) := by
      rw [wrap64_of_lt hn]
      exact float64_ofNat n
    rw [hfloat]
    constructor
    · intro heq
      exact ⟨hn, Int.ofNat.inj heq⟩
    · intro h
      rw [h.2]
      rfl
  · exact iff_of_false (float64_wrap64_ne hn) fun h => hn h.1

/-- The path has a real sub-directory of that name, which can be read. -/
def HasDirectory (root : Node) (name : String) : Prop :=
  ∃ entries sub, root = .dir true entries ∧ (name, .dir true sub) ∈ entries

theorem subDirectory_eq_some_iff {entry : String × Node} {d : String × Int} :
    subDirectory entry = some d ↔ ∃ sub, entry = (d.1, .dir true sub) ∧
      d.2 = wrap64 (totalSize (.dir true sub)) := by
  obtain ⟨name, node⟩ := entry
  obtain ⟨dirName, size⟩ := d
  cases node with
  | dir readable entries =>
    cases readable with
    | false => simp [subDirectory, dirSize]
    | true =>
      simp only [subDirectory, dirSize_dir, Option.map_some, Option.some.injEq, Prod.mk.injEq,
        Node.dir.injEq, true_and]
      constructor
      · rintro ⟨rfl, rfl⟩
        exact ⟨entries, ⟨rfl, rfl⟩, rfl⟩
      · rintro ⟨sub, ⟨rfl, rfl⟩, rfl⟩
        exact ⟨rfl, rfl⟩
  | _ => simp [subDirectory]

variable {name : String} {ds : List (String × Int)} {g : Gauges}

theorem foldl_setGauge_of_notMem
    (h : name ∉ ds.map Prod.fst) : ds.foldl setGauge g name = g name := by
  induction ds generalizing g with
  | nil => rfl
  | cons d rest ih =>
    rw [List.map_cons, List.mem_cons, not_or] at h
    rw [List.foldl_cons, ih h.2]
    exact if_neg h.1

theorem foldl_setGauge_of_mem {d : String × Int} (hnames : (ds.map Prod.fst).Nodup) (h : d ∈ ds) :
    ds.foldl setGauge g d.1 = some (float64 d.2) := by
  induction ds generalizing g with
  | nil => cases h
  | cons e rest ih =>
    obtain ⟨he, hrest⟩ := List.nodup_cons.mp hnames
    rw [List.foldl_cons]
    rcases List.mem_cons.mp h with rfl | hmem
    · rw [foldl_setGauge_of_notMem he]
      exact if_pos rfl
    · exact ih hrest hmem

theorem isSome_foldl_setGauge :
    (ds.foldl setGauge g name).isSome ↔
      (g name).isSome ∨ name ∈ ds.map Prod.fst := by
  induction ds generalizing g with
  | nil => simp
  | cons d rest ih =>
    rw [List.foldl_cons, ih, List.map_cons, List.mem_cons, setGauge]
    by_cases hname : name = d.1
    · simp [hname]
    · simp [hname]

theorem mem_map_subDirectory_iff {entries : List (String × Node)} :
    name ∈ (entries.filterMap subDirectory).map Prod.fst ↔
      HasDirectory (.dir true entries) name := by
  simp only [List.mem_map, List.mem_filterMap, subDirectory_eq_some_iff, HasDirectory]
  constructor
  · rintro ⟨d, ⟨entry, hentry, sub, rfl, -⟩, rfl⟩
    exact ⟨entries, sub, rfl, hentry⟩
  · rintro ⟨_, sub, heq, hmem⟩
    cases heq
    exact ⟨(name, _), ⟨_, hmem, sub, rfl, rfl⟩, rfl⟩

theorem isSome_recordingIteration {root : Node} :
    (recordingIteration g root name).isSome ↔
      (g name).isSome ∨ HasDirectory root name := by
  cases root with
  | dir readable entries =>
    cases readable with
    | true =>
      rw [← mem_map_subDirectory_iff]
      exact isSome_foldl_setGauge
    | false => simp [recordingIteration, listDirs, HasDirectory]
  | _ => simp [recordingIteration, listDirs, HasDirectory]

section Listed

variable {entries : List (String × Node)} {g : Gauges} {name : String}

theorem recordingIteration_of_notMem (h : ¬ HasDirectory (.dir true entries) name) :
    recordingIteration g (.dir true entries) name = g name := by
  rw [← mem_map_subDirectory_iff] at h
  exact foldl_setGauge_of_notMem h

theorem sublist_map_subDirectory (entries : List (String × Node)) :
    ((entries.filterMap subDirectory).map Prod.fst).Sublist (entries.map Prod.fst) := by
  induction entries with
  | nil => exact .slnil
  | cons entry rest ih =>
    cases hentry : subDirectory entry with
    | none =>
      rw [List.filterMap_cons_none hentry]
      exact ih.cons _
    | some d =>
      obtain ⟨sub, rfl, -⟩ := subDirectory_eq_some_iff.mp hentry
      rw [List.filterMap_cons_some hentry]
      exact ih.cons_cons _

theorem recordingIteration_of_mem (hnames : (entries.map Prod.fst).Nodup)
    {sub : List (String × Node)} (h : (name, .dir true sub) ∈ entries) :
    recordingIteration g (.dir true entries) name =
      some (float64 (wrap64 (totalSize (.dir true sub)))) := by
  have hlisted : (name, wrap64 (totalSize (.dir true sub))) ∈ entries.filterMap subDirectory :=
    List.mem_filterMap.mpr ⟨_, h, subDirectory_eq_some_iff.mpr ⟨sub, rfl, rfl⟩⟩
  exact foldl_setGauge_of_mem (hnames.sublist (sublist_map_subDirectory entries)) hlisted

end Listed

theorem isSome_foldl_recordingIteration {roots : List Node} :
    (roots.foldl recordingIteration g name).isSome ↔
      (g name).isSome ∨ ∃ root ∈ roots, HasDirectory root name := by
  induction roots generalizing g with
  | nil => simp
  | cons root rest ih =>
    rw [List.foldl_cons, ih, isSome_recordingIteration, or_assoc]
    simp

theorem isSome_recordMetrics {roots : List Node} :
    (recordMetrics roots name).isSome ↔ ∃ root ∈ roots, HasDirectory root name := by
  rw [recordMetrics, isSome_foldl_recordingIteration]
  simp

theorem recordMetrics_concat (before : List Node) (root : Node) :
    recordMetrics (before ++ [root]) = recordingIteration (recordMetrics before) root := by
  rw [recordMetrics, List.foldl_append]
  rfl

/-- There is a value for exactly the readable real sub-directories, and it is the size of their
files. -/
def Exact (g : Gauges) (root : Node) : Prop :=
  ∀ name value, g name = some value ↔ ∃ entries sub, root = .dir true entries ∧
    (name, .dir true sub) ∈ entries ∧ value = totalSize (.dir true sub)

section Exact

variable {before : List Node} {entries : List (String × Node)}

theorem eq_of_mem_of_mem (hnames : (entries.map Prod.fst).Nodup) {name : String} {node node' : Node}
    (h : (name, node) ∈ entries) (h' : (name, node') ∈ entries) : node = node' := by
  have heq := List.inj_on_of_nodup_map hnames h h' rfl
  cases heq
  rfl

theorem exact_recordMetrics_of (hnames : (entries.map Prod.fst).Nodup)
    (hthere : ∀ root ∈ before, ∀ name, HasDirectory root name →
      HasDirectory (.dir true entries) name)
    (hsizes : ∀ name sub, (name, .dir true sub) ∈ entries →
      totalSize (.dir true sub) < 9223372036854775808 ∧
        Representable 53 (totalSize (.dir true sub))) :
    Exact (recordMetrics (before ++ [.dir true entries])) (.dir true entries) := by
  intro name value
  rw [recordMetrics_concat]
  by_cases hname : HasDirectory (.dir true entries) name
  · obtain ⟨_, sub, heq, hsub⟩ := hname
    cases heq
    rw [recordingIteration_of_mem hnames hsub,
      (float64_wrap64_eq_iff _).mpr (hsizes name sub hsub), Option.some.injEq]
    constructor
    · intro hvalue
      exact ⟨entries, sub, rfl, hsub, hvalue.symm⟩
    · rintro ⟨_, sub', heq, hsub', hvalue⟩
      cases heq
      cases eq_of_mem_of_mem hnames hsub hsub'
      exact hvalue.symm
  · rw [recordingIteration_of_notMem hname]
    constructor
    · intro hvalue
      have hsome : (recordMetrics before name).isSome := by rw [hvalue]; rfl
      obtain ⟨root, hroot, hold⟩ := isSome_recordMetrics.mp hsome
      exact absurd (hthere root hroot name hold) hname
    · rintro ⟨entries', sub, heq, hsub, -⟩
      exact absurd ⟨entries', sub, heq, hsub⟩ hname

theorem still_there_of_exact
    (h : Exact (recordMetrics (before ++ [.dir true entries])) (.dir true entries)) :
    ∀ root ∈ before, ∀ name, HasDirectory root name → HasDirectory (.dir true entries) name := by
  intro root hroot name hold
  have hsome : (recordMetrics (before ++ [.dir true entries]) name).isSome :=
    isSome_recordMetrics.mpr ⟨root, List.mem_append_left _ hroot, hold⟩
  obtain ⟨value, hvalue⟩ := Option.isSome_iff_exists.mp hsome
  obtain ⟨entries', sub, heq, hsub, -⟩ := (h name value).mp hvalue
  exact ⟨entries', sub, heq, hsub⟩

theorem sizes_of_exact (hnames : (entries.map Prod.fst).Nodup)
    (h : Exact (recordMetrics (before ++ [.dir true entries])) (.dir true entries))
    {name : String} {sub : List (String × Node)} (hsub : (name, .dir true sub) ∈ entries) :
    totalSize (.dir true sub) < 9223372036854775808 ∧
      Representable 53 (totalSize (.dir true sub)) := by
  rw [← float64_wrap64_eq_iff]
  have hvalue : recordMetrics (before ++ [.dir true entries]) name =
      some (float64 (wrap64 (totalSize (.dir true sub)))) := by
    rw [recordMetrics_concat]
    exact recordingIteration_of_mem hnames hsub
  obtain ⟨_, sub', heq, hsub', hsize⟩ := (h name _).mp hvalue
  cases heq
  cases eq_of_mem_of_mem hnames hsub hsub'
  exact hsize

end Exact

/-- After an iteration whose listing succeeds the gauge is exact, if and only if every directory of
an earlier iteration is still there and the sizes can be represented. -/
theorem gauge_exact_iff (before : List Node) (entries : List (String × Node))
    (hnames : (entries.map Prod.fst).Nodup) :
    Exact (recordMetrics (before ++ [.dir true entries])) (.dir true entries) ↔
      (∀ root ∈ before, ∀ name, HasDirectory root name → HasDirectory (.dir true entries) name) ∧
      ∀ name sub, (name, .dir true sub) ∈ entries →
        totalSize (.dir true sub) < 9223372036854775808 ∧
          Representable 53 (totalSize (.dir true sub)) := by
  constructor
  · intro h
    exact ⟨still_there_of_exact h, fun _ _ hsub => sizes_of_exact hnames h hsub⟩
  · rintro ⟨hthere, hsizes⟩
    exact exact_recordMetrics_of hnames hthere hsizes

def bufferFiles : List (String × Node) :=
  [("tail.0", .regular 4096), ("current", .symlink), ("lost+found", .dir false [])]

def oneBuffer : List (String × Node) := [("http.0", .dir true bufferFiles)]

def twoBuffers : List (String × Node) := oneBuffer ++ [("http.1", .dir true [])]

/-- A directory that was added between two iterations. -/
theorem gauge_of_addedBuffer : (twoBuffers.map Prod.fst).Nodup ∧
    Exact (recordMetrics [.dir true oneBuffer, .dir true twoBuffers]) (.dir true twoBuffers) := by
  have hnames : (twoBuffers.map Prod.fst).Nodup := by decide
  refine ⟨hnames, (gauge_exact_iff [.dir true oneBuffer] twoBuffers hnames).mpr ⟨?_, ?_⟩⟩
  · rintro root hroot name ⟨_, sub, heq, hsub⟩
    cases List.mem_singleton.mp hroot
    cases heq
    exact ⟨_, sub, rfl, List.mem_append_left _ hsub⟩
  · intro name sub hsub
    rcases List.mem_append.mp hsub with hsub | hsub <;> cases List.mem_singleton.mp hsub
    · exact ⟨by decide, 1, 12, by decide, rfl⟩
    · exact ⟨by decide, 0, 0, by decide, rfl⟩

/-- The gauge keeps the value of the deleted directory. -/
theorem deleted_directory_exported :
    (recordMetrics [.dir true twoBuffers, .dir true oneBuffer] "http.1").isSome ∧
      ¬ HasDirectory (.dir true oneBuffer) "http.1" := by
  constructor
  · refine isSome_recordMetrics.mpr ⟨_, List.mem_cons_self, _, [], rfl, ?_⟩
    exact List.mem_cons_of_mem _ (List.mem_singleton_self _)
  · rintro ⟨_, sub, heq, hmem⟩
    cases heq
    have hname : "http.1" = "http.0" := congrArg Prod.fst (List.mem_singleton.mp hmem)
    exact absurd hname (by decide)

end TelemetryManager.DirectorySizes
