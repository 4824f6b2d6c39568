import Mathlib.Data.Finmap
import Mathlib.Data.Finset.Sort
import Mathlib.Data.Prod.Lex
import Mathlib.Data.String.Basic
import TelemetryManager.KubeClient
import TelemetryManager.Library.KeySort
import TelemetryManager.Library.PrefixCode

/-! The checksum over the mounted configuration of a workload.
It is written to an annotation of the pods, so that a new checksum rolls the workload. -/
namespace TelemetryManager.ConfigChecksum

open PrefixCode (bytes)

abbrev Bytes := List UInt8

structure DataObject (V : Type) where
  objectMeta : ObjectKey
  data : Finmap fun _ : String => V

def less (x y : ObjectKey) : Bool :=
  if x.namespace ≠ y.namespace then decide (x.namespace < y.namespace)
  else decide (x.name < y.name)

section Source

variable {V : Type}

def sortObjects (unsorted : List (DataObject V)) : List (DataObject V) :=
  unsorted.insertionSort fun a b => ¬ less b.objectMeta a.objectMeta

def sortConfigMaps : List (DataObject String) → List (DataObject String) := sortObjects

def sortSecrets : List (DataObject Bytes) → List (DataObject Bytes) := sortObjects

def sortKeys (m : Finmap fun _ : String => V) : List String := m.keys.sort (· ≤ ·)

def addMap (toBytes : V → Bytes) (h : Bytes) (m : Finmap fun _ : String => V) : Bytes :=
  (sortKeys m).foldl (fun h k => h ++ bytes k ++ ((m.lookup k).map toBytes).getD []) h

def addStringMap : Bytes → (Finmap fun _ : String => String) → Bytes := addMap bytes

def addByteMap : Bytes → (Finmap fun _ : String => Bytes) → Bytes := addMap id

end Source

def hexByte (b : UInt8) : List Char := [Nat.digitChar (b.toNat / 16), Nat.digitChar (b.toNat % 16)]

def hexText (bs : Bytes) : String := String.ofList (bs.flatMap hexByte)

def calculate (sum : Bytes → Bytes) (configMaps : List (DataObject String))
    (secrets : List (DataObject Bytes)) : String :=
  let h := (sortConfigMaps configMaps).foldl (fun h cm => addStringMap h cm.data) []
  let h := (sortSecrets secrets).foldl (fun h secret => addByteMap h secret.data) h
  hexText (sum h)

section Written

variable {V : Type}

def mapText (toBytes : V → Bytes) (m : Finmap fun _ : String => V) : Bytes :=
  (sortKeys m).flatMap fun k => bytes k ++ ((m.lookup k).map toBytes).getD []

def objectsText (toBytes : V → Bytes) (objects : List (DataObject V)) : Bytes :=
  (sortObjects objects).flatMap fun o => mapText toBytes o.data

def written (configMaps : List (DataObject String)) (secrets : List (DataObject Bytes)) : Bytes :=
  objectsText bytes configMaps ++ objectsText id secrets

def objectsParts (toBytes : V → Bytes) (objects : List (DataObject V)) : List Bytes :=
  (sortObjects objects).flatMap fun o => (sortKeys o.data).flatMap fun k =>
    [bytes k, ((o.data.lookup k).map toBytes).getD []]

theorem flatten_objectsParts (toBytes : V → Bytes) (objects : List (DataObject V)) :
    (objectsParts toBytes objects).flatten = objectsText toBytes objects := by
  have hflatten : ∀ {ι : Type} (l : List ι) (f : ι → List Bytes),
      (l.flatMap f).flatten = l.flatMap fun i => (f i).flatten := by
    intro ι l f
    induction l with
    | nil => rfl
    | cons i l ih => simp [ih]
  simp [objectsParts, objectsText, mapText, hflatten]

theorem foldl_append_eq {ι : Type} (f : ι → Bytes) (l : List ι) (h : Bytes) :
    l.foldl (fun h i => h ++ f i) h = h ++ l.flatMap f := by
  induction l generalizing h with
  | nil => simp
  | cons i l ih => simp [ih]

theorem addMap_eq (toBytes : V → Bytes) (h : Bytes) (m : Finmap fun _ : String => V) :
    addMap toBytes h m = h ++ mapText toBytes m := by
  simp only [addMap, List.append_assoc]
  exact foldl_append_eq _ (sortKeys m) h

theorem calculate_eq (sum : Bytes → Bytes) (configMaps : List (DataObject String))
    (secrets : List (DataObject Bytes)) :
    calculate sum configMaps secrets = hexText (sum (written configMaps secrets)) := by
  simp only [calculate, addStringMap, addByteMap, addMap_eq]
  rw [foldl_append_eq, foldl_append_eq, List.nil_append]
  rfl

end Written

theorem digitChar_inj {m n : Nat} (hm : m < 16) (hn : n < 16)
    (h : Nat.digitChar m = Nat.digitChar n) : m = n := by
  have hdigits : ∀ a b : Fin 16, Nat.digitChar a = Nat.digitChar b → a = b := by decide
  exact congrArg Fin.val (hdigits ⟨m, hm⟩ ⟨n, hn⟩ h)

theorem hexByte_inj {b c : UInt8} (h : hexByte b = hexByte c) : b = c := by
  obtain ⟨hhigh, hrest⟩ := List.cons.inj h
  obtain ⟨hlow, -⟩ := List.cons.inj hrest
  have hb := b.toNat_lt
  have hc := c.toNat_lt
  have hdiv := digitChar_inj (by omega) (by omega) hhigh
  have hmod := digitChar_inj (by omega) (by omega) hlow
  apply UInt8.toNat_inj.mp
  omega

theorem hexText_injective : Function.Injective hexText := by
  intro bs cs h
  have hdigits : bs.flatMap hexByte = cs.flatMap hexByte := String.ofList_injective h
  clear h
  induction bs generalizing cs with
  | nil =>
    cases cs with
    | nil => rfl
    | cons c cs => cases hdigits
  | cons b bs ih =>
    cases cs with
    | nil => cases hdigits
    | cons c cs =>
      rw [List.flatMap_cons, List.flatMap_cons] at hdigits
      obtain ⟨hbyte, hrest⟩ := List.append_inj hdigits rfl
      rw [hexByte_inj hbyte, ih hrest]

section Order

variable {V : Type} {objects objects' : List (DataObject V)}

/-- The names of objects are compared namespace first. -/
def sortKey (o : DataObject V) : String ×ₗ String :=
  toLex (o.objectMeta.namespace, o.objectMeta.name)

theorem not_less_iff (a b : DataObject V) :
    ¬ less b.objectMeta a.objectMeta ↔ sortKey a ≤ sortKey b := by
  rw [← not_lt, sortKey, sortKey, Prod.Lex.toLex_lt_toLex, less]
  by_cases hns : b.objectMeta.namespace = a.objectMeta.namespace
  · simp [hns]
  · simp [hns]

theorem nodup_map_sortKey (h : (objects.map (·.objectMeta)).Nodup) :
    (objects.map sortKey).Nodup := by
  have hinj : Function.Injective fun name : ObjectKey => toLex (name.namespace, name.name) := by
    intro a b hab
    obtain ⟨hns, hname⟩ := Prod.mk.inj (toLex_inj.mp hab)
    cases a
    cases b
    exact congrArg₂ ObjectKey.mk hns hname
  have hmap : objects.map sortKey =
      (objects.map (·.objectMeta)).map fun name => toLex (name.namespace, name.name) := by
    rw [List.map_map]
    rfl
  rw [hmap]
  exact h.map hinj

theorem sortObjects_eq (objects : List (DataObject V)) :
    sortObjects objects = objects.insertionSort fun a b => sortKey a ≤ sortKey b := by
  simp only [sortObjects, not_less_iff]

theorem sortObjects_eq_of_perm (hperm : objects.Perm objects')
    (hnames : (objects.map (·.objectMeta)).Nodup) : sortObjects objects = sortObjects objects' := by
  rw [sortObjects_eq, sortObjects_eq]
  exact KeySort.insertionSort_eq_of_perm hperm (nodup_map_sortKey hnames)

end Order

structure Input where
  configMaps : List (DataObject String)
  secrets : List (DataObject Bytes)

namespace Input

def checksum (sum : Bytes → Bytes) (a : Input) : String := calculate sum a.configMaps a.secrets

def text (a : Input) : Bytes := written a.configMaps a.secrets

theorem checksum_eq (sum : Bytes → Bytes) (a : Input) :
    a.checksum sum = hexText (sum a.text) := calculate_eq sum a.configMaps a.secrets

theorem checksum_eq_iff {sum : Bytes → Bytes} (hsum : Function.Injective sum) (a b : Input) :
    a.checksum sum = b.checksum sum ↔ a.text = b.text := by
  rw [checksum_eq, checksum_eq]
  exact hexText_injective.eq_iff.trans hsum.eq_iff

/-- The keys and values, by the names of the objects and then by the keys. -/
def keysAndValues (a : Input) : List Bytes :=
  objectsParts bytes a.configMaps ++ objectsParts id a.secrets

theorem recut_keysAndValues_iff (a b : Input) :
    PrefixCode.Recut a.keysAndValues b.keysAndValues ↔ a.text = b.text := by
  simp [PrefixCode.recut_iff, keysAndValues, text, written, flatten_objectsParts]

structure DistinctNames (a : Input) : Prop where
  configMaps : (a.configMaps.map (·.objectMeta)).Nodup
  secrets : (a.secrets.map (·.objectMeta)).Nodup

structure Reordered (a b : Input) : Prop where
  configMaps : a.configMaps.Perm b.configMaps
  secrets : a.secrets.Perm b.secrets

end Input

section Changes

variable {V : Type}

def SameNames (objects objects' : List (DataObject V)) : Prop :=
  ∀ name, name ∈ objects.map (·.objectMeta) ↔ name ∈ objects'.map (·.objectMeta)

def DataDiffers (objects objects' : List (DataObject V)) : Prop :=
  ∃ o ∈ objects, ∃ o' ∈ objects', o.objectMeta = o'.objectMeta ∧ o.data ≠ o'.data

structure Input.Changed (a b : Input) : Prop where
  configMaps : SameNames a.configMaps b.configMaps
  secrets : SameNames a.secrets b.secrets
  data : DataDiffers a.configMaps b.configMaps ∨ DataDiffers a.secrets b.secrets

end Changes

/-- The checksum does not depend on the order of the lists. A change shows in it if and only if it
does more than move text from the end of a key or value to the beginning of the next one, or back,
and add or leave out empty ones: nothing separates them where they are written to the hash. -/
theorem checksum_follows_data_iff {sum : Bytes → Bytes} (hsum : Function.Injective sum)
    {a b : Input} (ha : a.DistinctNames) :
    ((a.Reordered b → a.checksum sum = b.checksum sum) ∧
      (a.Changed b → a.checksum sum ≠ b.checksum sum)) ↔
      (a.Changed b → ¬ PrefixCode.Recut a.keysAndValues b.keysAndValues) := by
  have hreordered : a.Reordered b → a.checksum sum = b.checksum sum := by
    intro h
    unfold Input.checksum calculate sortConfigMaps sortSecrets
    rw [sortObjects_eq_of_perm h.configMaps ha.configMaps,
      sortObjects_eq_of_perm h.secrets ha.secrets]
  rw [and_iff_right hreordered, ne_eq, a.checksum_eq_iff hsum, a.recut_keysAndValues_iff]

section OneValue

/-- If one of the joined parts changes, the whole does. -/
theorem flatMap_ne_of_one {ι : Type} {f g : ι → Bytes} {l : List ι} (hnodup : l.Nodup) {i : ι}
    (hi : i ∈ l) (hother : ∀ j ∈ l, j ≠ i → f j = g j) (hne : f i ≠ g i) :
    l.flatMap f ≠ l.flatMap g := by
  obtain ⟨before, after, rfl⟩ := List.append_of_mem hi
  rw [List.nodup_middle, List.nodup_cons] at hnodup
  have hrest : ∀ j ∈ before ++ after, f j = g j := by
    intro j hj
    exact hother j (List.perm_middle.mem_iff.mpr (List.mem_cons_of_mem i hj))
      fun heq => hnodup.1 (heq ▸ hj)
  have hbefore : before.flatMap f = before.flatMap g :=
    List.flatMap_congr fun j hj => hrest j (List.mem_append_left _ hj)
  have hafter : after.flatMap f = after.flatMap g :=
    List.flatMap_congr fun j hj => hrest j (List.mem_append_right _ hj)
  intro heq
  rw [List.flatMap_append, List.flatMap_append, List.flatMap_cons, List.flatMap_cons, hbefore,
    hafter] at heq
  exact hne (List.append_cancel_right (List.append_cancel_left heq))

variable {V : Type} {toBytes : V → Bytes} {k : String} {v w : V}

theorem mapText_insert_ne (htoBytes : Function.Injective toBytes)
    {m : Finmap fun _ : String => V} (hk : m.lookup k = some v) (hvw : v ≠ w) :
    mapText toBytes m ≠ mapText toBytes (m.insert k w) := by
  have hmem : k ∈ m := Finmap.mem_iff.mpr ⟨v, hk⟩
  have hkeys : sortKeys (m.insert k w) = sortKeys m := by
    have hkeys : (m.insert k w).keys = m.keys := by
      ext key
      simp only [Finmap.mem_keys, Finmap.mem_insert]
      exact or_iff_right_of_imp fun heq => heq ▸ hmem
    rw [sortKeys, hkeys, sortKeys]
  unfold mapText
  rw [hkeys]
  refine flatMap_ne_of_one (Finset.sort_nodup m.keys _)
    ((Finset.mem_sort _).mpr (Finmap.mem_keys.mpr hmem)) ?_ ?_
  · intro key _ hkey
    rw [Finmap.lookup_insert_of_ne _ hkey]
  · rw [Finmap.lookup_insert, hk]
    intro heq
    exact hvw (htoBytes (List.append_cancel_left heq))

def setValue (name : ObjectKey) (k : String) (w : V) (o : DataObject V) : DataObject V :=
  if o.objectMeta = name then { o with data := o.data.insert k w } else o

@[simp] theorem objectMeta_setValue (name : ObjectKey) (k : String) (w : V) (o : DataObject V) :
    (setValue name k w o).objectMeta = o.objectMeta := by
  unfold setValue
  split <;> rfl

theorem sortObjects_map {f : DataObject V → DataObject V}
    (hf : ∀ o, (f o).objectMeta = o.objectMeta) (objects : List (DataObject V)) :
    sortObjects (objects.map f) = (sortObjects objects).map f := by
  refine (List.map_insertionSort _ _ f objects ?_).symm
  intro a _ b _
  rw [hf, hf]

theorem objectsText_setValue_ne (htoBytes : Function.Injective toBytes)
    {objects : List (DataObject V)} (hnames : (objects.map (·.objectMeta)).Nodup)
    {o : DataObject V} (ho : o ∈ objects) (hk : o.data.lookup k = some v) (hvw : v ≠ w) :
    objectsText toBytes objects ≠
      objectsText toBytes (objects.map (setValue o.objectMeta k w)) := by
  have hperm : (sortObjects objects).Perm objects := List.perm_insertionSort _ objects
  have hmem : o ∈ sortObjects objects := hperm.mem_iff.mpr ho
  have hsorted : ((sortObjects objects).map (·.objectMeta)).Nodup :=
    (hperm.map _).nodup_iff.mpr hnames
  unfold objectsText
  rw [sortObjects_map (objectMeta_setValue o.objectMeta k w), List.flatMap_map]
  refine flatMap_ne_of_one (List.Nodup.of_map _ hsorted) hmem ?_ ?_
  · intro o' ho' hne
    have hname : o'.objectMeta ≠ o.objectMeta :=
      fun heq => hne (List.inj_on_of_nodup_map hsorted ho' hmem heq)
    rw [setValue, if_neg hname]
  · rw [setValue, if_pos rfl]
    exact mapText_insert_ne htoBytes hk hvw

end OneValue

/-- With a collision-free hash, a change of one value of a ConfigMap or Secret is noticed. -/
theorem checksum_ne_of_value_changed {sum : Bytes → Bytes} (hsum : Function.Injective sum)
    {a : Input} (ha : a.DistinctNames) :
    (∀ cm ∈ a.configMaps, ∀ k v w, cm.data.lookup k = some v → v ≠ w →
      a.checksum sum ≠ Input.checksum sum
        { a with configMaps := a.configMaps.map (setValue cm.objectMeta k w) }) ∧
    (∀ secret ∈ a.secrets, ∀ k v w, secret.data.lookup k = some v → v ≠ w →
      a.checksum sum ≠ Input.checksum sum
        { a with secrets := a.secrets.map (setValue secret.objectMeta k w) }) := by
  constructor
  · intro cm hcm k v w hk hvw
    rw [ne_eq, a.checksum_eq_iff hsum]
    intro heq
    exact objectsText_setValue_ne (fun _ _ => PrefixCode.bytes_inj.mp) ha.configMaps hcm hk hvw
      (List.append_cancel_right heq)
  · intro secret hsecret k v w hk hvw
    rw [ne_eq, a.checksum_eq_iff hsum]
    intro heq
    exact objectsText_setValue_ne Function.injective_id ha.secrets hsecret hk hvw
      (List.append_cancel_left heq)

def filesConfigMap (name content : String) : DataObject String where
  objectMeta := ⟨"kyma-system", "telemetry-fluent-bit-files"⟩
  data := Finmap.singleton name content

def filesInput (name content : String) : Input := ⟨[filesConfigMap name content], []⟩

theorem filesInput_distinctNames (name content : String) :
    (filesInput name content).DistinctNames := ⟨List.nodup_singleton _, List.nodup_nil⟩

theorem new_content_new_checksum :
    (filesInput "a.lua" "x").checksum id ≠ Input.checksum id ⟨[filesConfigMap "a.lua" "x"].map
      (setValue (filesConfigMap "a.lua" "x").objectMeta "a.lua" "y"), []⟩ :=
  (checksum_ne_of_value_changed Function.injective_id (filesInput_distinctNames _ _)).1 _
    (List.mem_singleton_self _) _ "x" _ (Finmap.lookup_singleton_eq ..) (by decide)

theorem filesInput_text (name content : String) :
    (filesInput name content).text = bytes name ++ bytes content := by
  simp [filesInput, filesConfigMap, Input.text, written, objectsText, sortObjects, mapText,
    sortKeys]

theorem filesInput_changed {name content name' content' : String} (h : name ≠ name') :
    (filesInput name content).Changed (filesInput name' content') where
  configMaps := fun _ => Iff.rfl
  secrets := fun _ => Iff.rfl
  data := by
    refine .inl ⟨_, List.mem_singleton.mpr rfl, _, List.mem_singleton.mpr rfl, rfl, ?_⟩
    intro hdata
    have hkeys := congrArg Finmap.keys hdata
    exact h (Finset.singleton_injective hkeys)

/-- With every hash function, a file that is renamed and whose content starts with the part that is
cut off has the same checksum. -/
theorem renamed_file_same_checksum :
    (filesInput "lookup.json" "[]").Changed (filesInput "lookup.js" "on[]") ∧
      ∀ sum, (filesInput "lookup.json" "[]").checksum sum =
        (filesInput "lookup.js" "on[]").checksum sum := by
  refine ⟨filesInput_changed (by decide), ?_⟩
  intro sum
  have htext : (filesInput "lookup.json" "[]").text = (filesInput "lookup.js" "on[]").text := by
    rw [filesInput_text, filesInput_text]
    decide
  rw [Input.checksum_eq, Input.checksum_eq, htext]

theorem other_file_other_checksum :
    (filesInput "lookup.json" "[]").Changed (filesInput "lookup.csv" "[]") ∧
      (filesInput "lookup.json" "[]").checksum id ≠ (filesInput "lookup.csv" "[]").checksum id := by
  have hchanged : (filesInput "lookup.json" "[]").Changed (filesInput "lookup.csv" "[]") :=
    filesInput_changed (by decide)
  have hmoved : ¬ PrefixCode.Recut (filesInput "lookup.json" "[]").keysAndValues
      (filesInput "lookup.csv" "[]").keysAndValues := by
    rw [Input.recut_keysAndValues_iff, filesInput_text, filesInput_text]
    decide
  exact ⟨hchanged, ((checksum_follows_data_iff Function.injective_id
    (filesInput_distinctNames _ _)).mpr fun _ => hmoved).2 hchanged⟩

end TelemetryManager.ConfigChecksum
