import TelemetryManager.StorageMigration

/-! The safety of the storage migration.
Every write stores `v1beta1`, so that old objects only disappear: what the migrator has seen to be
migrated stays so, and an object that is old now was in every list that the cache gave before. -/
namespace TelemetryManager.StorageMigration

open Interaction Contract

section Time

variable {s t : Server} {cluster : Cluster} {kind : Kind} {key : ObjectKey}

theorem oldVersion_notMem_withoutOldVersion (versions : List String) :
    oldVersion ∉ withoutOldVersion versions := by
  simp [withoutOldVersion]

@[simp] theorem withoutOldVersion_withoutOldVersion (versions : List String) :
    withoutOldVersion (withoutOldVersion versions) = withoutOldVersion versions := by
  simp [withoutOldVersion]

theorem old_setObject {k : Kind} {n : ObjectKey} {o : Option StoredObject}
    (ho : ∀ object, o = some object → object.version ≠ oldVersion)
    (h : (cluster.setObject k n o).Old kind key) :
    ¬ (kind = k ∧ key = n) ∧ cluster.Old kind key := by
  obtain ⟨object, hobject, hversion⟩ := h
  simp only [Cluster.setObject] at hobject
  split at hobject
  · exact absurd hversion (ho object hobject)
  · exact ⟨‹_›, object, hobject, hversion⟩

/-- What a cached read returns is true of the current state, as far as it is about old objects and
about versions other than the old one. -/
structure Consistent (s : Server) : Prop where
  objects : ∀ cluster, s.MayRead cluster → ∀ kind key, s.current.Old kind key →
    cluster.objects kind key = s.current.objects kind key
  others : ∀ cluster, s.MayRead cluster → ∀ kind,
    withoutOldVersion (cluster.storedVersions kind) =
      withoutOldVersion (s.current.storedVersions kind)
  listed : ∀ cluster, s.MayRead cluster → ∀ kind,
    oldVersion ∈ s.current.storedVersions kind → oldVersion ∈ cluster.storedVersions kind

structure Later (s t : Server) : Prop where
  old : ∀ kind key, t.current.Old kind key → s.current.Old kind key
  versions : ∀ kind, t.current.storedVersions kind = s.current.storedVersions kind ∨
    t.current.storedVersions kind = withoutOldVersion (s.current.storedVersions kind)
  consistent : Consistent s → Consistent t

theorem Later.refl (s : Server) : Later s s :=
  ⟨fun _ _ h => h, fun _ => .inl rfl, id⟩

theorem Later.trans {u : Server} (hst : Later s t) (htu : Later t u) : Later s u where
  old kind key h := hst.old kind key (htu.old kind key h)
  versions kind := by
    rcases htu.versions kind with hu | hu <;> rcases hst.versions kind with ht | ht <;>
      simp [hu, ht]
  consistent h := htu.consistent (hst.consistent h)

theorem Later.others (h : Later s t) (kind : Kind) :
    withoutOldVersion (t.current.storedVersions kind) =
      withoutOldVersion (s.current.storedVersions kind) := by
  rcases h.versions kind with hversions | hversions <;> simp [hversions]

theorem Later.listed (h : Later s t) {kind : Kind}
    (hlisted : oldVersion ∈ t.current.storedVersions kind) :
    oldVersion ∈ s.current.storedVersions kind := by
  rcases h.versions kind with hversions | hversions
  · rwa [← hversions]
  · rw [hversions] at hlisted
    exact absurd hlisted (oldVersion_notMem_withoutOldVersion _)

theorem later_change (hobjects : ∀ kind key, cluster.Old kind key →
      cluster.objects kind key = s.current.objects kind key)
    (hversions : ∀ kind, cluster.storedVersions kind = s.current.storedVersions kind ∨
      cluster.storedVersions kind = withoutOldVersion (s.current.storedVersions kind)) :
    Later s (s.change cluster) := by
  have hold : ∀ kind key, cluster.Old kind key → s.current.Old kind key := by
    intro kind key hcluster
    obtain ⟨o, ho, hversion⟩ := hcluster
    exact ⟨o, by rw [← hobjects kind key ⟨o, ho, hversion⟩, ho], hversion⟩
  -- a readable state is the new one, or was readable before
  have hread : ∀ {read}, (s.change cluster).MayRead read → read = cluster ∨ s.MayRead read := by
    rintro read (hread | hread)
    · exact .inl hread
    · exact .inr (List.mem_cons.mp hread)
  refine ⟨hold, hversions, fun hs => ⟨fun read hmay kind key hcluster => ?_,
    fun read hmay kind => ?_, fun read hmay kind hlisted => ?_⟩⟩
  · rcases hread hmay with rfl | hmay
    · rfl
    · rw [hs.objects read hmay kind key (hold kind key hcluster)]
      exact (hobjects kind key hcluster).symm
  · rcases hread hmay with rfl | hmay
    · rfl
    · rw [hs.others read hmay kind]
      rcases hversions kind with h | h <;> simp [Server.change, h]
  · rcases hread hmay with rfl | hmay
    · exact hlisted
    · refine hs.listed read hmay kind ?_
      rcases hversions kind with h | h
      · rwa [← h]
      · rw [show (s.change cluster).current.storedVersions kind = _ from h] at hlisted
        exact absurd hlisted (oldVersion_notMem_withoutOldVersion _)

theorem later_setObject {o : Option StoredObject}
    (ho : ∀ object, o = some object → object.version ≠ oldVersion) :
    Later s (s.change (s.current.setObject kind key o)) := by
  refine later_change (fun k n hold => ?_) fun _ => .inl rfl
  obtain ⟨hother, -⟩ := old_setObject ho hold
  simp only [Cluster.setObject, if_neg hother]

theorem storageVersion_ne_oldVersion {object : StoredObject} {resourceVersion : Nat}
    (h : some (StoredObject.mk storageVersion resourceVersion) = some object) :
    object.version ≠ oldVersion := by
  cases h
  exact (by decide : storageVersion ≠ oldVersion)

theorem later_of_acts {a : UserAction} (h : Acts s a t) : Later s t := by
  cases h with
  | create | update => exact later_setObject fun _ => storageVersion_ne_oldVersion
  | delete => exact later_setObject nofun

end Time

/-- The migrator removes the old version of a kind only if no object has it. -/
def migration : Contract Server where
  Later := Later
  Guarantee s t := Later s t ∧ ∀ kind, oldVersion ∈ s.current.storedVersions kind →
    oldVersion ∉ t.current.storedVersions kind → ∀ key, ¬ s.current.Old kind key
  refl := Later.refl
  trans := Later.trans
  later h := h.1

section Requests

variable {targetNamespace : String} {s t : Server} {kind : Kind}

theorem guarantee_refl (s : Server) : migration.Guarantee s s :=
  ⟨Later.refl s, fun _ hlisted hcleared => absurd hlisted hcleared⟩

theorem crdName_injective : Function.Injective crdName := by
  intro k k' h
  revert h
  cases k <;> cases k' <;> decide

theorem serve_getCRD {name : String} {x : Except ApiError (List String)}
    (h : Serve targetNamespace s (.getCRD name) x t) :
    t = s ∧ ∀ versions, x = .ok versions →
      ∃ kind cluster, crdName kind = name ∧ s.MayRead cluster ∧
        versions = cluster.storedVersions kind := by
  cases h with
  | getCRD kind cluster hread =>
    refine ⟨rfl, ?_⟩
    rintro versions ⟨⟩
    exact ⟨kind, cluster, rfl, hread, rfl⟩
  | getCRDFails => exact ⟨rfl, nofun⟩

theorem serve_patch {name : String} {versions : List String} {x : Except ApiError Unit}
    (h : Serve targetNamespace s (.patchStoredVersions name versions) x t) :
    (t = s ∧ x ≠ .ok ()) ∨ ∃ kind, crdName kind = name ∧
      t = s.change (s.current.setStoredVersions kind versions) := by
  cases h with
  | patchStoredVersions => exact .inr ⟨_, rfl, rfl⟩
  | patchFails => exact .inl ⟨rfl, nofun⟩

structure Reads (kind : Kind) (versions : List String) (s : Server) : Prop where
  others : withoutOldVersion versions = withoutOldVersion (s.current.storedVersions kind)
  listed : oldVersion ∈ s.current.storedVersions kind → oldVersion ∈ versions

theorem reads_stable (kind : Kind) (versions : List String) :
    migration.Stable (Reads kind versions) := fun _ _ hst h =>
  ⟨h.others.trans (Later.others hst kind).symm, fun hlisted => h.listed (Later.listed hst hlisted)⟩

theorem consistent_stable : migration.Stable Consistent := fun _ _ hst => Later.consistent hst

theorem keeps_getCRD (kind : Kind) (hs : Consistent s) :
    migration.KeepsE (Serve targetNamespace) (Reads kind) (getCRD (crdName kind)) s := by
  have hrequest : migration.KeepsE (Serve targetNamespace)
      (fun x t => ∀ versions, x = .ok versions → Reads kind versions t)
      (request (.getCRD (crdName kind))) s := by
    refine keepsE_lift (keeps_request ?_ fun t hst x u hserve => ?_)
    · exact fun x s t hst h versions hx => reads_stable kind versions s t hst (h versions hx)
    · obtain ⟨rfl, hread⟩ := serve_getCRD hserve
      refine ⟨guarantee_refl _, fun versions hx => ?_⟩
      obtain ⟨kind', cluster, hname, hmay, rfl⟩ := hread versions hx
      cases crdName_injective hname
      have ht : Consistent u := consistent_stable s u hst hs
      exact ⟨ht.others cluster hmay kind, ht.listed cluster hmay kind⟩
  refine hrequest.bind fun x t _ hx => ?_
  cases x with
  | error err => exact keepsE_throw _
  | ok versions => exact keepsE_pure (reads_stable kind versions) (hx versions rfl)

def Migrated (kind : Kind) (s : Server) : Prop := ∀ key, ¬ s.current.Old kind key

theorem migrated_stable (kind : Kind) : migration.Stable (Migrated kind) :=
  fun _ _ hst h key hold => h key (Later.old hst kind key hold)

def Cleared (kind : Kind) (s : Server) : Prop := oldVersion ∉ s.current.storedVersions kind

theorem cleared_stable (kind : Kind) : migration.Stable (Cleared kind) :=
  fun _ _ hst h hlisted => h (Later.listed hst hlisted)

theorem keeps_needsMigration (kind : Kind) (hs : Consistent s) :
    migration.KeepsE (Serve targetNamespace) (fun needed t => needed = false → Cleared kind t)
      (needsMigration (crdName kind)) s := by
  refine (keeps_getCRD kind hs).bind fun versions t _ hread => keepsE_pure ?_ ?_
  · exact fun s t hst h hneeded => cleared_stable kind s t hst (h hneeded)
  · exact fun hneeded hlisted => of_decide_eq_false hneeded (hread.listed hlisted)

theorem storedVersions_setStoredVersions (cluster : Cluster) (kind k : Kind)
    (versions : List String) :
    (cluster.setStoredVersions kind versions).storedVersions k =
      if k = kind then versions else cluster.storedVersions k := by
  simp only [Cluster.setStoredVersions, Function.update_apply]

theorem guarantee_patch {versions : List String} (hread : Reads kind versions s)
    (hmigrated : Migrated kind s) :
    migration.Guarantee s
      (s.change (s.current.setStoredVersions kind (withoutOldVersion versions))) := by
  refine ⟨later_change (fun _ _ _ => rfl) fun k => ?_, fun k hlisted hcleared => ?_⟩
  · rw [storedVersions_setStoredVersions]
    split
    · subst k
      exact .inr hread.others
    · exact .inl rfl
  · by_cases hk : k = kind
    · subst k
      exact hmigrated
    · refine absurd hlisted ?_
      simpa [Server.change, storedVersions_setStoredVersions, hk] using hcleared

theorem keeps_clearStoredVersion (kind : Kind) (hs : Consistent s) (hmigrated : Migrated kind s) :
    migration.KeepsE (Serve targetNamespace) (fun _ => Cleared kind)
      (clearStoredVersion (crdName kind)) s := by
  refine (keeps_getCRD kind hs).bind fun versions t hst hread => ?_
  have ht : Migrated kind t := migrated_stable kind s t hst hmigrated
  dsimp only
  split
  · rename_i hlength
    refine keepsE_pure (cleared_stable kind) fun hlisted => ?_
    have hself : withoutOldVersion versions = versions :=
      List.filter_sublist.eq_of_length hlength
    rw [← hself] at hread
    exact oldVersion_notMem_withoutOldVersion _ (hread.listed hlisted)
  · have hrequest : migration.KeepsE (Serve targetNamespace)
        (fun x u => x = .ok () → Cleared kind u)
        (request (.patchStoredVersions (crdName kind) (withoutOldVersion versions))) t := by
      refine keepsE_lift (keeps_request ?_ fun u htu x v hserve => ?_)
      · exact fun x s t hst h hx => cleared_stable kind s t hst (h hx)
      · rcases serve_patch hserve with ⟨rfl, hx⟩ | ⟨kind', hname, rfl⟩
        · exact ⟨guarantee_refl _, fun hok => absurd hok hx⟩
        · cases crdName_injective hname
          refine ⟨guarantee_patch (reads_stable kind versions t u htu hread)
            (migrated_stable kind t u htu ht), fun _ => ?_⟩
          simp [Cleared, Server.change, storedVersions_setStoredVersions,
            oldVersion_notMem_withoutOldVersion]
    refine hrequest.bind fun x u _ hx => ?_
    cases x with
    | error err => exact keepsE_throw _
    | ok _ => exact keepsE_pure (cleared_stable kind) (hx rfl)

theorem serve_update {item : Item} {x : Except ApiError Unit}
    (h : Serve targetNamespace s (.update kind item) x t) :
    migration.Guarantee s t ∧
      ((x = .ok () ∨ x = .error .notFound) → ¬ t.current.Old kind item.key) := by
  cases h with
  | update _ _ o resourceVersion =>
    refine ⟨⟨later_setObject fun _ => storageVersion_ne_oldVersion,
      fun _ hlisted hcleared => absurd hlisted hcleared⟩, fun _ hold => ?_⟩
    exact (old_setObject (fun _ => storageVersion_ne_oldVersion) hold).1 ⟨rfl, rfl⟩
  | updateFails _ _ err herr =>
    refine ⟨guarantee_refl s, ?_⟩
    rintro (hx | hx) ⟨o, ho, -⟩
    · cases hx
    · cases hx
      rw [herr rfl] at ho
      cases ho

theorem serve_list {x : Except ApiError (List Item)}
    (h : Serve targetNamespace s (.list kind) x t) :
    t = s ∧ ∀ items, x = .ok items →
      ∃ cluster, s.MayRead cluster ∧ Lists targetNamespace cluster kind items := by
  cases h with
  | list _ cluster items hread hlists =>
    refine ⟨rfl, ?_⟩
    rintro _ ⟨⟩
    exact ⟨cluster, hread, hlists⟩
  | listFails => exact ⟨rfl, nofun⟩

theorem notOld_stable (kind : Kind) (key : ObjectKey) :
    migration.Stable fun s => ¬ s.current.Old kind key :=
  fun _ _ hst h hold => h (Later.old hst kind key hold)

theorem keeps_migrateObject (kind : Kind) (pre : String) (item : Item) (s : Server) :
    migration.KeepsE (Serve targetNamespace) (fun _ t => ¬ t.current.Old kind item.key)
      (migrateObject kind pre item) s := by
  have hrequest : migration.KeepsE (Serve targetNamespace)
      (fun x t => (x = .ok () ∨ x = .error .notFound) → ¬ t.current.Old kind item.key)
      (request (.update kind item)) s :=
    keepsE_lift (keeps_request
      (fun _ s t hst h hx => notOld_stable kind item.key s t hst (h hx))
      fun _ _ _ _ hserve => serve_update hserve)
  refine hrequest.bind fun x t _ hx => ?_
  cases x with
  | error err =>
    dsimp only
    split
    · rename_i herr
      have hnotFound : err = .notFound := by
        cases err <;> simp [ApiError.isNotFound] at herr ⊢
      exact keepsE_pure (notOld_stable kind item.key) (hx (.inr (by rw [hnotFound])))
    · exact keepsE_throw _
  | ok _ => exact keepsE_pure (notOld_stable kind item.key) (hx (.inl rfl))

/-- The cache has all objects that are stored in the old version. -/
def AllCached (targetNamespace : String) (s : Server) : Prop :=
  ∀ key, s.current.Old .telemetry key → key.namespace = targetNamespace

theorem allCached_stable : migration.Stable (AllCached targetNamespace) :=
  fun _ _ hst h key hold => h key (Later.old hst .telemetry key hold)

/-- The items of a list have every object that is still stored in the old version. -/
def Covers (kind : Kind) (items : List Item) (s : Server) : Prop :=
  ∀ key, s.current.Old kind key → ∃ item ∈ items, item.key = key

theorem covers_stable (kind : Kind) (items : List Item) : migration.Stable (Covers kind items) :=
  fun _ _ hst h key hold => h key (Later.old hst kind key hold)

theorem covers_of_lists {cluster : Cluster} {items : List Item} (hs : Consistent s)
    (hcached : AllCached targetNamespace s) (hread : s.MayRead cluster)
    (hlists : Lists targetNamespace cluster kind items) : Covers kind items s := by
  intro key hold
  obtain ⟨o, ho, -⟩ := id hold
  have hcluster : cluster.objects kind key = some o :=
    (hs.objects cluster hread kind key hold).trans ho
  refine ⟨⟨key, o.resourceVersion⟩, (hlists _).mpr ⟨?_, o, hcluster, rfl⟩, rfl⟩
  rintro rfl
  exact hcached key hold

theorem keeps_migrateObjects (kind : Kind) (plural : String) (describe : Item → String)
    (hs : Consistent s) (hcached : AllCached targetNamespace s) :
    migration.KeepsE (Serve targetNamespace) (fun _ => Migrated kind)
      (migrateObjects kind plural describe) s := by
  have hrequest : migration.KeepsE (Serve targetNamespace)
      (fun x t => ∀ items, x = .ok items → Covers kind items t) (request (.list kind)) s := by
    refine keepsE_lift (keeps_request ?_ fun t hst x u hserve => ?_)
    · exact fun x s t hst h items hx => covers_stable kind items s t hst (h items hx)
    · obtain ⟨rfl, hread⟩ := serve_list hserve
      refine ⟨guarantee_refl _, fun items hx => ?_⟩
      obtain ⟨cluster, hmay, hlists⟩ := hread items hx
      exact covers_of_lists (consistent_stable s u hst hs) (allCached_stable s u hst hcached) hmay
        hlists
  refine hrequest.bind fun x t _ hx => ?_
  cases x with
  | error err => exact keepsE_throw _
  | ok items =>
    -- every listed object is migrated or gone, and the others are not old
    refine Keeps.imp (Keeps.frame (keepsE_forM
      (fun item : Item => notOld_stable kind item.key)
      fun item _ u _ => keeps_migrateObject kind _ item u)) fun r u hu a ha key hold => ?_
    obtain ⟨item, hitem, rfl⟩ := covers_stable kind items t u hu.1 (hx items rfl) key hold
    exact hu.2 a ha item hitem hold

def kinds : List Kind := [.logPipeline, .metricPipeline, .tracePipeline, .telemetry]

theorem mem_kinds (kind : Kind) : kind ∈ kinds := by
  cases kind <;> decide

theorem allCRDs_eq : pipelineCRDs ++ [telemetryCRD] = kinds.map crdName := rfl

theorem keeps_anyNeedsMigration (ks : List Kind) (hs : Consistent s) :
    migration.KeepsE (Serve targetNamespace)
      (fun needed t => needed = false → ∀ kind ∈ ks, Cleared kind t)
      (anyNeedsMigration (ks.map crdName)) s := by
  have hstable : ∀ (needed : Bool) (ks : List Kind),
      migration.Stable fun t => needed = false → ∀ kind ∈ ks, Cleared kind t :=
    fun _ _ s t hst h hneeded kind hmem => cleared_stable kind s t hst (h hneeded kind hmem)
  induction ks generalizing s with
  | nil => exact keepsE_pure (hstable false []) fun _ => nofun
  | cons kind ks ih =>
    refine ((keeps_needsMigration kind hs).mapErr _).bind fun needed t hst hneeded => ?_
    refine (ih (consistent_stable s t hst hs)).bind fun others u htu hothers => ?_
    refine keepsE_pure (hstable _ _) fun hnone k hk => ?_
    obtain ⟨hnot, hnotOthers⟩ := Bool.or_eq_false_iff.mp hnone
    rcases List.mem_cons.mp hk with rfl | hk
    · exact cleared_stable k t u htu (hneeded hnot)
    · exact hothers hnotOthers k hk

def Clears (name : String) (s : Server) : Prop := ∀ kind, crdName kind = name → Cleared kind s

theorem clears_stable (name : String) : migration.Stable (Clears name) :=
  fun s t hst h kind hname => cleared_stable kind s t hst (h kind hname)

theorem keeps_clearStoredVersions (hs : Consistent s) (hmigrated : ∀ kind, Migrated kind s) :
    migration.KeepsE (Serve targetNamespace) (fun _ t => ∀ kind, Cleared kind t)
      (forM (pipelineCRDs ++ [telemetryCRD]) fun crdName =>
        mapErr (.errorf ("failed to clear stored version for " ++ crdName ++ ": ") · "")
          (clearStoredVersion crdName)) s := by
  refine Keeps.imp (keepsE_forM clears_stable fun name hname t hst => ?_)
    fun r t hr a ha kind => hr a ha (crdName kind) ?_ kind rfl
  · rw [allCRDs_eq] at hname
    obtain ⟨kind, -, rfl⟩ := List.mem_map.mp hname
    have hclear : migration.KeepsE (Serve targetNamespace) (fun _ => Cleared kind)
        (clearStoredVersion (crdName kind)) t :=
      keeps_clearStoredVersion kind (consistent_stable s t hst hs)
        (migrated_stable kind s t hst (hmigrated kind))
    refine Keeps.imp (hclear.mapErr _) fun r u hr a ha k hk => ?_
    rw [crdName_injective hk]
    exact hr a ha
  · rw [allCRDs_eq]
    exact List.mem_map_of_mem (mem_kinds kind)

theorem keeps_migratePipelinesIfNeeded (hs : Consistent s) (hcached : AllCached targetNamespace s) :
    migration.KeepsE (Serve targetNamespace) (fun _ t => ∀ kind, Cleared kind t)
      migratePipelinesIfNeeded s := by
  have hstable : migration.Stable fun t => ∀ kind, Cleared kind t :=
    fun s t hst h kind => cleared_stable kind s t hst (h kind)
  refine (keeps_anyNeedsMigration kinds hs).bind fun needed t hst hneeded => ?_
  cases needed with
  | false => exact keepsE_pure hstable fun kind => hneeded rfl kind (mem_kinds kind)
  | true =>
    have hmigrate : ∀ {u} (kind : Kind) (pre plural : String) (describe : Item → String),
        migration.Later s u → migration.KeepsE (Serve targetNamespace) (fun _ => Migrated kind)
          (mapErr (.errorf pre · "") (migrateObjects kind plural describe)) u := by
      intro u kind pre plural describe hsu
      exact (keeps_migrateObjects kind plural describe (consistent_stable s u hsu hs)
        (allCached_stable s u hsu hcached)).mapErr _
    refine (hmigrate .logPipeline _ _ _ hst).bind fun _ t₁ h₁ hlog => ?_
    refine (hmigrate .metricPipeline _ _ _ (migration.trans hst h₁)).bind fun _ t₂ h₂ hmetric => ?_
    refine (hmigrate .tracePipeline _ _ _ (migration.trans hst (migration.trans h₁ h₂))).bind
      fun _ t₃ h₃ htrace => ?_
    refine (hmigrate .telemetry _ _ _
      (migration.trans hst (migration.trans h₁ (migration.trans h₂ h₃)))).bind
      fun _ t₄ h₄ htelemetry => ?_
    have hlater : migration.Later s t₄ := migration.trans hst
      (migration.trans h₁ (migration.trans h₂ (migration.trans h₃ h₄)))
    have hmigrated : ∀ kind, Migrated kind t₄ := by
      intro kind
      cases kind with
      | logPipeline =>
        exact migrated_stable _ t₁ t₄ (migration.trans h₂ (migration.trans h₃ h₄)) hlog
      | metricPipeline => exact migrated_stable _ t₂ t₄ (migration.trans h₃ h₄) hmetric
      | tracePipeline => exact migrated_stable _ t₃ t₄ h₄ htrace
      | telemetry => exact htelemetry
    exact keeps_clearStoredVersions (consistent_stable s t₄ hlater hs) hmigrated

theorem keeps_start (attempts : Nat) (hs : Consistent s) (hcached : AllCached targetNamespace s) :
    migration.Keeps (Serve targetNamespace)
      (fun outcome t => outcome = .completed → ∀ kind, Cleared kind t) (start attempts) s := by
  induction attempts generalizing s with
  | zero => exact fun t _ => nofun
  | succ attempts ih =>
    refine Keeps.bind (keeps_migratePipelinesIfNeeded hs hcached) fun r t hst hr => ?_
    cases r with
    | ok _ => exact fun u htu _ kind => cleared_stable kind t u htu (hr _ rfl kind)
    | error err =>
      have hwait : migration.Keeps (Serve targetNamespace) (fun _ _ => True)
          (Prog.request .waitForRetry) t := by
        refine keeps_request (fun _ _ _ _ _ => trivial) fun u _ x v hserve => ?_
        cases hserve
        exact ⟨guarantee_refl _, trivial⟩
      refine hwait.bind fun cancelled u htu _ => ?_
      cases cancelled with
      | true => exact fun v _ => nofun
      | false =>
        have hsu : migration.Later s u := migration.trans hst htu
        exact ih (consistent_stable s u hsu hs) (allCached_stable s u hsu hcached)

end Requests

section Runs

variable {ι : Type} [DecidableEq ι]

abbrev MigrationSystem (ι : Type) := System Req Resp Server ι Outcome

abbrev MigrationEvent (ι : Type) := Event Server (UserAction ⊕ ι)

/-- The migrators that are started one after the other or at the same time, each with its number of
attempts. -/
def startAll (cluster : Cluster) (attempts : ι → Nat) : MigrationSystem ι where
  server := { current := cluster }
  procs i := start (attempts i)

structure Safe (trace : List (MigrationEvent ι)) (s : MigrationSystem ι) : Prop where
  removed : ∀ e ∈ trace, ∀ kind, oldVersion ∈ e.before.current.storedVersions kind →
    oldVersion ∉ e.after.current.storedVersions kind →
      ∀ key, ¬ e.before.current.Old kind key ∧ ¬ e.after.current.Old kind key
  others : ∀ e ∈ trace, ∀ kind, withoutOldVersion (e.after.current.storedVersions kind) =
    withoutOldVersion (e.before.current.storedVersions kind)
  completed : ∀ i, s.procs i = .done .completed →
    ∀ kind, oldVersion ∉ s.server.current.storedVersions kind

theorem consistent_start (cluster : Cluster) : Consistent { current := cluster } := by
  have hread : ∀ {read}, Server.MayRead { current := cluster } read → read = cluster := by
    rintro read (hread | hread)
    · exact hread
    · cases hread
  refine ⟨fun read hmay => ?_, fun read hmay => ?_, fun read hmay => ?_⟩ <;> rw [hread hmay]
  · exact fun _ _ _ => rfl
  · exact fun _ => rfl
  · exact fun _ => id

theorem acts_storedVersions {s t : Server} {a : UserAction} (h : Acts s a t) (kind : Kind) :
    t.current.storedVersions kind = s.current.storedVersions kind := by
  cases h <;> rfl

/-- If the cache has every Telemetry object that is stored in the old version, the old version is
removed from a CRD only when no object has it, and from all of them when the migrator is done. -/
theorem migration_safe (targetNamespace : String) (attempts : ι → Nat) (cluster : Cluster)
    (hcached : ∀ key, cluster.Old .telemetry key → key.namespace = targetNamespace)
    (trace : List (MigrationEvent ι)) (s : MigrationSystem ι)
    (hrun : OpenRun Acts (Serve targetNamespace) (startAll cluster attempts) trace s) :
    Safe trace s := by
  obtain ⟨hkeeps, htrace⟩ := keeps_of_openRun (c := migration) hrun
    (fun _ _ _ hact => later_of_acts hact)
    fun i => keeps_start (attempts i) (consistent_start cluster) hcached
  have hlater : ∀ e ∈ trace, Later e.before e.after := by
    intro e he
    rcases htrace e he with ⟨a, hact⟩ | hguarantee
    · exact later_of_acts hact
    · exact hguarantee.1
  refine ⟨fun e he kind hlisted hcleared key => ?_, fun e he => (hlater e he).others,
    fun i hdone kind => ?_⟩
  · rcases htrace e he with ⟨a, hact⟩ | hguarantee
    · exact absurd hlisted (by rwa [acts_storedVersions hact] at hcleared)
    · have hnone := hguarantee.2 kind hlisted hcleared key
      exact ⟨hnone, fun hold => hnone (hguarantee.1.old kind key hold)⟩
  · have hprogram := hkeeps i
    rw [hdone] at hprogram
    exact hprogram s.server (Later.refl _) rfl kind

def answer (items : Kind → List Item) (s : Server) : (r : Req) → Resp r × Server
  | .getCRD name =>
    match kinds.find? (crdName · = name) with
    | none => (.error .notFound, s)
    | some kind => (.ok (s.current.storedVersions kind), s)
  | .list kind => (.ok (items kind), s)
  | .update kind item =>
    match s.current.objects kind item.key with
    | none => (.error .notFound, s)
    | some o =>
      if o.resourceVersion = item.resourceVersion then
        (.ok (), s.change (s.current.setObject kind item.key
          (some ⟨storageVersion, o.resourceVersion + 1⟩)))
      else (.error .conflict, s)
  | .patchStoredVersions name versions =>
    match kinds.find? (crdName · = name) with
    | none => (.error .notFound, s)
    | some kind => (.ok (), s.change (s.current.setStoredVersions kind versions))
  | .waitForRetry => (true, s)

theorem mayRead_change {s : Server} {cluster new : Cluster} (h : s.MayRead cluster) :
    (s.change new).MayRead cluster :=
  .inr (List.mem_cons.mpr h)

theorem crdName_of_find {name : String} {kind : Kind}
    (h : kinds.find? (crdName · = name) = some kind) : crdName kind = name := by
  simpa using List.find?_some h

theorem serve_answer {targetNamespace : String} {cluster : Cluster} {items : Kind → List Item}
    (hlists : ∀ kind, Lists targetNamespace cluster kind (items kind)) (s : Server) (r : Req)
    (hread : s.MayRead cluster) :
    Serve targetNamespace s r (answer items s r).1 (answer items s r).2 ∧
      (answer items s r).2.MayRead cluster := by
  cases r with
  | getCRD name =>
    cases hfind : kinds.find? (crdName · = name) with
    | none =>
      simp only [answer, hfind]
      exact ⟨.getCRDFails s name .notFound, hread⟩
    | some kind =>
      simp only [answer, hfind]
      rw [← crdName_of_find hfind]
      exact ⟨.getCRD s kind s.current (.inl rfl), hread⟩
  | list kind => exact ⟨.list s kind cluster (items kind) hread (hlists kind), hread⟩
  | update kind item =>
    cases hobject : s.current.objects kind item.key with
    | none =>
      simp only [answer, hobject]
      exact ⟨.updateFails s kind item .notFound fun _ => hobject, hread⟩
    | some o =>
      simp only [answer, hobject]
      split
      · exact ⟨.update s kind item o _ _ hobject ‹_› nofun, mayRead_change hread⟩
      · exact ⟨.updateFails s kind item .conflict nofun, hread⟩
  | patchStoredVersions name versions =>
    cases hfind : kinds.find? (crdName · = name) with
    | none =>
      simp only [answer, hfind]
      exact ⟨.patchFails s name versions .notFound, hread⟩
    | some kind =>
      simp only [answer, hfind]
      rw [← crdName_of_find hfind]
      exact ⟨.patchStoredVersions s kind versions _, mayRead_change hread⟩
  | waitForRetry => exact ⟨.waitForRetry s true, hread⟩

def oneTelemetry (ns : String) : Cluster where
  objects kind key :=
    if kind = .telemetry ∧ key = ⟨ns, "default"⟩ then some ⟨oldVersion, 7⟩ else none
  storedVersions _ := [oldVersion, storageVersion]

def telemetryItems (kind : Kind) : List Item :=
  if kind = .telemetry then [⟨⟨"kyma-system", "default"⟩, 7⟩] else []

theorem oneTelemetry_object {ns : String} {kind : Kind} {key : ObjectKey} {o : StoredObject}
    (h : (oneTelemetry ns).objects kind key = some o) :
    kind = .telemetry ∧ key = ⟨ns, "default"⟩ ∧ o = ⟨oldVersion, 7⟩ := by
  simp only [oneTelemetry] at h
  split at h
  · rename_i hkey
    cases h
    exact ⟨hkey.1, hkey.2, rfl⟩
  · cases h

theorem lists_telemetryItems (kind : Kind) :
    Lists "kyma-system" (oneTelemetry "kyma-system") kind (telemetryItems kind) := by
  rintro ⟨key, resourceVersion⟩
  constructor
  · intro hmem
    unfold telemetryItems at hmem
    split at hmem
    · subst kind
      cases List.mem_singleton.mp hmem
      exact ⟨fun _ => rfl, _, rfl, rfl⟩
    · cases hmem
  · rintro ⟨-, o, ho, hversion⟩
    obtain ⟨rfl, hkey, rfl⟩ := oneTelemetry_object ho
    cases hkey
    cases hversion
    decide

theorem lists_sandbox (kind : Kind) : Lists "kyma-system" (oneTelemetry "sandbox") kind [] := by
  rintro ⟨key, resourceVersion⟩
  refine iff_of_false nofun ?_
  rintro ⟨hcached, o, ho, -⟩
  obtain ⟨hkind, hkey, -⟩ := oneTelemetry_object ho
  cases hkey
  exact absurd (hcached hkind) (show "sandbox" ≠ "kyma-system" by decide)

/-- The run in which the default Telemetry of the target namespace is migrated. -/
theorem default_telemetry_migrated :
    ∃ trace s, OpenRun Acts (Serve "kyma-system")
        (startAll (oneTelemetry "kyma-system") fun _ : Unit => 1) trace s ∧
      s.procs () = .done .completed ∧ Safe trace s := by
  obtain ⟨trace, hrun⟩ := openRun_runFor (serve_answer lists_telemetryItems) 17 (i := ())
    (.refl (s := startAll (oneTelemetry "kyma-system") fun _ : Unit => 1)) (.inl rfl)
  refine ⟨trace, _, hrun, rfl,
    migration_safe "kyma-system" _ (oneTelemetry "kyma-system") ?_ trace _ hrun⟩
  rintro key ⟨o, ho, -⟩
  obtain ⟨-, rfl, -⟩ := oneTelemetry_object ho
  rfl

/-- The migrator clears the CRD while a Telemetry object of another namespace has the
old version. -/
theorem telemetry_left_behind :
    ∃ trace e s, OpenRun Acts (Serve "kyma-system")
        (startAll (oneTelemetry "sandbox") fun _ : Unit => 1) (trace ++ [e]) s ∧
      oldVersion ∈ e.before.current.storedVersions .telemetry ∧
      oldVersion ∉ e.after.current.storedVersions .telemetry ∧
      e.after.current.Old .telemetry ⟨"sandbox", "default"⟩ ∧
      s.procs () = .done .completed := by
  obtain ⟨trace, hrun⟩ := openRun_runFor (serve_answer lists_sandbox) 15 (i := ())
    (.refl (s := startAll (oneTelemetry "sandbox") fun _ : Unit => 1)) (.inl rfl)
  exact ⟨trace, _, _, hrun.tail (.answer (.answer (i := ()) rfl
      (.patchStoredVersions _ .telemetry _ (.ok ())))), by decide, by decide, ⟨_, rfl, rfl⟩, rfl⟩

end Runs

end TelemetryManager.StorageMigration
