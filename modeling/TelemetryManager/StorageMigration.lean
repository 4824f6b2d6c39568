import TelemetryManager.KubeClient
import TelemetryManager.Library.RelyGuarantee

/-! The migration of stored objects from `v1alpha1` to `v1beta1`.
The migrator rewrites every object that it can list and then removes `v1alpha1` from the stored
versions of the CRDs, while users go on to create, update and delete objects. It reads through the
cache of the manager, which may be behind and has the Telemetry objects of one namespace only. -/
namespace TelemetryManager.StorageMigration

open Interaction

inductive Kind where
  | logPipeline
  | metricPipeline
  | tracePipeline
  | telemetry
  deriving DecidableEq

def oldVersion : String := "v1alpha1"

def storageVersion : String := "v1beta1"

structure StoredObject where
  version : String
  resourceVersion : Nat

structure Cluster where
  objects : Kind → ObjectKey → Option StoredObject
  storedVersions : Kind → List String

/-- The object is still stored in the old version. -/
def Cluster.Old (cluster : Cluster) (kind : Kind) (key : ObjectKey) : Prop :=
  ∃ o, cluster.objects kind key = some o ∧ o.version = oldVersion

def Cluster.setObject (cluster : Cluster) (kind : Kind) (key : ObjectKey)
    (o : Option StoredObject) : Cluster :=
  { cluster with
    objects := fun k n => if k = kind ∧ n = key then o else cluster.objects k n }

def Cluster.setStoredVersions (cluster : Cluster) (kind : Kind)
    (versions : List String) : Cluster :=
  { cluster with
    storedVersions := Function.update cluster.storedVersions kind versions }

structure Server where
  current : Cluster
  past : List Cluster := []

def Server.change (s : Server) (cluster : Cluster) : Server := ⟨cluster, s.current :: s.past⟩

/-- A cached read may return an earlier state. -/
def Server.MayRead (s : Server) (cluster : Cluster) : Prop := cluster = s.current ∨ cluster ∈ s.past

def pipelineCRDs : List String :=
  ["logpipelines.telemetry.kyma-project.io", "metricpipelines.telemetry.kyma-project.io",
   "tracepipelines.telemetry.kyma-project.io"]

def telemetryCRD : String := "telemetries.operator.kyma-project.io"

/-- An object of a list, as far as the update sends it back. -/
structure Item where
  key : ObjectKey
  resourceVersion : Nat
  deriving DecidableEq

inductive Req where
  | getCRD (name : String)
  | list (kind : Kind)
  | update (kind : Kind) (item : Item)
  | patchStoredVersions (name : String) (versions : List String)
  | waitForRetry

/-- A CRD is read for its stored versions. Waiting ends with `true` if the context is done. -/
abbrev Resp : Req → Type
  | .getCRD _ => Except ApiError (List String)
  | .list _ => Except ApiError (List Item)
  | .update _ _ | .patchStoredVersions _ _ => Except ApiError Unit
  | .waitForRetry => Bool

abbrev Migration (α : Type) := ExceptT GoError (Prog Req Resp) α

def request (r : Req) : Migration (Resp r) := liftM (Prog.request r : Prog Req Resp (Resp r))

def wrap (pre : String) (err : ApiError) : GoError := .errorf pre (.api err) ""

def getCRD (crdName : String) : Migration (List String) := do
  match ← request (.getCRD crdName) with
  | .error err => throw (wrap ("failed to get CRD " ++ crdName ++ ": ") err)
  | .ok versions => pure versions

def needsMigration (crdName : String) : Migration Bool := do
  let storedVersions ← getCRD crdName
  pure (oldVersion ∈ storedVersions)

/-- An object that is gone needs no migration. -/
def migrateObject (kind : Kind) (pre : String) (item : Item) : Migration PUnit := do
  match ← request (.update kind item) with
  | .error err => if err.isNotFound then pure () else throw (wrap pre err)
  | .ok () => pure ()

def migrateObjects (kind : Kind) (plural : String)
    (describe : Item → String) : Migration PUnit := do
  match ← request (.list kind) with
  | .error err => throw (wrap ("failed to list " ++ plural ++ ": ") err)
  | .ok items =>
    forM items fun item => migrateObject kind ("failed to migrate " ++ describe item ++ ": ") item

def migrateLogPipelines : Migration PUnit :=
  migrateObjects .logPipeline "LogPipelines" fun item => "LogPipeline " ++ item.key.name

def migrateMetricPipelines : Migration PUnit :=
  migrateObjects .metricPipeline "MetricPipelines" fun item => "MetricPipeline " ++ item.key.name

def migrateTracePipelines : Migration PUnit :=
  migrateObjects .tracePipeline "TracePipelines" fun item => "TracePipeline " ++ item.key.name

def migrateTelemetries : Migration PUnit :=
  migrateObjects .telemetry "Telemetries" fun item =>
    "Telemetry " ++ item.key.namespace ++ "/" ++ item.key.name

def withoutOldVersion (versions : List String) : List String := versions.filter (· ≠ oldVersion)

def clearStoredVersion (crdName : String) : Migration PUnit := do
  let storedVersions ← getCRD crdName
  let newStoredVersions := withoutOldVersion storedVersions
  if newStoredVersions.length = storedVersions.length then pure ()
  else
    match ← request (.patchStoredVersions crdName newStoredVersions) with
    | .error err => throw (wrap ("failed to patch CRD status for " ++ crdName ++ ": ") err)
    | .ok () => pure ()

/-- The check of one CRD after the other; each is checked, also if one needs the migration. -/
def anyNeedsMigration : List String → Migration Bool
  | [] => pure false
  | crdName :: rest => do
    let needed ← mapErr (.errorf ("failed to check migration status for " ++ crdName ++ ": ") · "")
      (needsMigration crdName)
    let others ← anyNeedsMigration rest
    pure (needed || others)

def migratePipelinesIfNeeded : Migration PUnit := do
  let allCRDs := pipelineCRDs ++ [telemetryCRD]
  if !(← anyNeedsMigration allCRDs) then pure ()
  else
    mapErr (.errorf "failed to migrate LogPipelines: " · "") migrateLogPipelines
    mapErr (.errorf "failed to migrate MetricPipelines: " · "") migrateMetricPipelines
    mapErr (.errorf "failed to migrate TracePipelines: " · "") migrateTracePipelines
    mapErr (.errorf "failed to migrate Telemetries: " · "") migrateTelemetries
    forM allCRDs fun crdName =>
      mapErr (.errorf ("failed to clear stored version for " ++ crdName ++ ": ") · "")
        (clearStoredVersion crdName)

/-- How the migrator ended: it has no result for its caller, but it logs which one it was. -/
inductive Outcome where
  | completed
  | stopped

/-- The loop of the migrator, for at most so many attempts. It ends without success if its context
is done. -/
def start : Nat → Prog Req Resp Outcome
  | 0 => .done .stopped
  | attempts + 1 => do
    match ← migratePipelinesIfNeeded.run with
    | .ok () => pure .completed
    | .error _ => if ← Prog.request .waitForRetry then pure .stopped else start attempts

def crdName : Kind → String
  | .logPipeline => "logpipelines.telemetry.kyma-project.io"
  | .metricPipeline => "metricpipelines.telemetry.kyma-project.io"
  | .tracePipeline => "tracepipelines.telemetry.kyma-project.io"
  | .telemetry => telemetryCRD

/-- The objects in the cache of the manager: Telemetry objects of the target namespace, and all
pipelines. -/
def Cached (targetNamespace : String) (kind : Kind) (key : ObjectKey) : Prop :=
  kind = .telemetry → key.namespace = targetNamespace

def Lists (targetNamespace : String) (cluster : Cluster) (kind : Kind) (items : List Item) : Prop :=
  ∀ item, item ∈ items ↔ Cached targetNamespace kind item.key ∧
    ∃ o, cluster.objects kind item.key = some o ∧ o.resourceVersion = item.resourceVersion

/-- The answers of the API server and of the cache. A request may fail with or without an effect. An
update is answered with "not found" only if there is no such object. -/
inductive Serve (targetNamespace : String) : Server → (r : Req) → Resp r → Server → Prop where
  | getCRD (s : Server) (kind : Kind) (cluster : Cluster) (hread : s.MayRead cluster) :
      Serve targetNamespace s (.getCRD (crdName kind)) (.ok (cluster.storedVersions kind)) s
  | getCRDFails (s : Server) (name : String) (err : ApiError) :
      Serve targetNamespace s (.getCRD name) (.error err) s
  | list (s : Server) (kind : Kind) (cluster : Cluster) (items : List Item)
      (hread : s.MayRead cluster) (hlists : Lists targetNamespace cluster kind items) :
      Serve targetNamespace s (.list kind) (.ok items) s
  | listFails (s : Server) (kind : Kind) (err : ApiError) :
      Serve targetNamespace s (.list kind) (.error err) s
  | update (s : Server) (kind : Kind) (item : Item) (o : StoredObject) (resourceVersion : Nat)
      (answer : Except ApiError Unit) (hcurrent : s.current.objects kind item.key = some o)
      (hversion : o.resourceVersion = item.resourceVersion)
      (hanswer : answer ≠ .error .notFound) :
      Serve targetNamespace s (.update kind item) answer
        (s.change (s.current.setObject kind item.key (some ⟨storageVersion, resourceVersion⟩)))
  | updateFails (s : Server) (kind : Kind) (item : Item) (err : ApiError)
      (herr : err = .notFound → s.current.objects kind item.key = none) :
      Serve targetNamespace s (.update kind item) (.error err) s
  | patchStoredVersions (s : Server) (kind : Kind) (versions : List String)
      (answer : Except ApiError Unit) :
      Serve targetNamespace s (.patchStoredVersions (crdName kind) versions) answer
        (s.change (s.current.setStoredVersions kind versions))
  | patchFails (s : Server) (name : String) (versions : List String) (err : ApiError) :
      Serve targetNamespace s (.patchStoredVersions name versions) (.error err) s
  | waitForRetry (s : Server) (cancelled : Bool) :
      Serve targetNamespace s .waitForRetry cancelled s

inductive UserAction where
  | create (kind : Kind) (key : ObjectKey)
  | update (kind : Kind) (key : ObjectKey)
  | delete (kind : Kind) (key : ObjectKey)

inductive Acts : Server → UserAction → Server → Prop where
  | create (s : Server) (kind : Kind) (key : ObjectKey) (resourceVersion : Nat)
      (hnone : s.current.objects kind key = none) : Acts s (.create kind key)
        (s.change (s.current.setObject kind key (some ⟨storageVersion, resourceVersion⟩)))
  | update (s : Server) (kind : Kind) (key : ObjectKey) (o : StoredObject) (resourceVersion : Nat)
      (hsome : s.current.objects kind key = some o) : Acts s (.update kind key)
        (s.change (s.current.setObject kind key (some ⟨storageVersion, resourceVersion⟩)))
  | delete (s : Server) (kind : Kind) (key : ObjectKey) (o : StoredObject)
      (hsome : s.current.objects kind key = some o) : Acts s (.delete kind key)
        (s.change (s.current.setObject kind key none))

end TelemetryManager.StorageMigration
