import TelemetryManager.Library.Text
import TelemetryManager.KubeClient

/-! The pipeline-count lock: a ConfigMap whose owner references are the pipelines that hold it. -/
namespace TelemetryManager.ResourceLock

open Interaction

def maxPipelineCount : Int := 5

def unlimitedPipelineCount : Int := -1

structure Checker where
  lockName : ObjectKey
  maxOwners : Int

def newChecker (lockName : ObjectKey) (maxOwners : Int) (suffix : String) : Checker :=
  let dashed := "-" ++ suffix
  if dashed.toList.isSuffixOf lockName.name.toList then ⟨lockName, maxOwners⟩
  else ⟨{ lockName with name := lockName.name ++ dashed }, maxOwners⟩

def newLocker (lockName : ObjectKey) (maxOwners : Int) : Checker :=
  newChecker lockName maxOwners "lock"

/-- Whether the lock names this very owner, by name and UID. -/
def holds (owner : OwnerReference) (refs : List OwnerReference) : Bool :=
  refs.any fun ref => ref.name == owner.name && ref.uid == owner.uid

/-- `controllerutil.SetOwnerReference`: replace the first reference of the same group, kind and
name, or append. It succeeds for every cluster-scoped owner of a registered kind. -/
def setOwnerReference (owner : OwnerReference) : List OwnerReference → List OwnerReference
  | [] => [owner]
  | ref :: refs =>
    if ref.kind = owner.kind ∧ ref.name = owner.name then owner :: refs
    else ref :: setOwnerReference owner refs

def canAddOwner (numOwners : Nat) (maxOwners : Int) : Bool :=
  maxOwners == unlimitedPipelineCount || (numOwners : Int) < maxOwners

namespace Checker

variable (c : Checker)

def createLock (owner : OwnerReference) : Client Unit := do
  let lock : ConfigMap := { key := c.lockName, ownerReferences := setOwnerReference owner [] }
  match ← createConfigMap lock with
  | .error err => throw (.errorf "failed to create lock: " (.api err) "")
  | .ok () => pure ()

/-- Acquire the lock for `owner`. A failed request is wrapped by `fmt.Errorf` only. -/
def tryAcquireLock (owner : OwnerReference) : Client Unit := do
  match ← getConfigMap c.lockName with
  | .error err =>
    if err.isNotFound then c.createLock owner
    else throw (.errorf "failed to get lock: " (.api err) "")
  | .ok lock =>
    if holds owner lock.ownerReferences then pure ()
    else if c.maxOwners = 0 ∨ canAddOwner lock.ownerReferences.length c.maxOwners then
      -- the object that was read is the one under the name of the lock
      match ← updateConfigMap { lock with
          key := c.lockName
          ownerReferences := setOwnerReference owner lock.ownerReferences } with
      | .error err => throw (.errorf "failed to update lock: " (.api err) "")
      | .ok () => pure ()
    else throw (.sentinel .errMaxPipelinesExceeded)

/-- Whether `owner` holds the lock. Here every failed request, "not found" included, is an
`APIRequestFailedError`. -/
def isLockHolder (owner : OwnerReference) : Client Unit := do
  match ← getConfigMap c.lockName with
  | .error err => throw (.apiRequestFailed (.errorf "failed to get lock: " (.api err) ""))
  | .ok lock =>
    if holds owner lock.ownerReferences then pure ()
    else throw (.sentinel .errMaxPipelinesExceeded)

/-- No failure of `tryAcquireLock`, a failed or conflicting request included, is recognisable as a
failed API request. -/
theorem tryAcquireLock_throws (owner : OwnerReference) :
    Throws GoError.IsPlain (c.tryAcquireLock owner) := by
  refine Throws.bind (Throws.lift _) fun r => ?_
  cases r with
  | error err =>
    dsimp only
    split
    · refine Throws.bind (Throws.lift _) fun r => ?_
      cases r with
      | error err => exact Throws.throw ⟨rfl, rfl⟩
      | ok u => exact Throws.pure u
    · exact Throws.throw ⟨rfl, rfl⟩
  | ok lock =>
    dsimp only
    split
    · exact Throws.pure _
    · split
      · refine Throws.bind (Throws.lift _) fun r => ?_
        cases r with
        | error err => exact Throws.throw ⟨rfl, rfl⟩
        | ok u => exact Throws.pure u
      · exact Throws.throw ⟨rfl, rfl⟩

theorem isLockHolder_throws (owner : OwnerReference) :
    Throws (fun e => e.isCertAboutToExpireError = false) (c.isLockHolder owner) := by
  refine Throws.bind (Throws.lift _) fun r => ?_
  cases r with
  | error err => exact Throws.throw rfl
  | ok lock =>
    dsimp only
    split
    · exact Throws.pure _
    · exact Throws.throw rfl

end Checker
end TelemetryManager.ResourceLock
