import TenantFleet.Lifecycle.Capacity

/-!
# Instances

The pass on an instance keeps the finalizer on it, and once it is marked for
deletion gives its place back to the target before it lets the store remove it.
-/

namespace TenantFleet

namespace TenantInstance

/-- Give the place of an instance back, and let go of the instance. -/
def windDown (settings : Settings) (retiring : TenantInstance) : Pass PassFailure Outcome := do
  discard <| releasePlace settings retiring.spec.targetKey retiring.key
  discard <| (World.update retiring.letGo).during .delete .removeFinalizer
  return .gone

def recordFailure (key : ObjectKey) (failure : PassFailure) : StateM World Unit := do
  match (← World.readStore).find? .tenantInstance key with
  | none => return
  | some current =>
      let record := failure.record current.status.lastError (← World.now)
      (World.setStatus
        { current with status := { current.status with lastError := some record } }).ignoreOutcome

def reconcile (settings : Settings) (key : ObjectKey) : Pass PassFailure Outcome := do
  match (← World.readStore).find? .tenantInstance key with
  | none => return .notFound
  | some found =>
      if found.isMarked then
        if found.isHeld then (windDown settings found).onFailure (recordFailure key)
        else return .waiting
      else if found.isHeld then
        return .converged
      else do
        discard <| (World.update found.hold).during .reconcile .addFinalizer
        return .finalizerAdded

end TenantInstance

end TenantFleet
