import TenantFleet.Lifecycle.Failure
import TenantFleet.Placement.Score

/-!
# Places on targets

The list of instances that a target hosts is what placement goes by.  It is
changed by reading the target, and writing its status at the version that was
read; when another writer came first, the change is tried again.  Every change
also publishes the number of places left.
-/

namespace TenantFleet

namespace Target

/-- The target with its number of places left published. -/
def published (target : Target) : Target :=
  { target with status := { target.status with capacity := some target.placesLeft } }

def assigning (target : Target) (instanceKey : ObjectKey) : Target :=
  published
    { target with
      status := { target.status with assigned := target.status.assigned ++ [instanceKey] } }

def releasing (target : Target) (instanceKey : ObjectKey) : Target :=
  published
    { target with
      status :=
        { target.status with assigned := target.status.assigned.filter (· ≠ instanceKey) } }

end Target

/-- What a change of a target's status is about: where its failures are reported, and what is
done when the target is not there. -/
structure TargetChange where
  operation : Operation
  step : PassStep
  /-- Whether the change counts as made when there is no such target. -/
  absentIsDone : Bool
  /-- The target after the change, unless there is nothing to change. -/
  apply : Target → Option Target

namespace TargetChange

def placing (instanceKey : ObjectKey) : TargetChange where
  operation := .reconcile
  step := .assignCapacity
  absentIsDone := false
  apply target := if target.hosts instanceKey then none else some (target.assigning instanceKey)

/-- Take an instance off the list of a target. -/
def removing (instanceKey : ObjectKey) : TargetChange where
  operation := .delete
  step := .releaseCapacity
  absentIsDone := true
  apply target := if target.hosts instanceKey then some (target.releasing instanceKey) else none

/-- Bring the published number of places in line with the list. -/
def publishing : TargetChange where
  operation := .reconcile
  step := .updateCapacity
  absentIsDone := true
  apply target :=
    if target.status.capacity = some target.placesLeft then none else some target.published

/-- Make the change, if needed over again after a conflict, in the given number of attempts.
Yields whether the target was written. -/
def perform (change : TargetChange) (key : ObjectKey) (limit : Nat) :
    (attempts : Nat) → Pass PassFailure Bool
  | 0 => throw ⟨change.operation, change.step, .contention key limit⟩
  | attempts + 1 => do
      match (← World.readStore).find? .target key with
      | none =>
          if change.absentIsDone then return false
          else throw ⟨change.operation, .getTarget, .store (.notFound .target key)⟩
      | some target =>
          match change.apply target with
          | none => return false
          | some changed =>
              match ← (World.setStatus changed).attempt with
              | .ok _ => return true
              | .error error =>
                  if error.isConflict then
                    change.perform key limit attempts
                  else if change.absentIsDone && error.isAbsence then
                    return false
                  else
                    throw ⟨change.operation, change.step, .store error⟩

/-- Make the change with as many attempts as the settings allow. -/
def run (change : TargetChange) (settings : Settings) (key : ObjectKey) :
    Pass PassFailure Bool :=
  change.perform key (settings.conflictRetries + 1) (settings.conflictRetries + 1)

end TargetChange

/-- Put an instance on the list of a target, if it is not there yet; yields whether it was
written. -/
def assignPlace (settings : Settings) (target instanceKey : ObjectKey) : Pass PassFailure Bool :=
  (TargetChange.placing instanceKey).run settings target

/-- Take an instance off the list of a target, if it is there; yields whether it was written. -/
def releasePlace (settings : Settings) (target instanceKey : ObjectKey) : Pass PassFailure Bool :=
  (TargetChange.removing instanceKey).run settings target

/-- Publish the number of places left on a target, unless it is published; yields whether it was
written.  This is all that is done for a target. -/
def reconcileTarget (settings : Settings) (target : ObjectKey) : Pass PassFailure Bool :=
  TargetChange.publishing.run settings target

end TenantFleet
