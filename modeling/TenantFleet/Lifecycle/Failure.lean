import TenantFleet.World

/-!
# Failures of passes

A pass of a controller fails in one of its steps, within one of its operations,
for a cause.  The status of the object that the pass worked on shows operation,
step and message.
-/

namespace TenantFleet

/-- What a pass was about. -/
inductive Operation where
  | reconcile
  | delete
  | syncStatus
deriving DecidableEq, Repr

def Operation.title : Operation → String
  | .reconcile => "Reconcile"
  | .delete => "Delete"
  | .syncStatus => "SyncStatus"

inductive PassStep where
  | addFinalizer
  | removeFinalizer
  | getScheduling
  | getTarget
  | findTarget
  | assignCapacity
  | releaseCapacity
  | updateCapacity
  | generateId
  | createInstance
  | updateInstance
  | deleteInstance
  | clearInstanceRef
  | updateStatus
  | createNamespace
  | createDeployment
  | updateDeployment
  | deleteDeployment
  | updateRegistration
  | parseLabel
deriving DecidableEq, Repr

/-- The step as statuses and messages name it. -/
def PassStep.title : PassStep → String
  | .addFinalizer => "AddFinalizer"
  | .removeFinalizer => "RemoveFinalizer"
  | .getScheduling => "GetScheduling"
  | .getTarget => "GetTarget"
  | .findTarget => "FindTarget"
  | .assignCapacity => "AssignCapacity"
  | .releaseCapacity => "ReleaseCapacity"
  | .updateCapacity => "UpdateCapacity"
  | .generateId => "GenerateId"
  | .createInstance => "CreateInstance"
  | .updateInstance => "UpdateInstance"
  | .deleteInstance => "DeleteInstance"
  | .clearInstanceRef => "ClearInstanceRef"
  | .updateStatus => "UpdateStatus"
  | .createNamespace => "CreateNamespace"
  | .createDeployment => "CreateDeployment"
  | .updateDeployment => "UpdateDeployment"
  | .deleteDeployment => "DeleteDeployment"
  | .updateRegistration => "UpdateRegistration"
  | .parseLabel => "ParseLabel"

/-- Why a step failed. -/
inductive FailureCause where
  /-- The store refused what it was asked for. -/
  | store (error : StoreError)
  /-- No target can take the instance. -/
  | noCapacity
  /-- Other writers came first every time. -/
  | contention (key : ObjectKey) (attempts : Nat)
  /-- Every instance id drawn was taken. -/
  | idsExhausted (attempts : Nat)
  /-- The label that leads back to the registration spells no key. -/
  | malformedLabel (deployment : ObjectKey) (value : String)
deriving DecidableEq, Repr

def FailureCause.message : FailureCause → String
  | .store error => error.message
  | .noCapacity => "no target with remaining capacity available"
  | .contention key attempts =>
      "gave up on " ++ key.text ++ " after " ++ toString attempts ++ " conflicting writes"
  | .idsExhausted attempts => "no free instance id after " ++ toString attempts ++ " attempts"
  | .malformedLabel deployment value =>
      "deployment " ++ deployment.text ++ " has malformed label " ++ registrationLabel ++ "=" ++
        value

structure PassFailure where
  operation : Operation
  step : PassStep
  cause : FailureCause
deriving DecidableEq, Repr

namespace PassFailure

/-- The failure in one line; a malformed label speaks for itself. -/
def message (failure : PassFailure) : String :=
  match failure.cause with
  | .malformedLabel _ _ => failure.cause.message
  | _ => failure.operation.title ++ "/" ++ failure.step.title ++ ": " ++ failure.cause.message

/-- Whether no target could take the instance. -/
def isNoCapacity (failure : PassFailure) : Bool :=
  failure.cause = .noCapacity

/-- Whether another writer came first. -/
def isConflict (failure : PassFailure) : Bool :=
  match failure.cause with
  | .store error => error.isConflict
  | .contention _ _ => true
  | _ => false

/-- The record of the failure after the record `previous`. -/
def record (failure : PassFailure) (previous : Option FailureRecord) (now : Nat) :
    FailureRecord :=
  .next previous failure.operation.title failure.step.title failure.message now

def isRecordedBy (failure : PassFailure) (record : FailureRecord) : Bool :=
  record.operation = failure.operation.title && record.reason = failure.step.title &&
    record.message = failure.message

end PassFailure

/-- The change of the store, a failure of which is one of the given step. -/
def Pass.during {α : Type} (operation : Operation) (step : PassStep) (pass : Pass StoreError α) :
    Pass PassFailure α :=
  pass.mapError fun error => ⟨operation, step, .store error⟩

/-- What a pass of a controller came to. -/
inductive Outcome where
  /-- There is no such object. -/
  | notFound
  /-- The finalizer was put on the object, and nothing else was done. -/
  | finalizerAdded
  /-- What is wanted is there. -/
  | converged
  /-- What was wanted had been seen before, and nothing was written. -/
  | upToDate
  /-- What is wanted was written, and that it was seen. -/
  | synced
  /-- The deletion of what depends on the object was asked for. -/
  | deleteIssued
  /-- Something that depends on the object, or holds it, has yet to go. -/
  | waiting
  /-- The finalizer was taken off the object. -/
  | gone
deriving DecidableEq, Repr

/-- The outcome as reports name it. -/
def Outcome.title : Outcome → String
  | .notFound => "NotFound"
  | .finalizerAdded => "FinalizerAdded"
  | .converged => "Converged"
  | .upToDate => "UpToDate"
  | .synced => "Synced"
  | .deleteIssued => "DeleteIssued"
  | .waiting => "Waiting"
  | .gone => "Gone"

/-- What the controllers are set to. -/
structure Settings where
  /-- The scheduling object whose rules come before the automatic choice of a target. -/
  scheduling : Option ObjectKey := none
  /-- How often a change of a target's assignments is tried again after a conflict. -/
  conflictRetries : Nat := 5
deriving DecidableEq, Repr

end TenantFleet
