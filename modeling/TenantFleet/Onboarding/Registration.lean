import TenantFleet.Lifecycle.Failure

/-!
# Registrations

A registration lives in the namespace of its tenant and becomes a deployment of
the same key.  The pass on a registration sees to the namespace and the
deployment, which bears a label with the key of the registration, and notes the
generation that it has seen; once the registration is marked for deletion, it
has the deployment deleted and takes the finalizer off when that is gone.
-/

namespace TenantFleet

namespace Registration

def derivedSpec (registration : Registration) : DeploymentSpec :=
  RegistrationSpec.forTenant registration.spec registration.key.scope

def newDeployment (registration : Registration) : Deployment where
  metadata :=
    { scope := registration.key.scope
      name := registration.key.name
      labels := Labels.set .empty registrationLabel registration.key.text }
  spec := registration.derivedSpec
  status := {}

def carriedInto (registration : Registration) (existing : Deployment) : Deployment :=
  { existing with
    metadata :=
      { existing.metadata with
        labels := existing.metadata.labels.set registrationLabel registration.key.text }
    spec := registration.derivedSpec }

def tenantSpace (name : String) : TenantSpace where
  metadata := { name := name }
  spec := ()
  status := ()

/-- See to it that the namespace of a tenant is there. -/
def provideTenantSpace (name : String) : Pass PassFailure Unit := do
  match ← (World.create (tenantSpace name)).attempt with
  | .ok _ => return
  | .error error =>
      if error.isTaken then return
      else throw ⟨.reconcile, .createNamespace, .store error⟩

/-- See to it that the deployment of a registration is there and as it is to be.  Yields its key,
or none while an earlier one has yet to go. -/
def provideDeployment (registration : Registration) : Pass PassFailure (Option ObjectKey) := do
  match (← World.readStore).find? .deployment registration.key with
  | none => do
      let created ← (World.create registration.newDeployment).during .reconcile .createDeployment
      return some created.key
  | some existing =>
      if existing.isMarked then
        return none
      else if existing.spec = registration.derivedSpec &&
          existing.metadata.hasLabel registrationLabel registration.key.text then
        return some existing.key
      else do
        let updated ← (World.update (registration.carriedInto existing)).during
          .reconcile .updateDeployment
        return some updated.key

def syncedStatus (registration : Registration) (deployment : ObjectKey) : RegistrationStatus :=
  { registration.status with
    observedGeneration := registration.metadata.generation
    deploymentKey := some deployment
    lastError := none }

def carryOut (registration : Registration) : Pass PassFailure Outcome := do
  provideTenantSpace registration.key.scope
  match ← provideDeployment registration with
  | none => return .waiting
  | some deployment => do
      discard <| (World.setStatus
        { registration with status := registration.syncedStatus deployment }).during
          .reconcile .updateStatus
      return .synced

/-- Delete the deployments, one after the other; yields whether one of them was there. -/
def deleteDeployments : List Deployment → Pass PassFailure Bool
  | [] => return false
  | deployment :: rest => do
      match ← (World.delete .deployment deployment.key).attempt with
      | .ok _ => do
          discard <| deleteDeployments rest
          return true
      | .error error =>
          if error.isAbsence then deleteDeployments rest
          else throw ⟨.delete, .deleteDeployment, .store error⟩

/-- Work toward the end of a registration that is marked for deletion. -/
def windDown (registration : Registration) : Pass PassFailure Outcome := do
  let deployments :=
    (← World.readStore).labelled .deployment registrationLabel registration.key.text
  if !deployments.isEmpty then do
    let issued ← deleteDeployments (deployments.filter fun deployment => !deployment.isMarked)
    return if issued then .deleteIssued else .waiting
  else if registration.isHeld then do
    discard <| (World.update registration.letGo).during .delete .removeFinalizer
    return .gone
  else
    return .waiting

def recordFailure (key : ObjectKey) (failure : PassFailure) : StateM World Unit := do
  match (← World.readStore).find? .registration key with
  | none => return
  | some current =>
      let record := failure.record current.status.lastError (← World.now)
      (World.setStatus
        { current with status := { current.status with lastError := some record } }).ignoreOutcome

def reconcile (key : ObjectKey) : Pass PassFailure Outcome := do
  match (← World.readStore).find? .registration key with
  | none => return .notFound
  | some registration =>
      if registration.isMarked then
        (windDown registration).onFailure (recordFailure key)
      else if !registration.isHeld then do
        discard <| (World.update registration.hold).during .reconcile .addFinalizer
        return .finalizerAdded
      else if registration.status.observedGeneration = registration.metadata.generation then
        return .upToDate
      else
        (carryOut registration).onFailure (recordFailure key)

end Registration

end TenantFleet
