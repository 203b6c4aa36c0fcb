import TenantFleet.Lifecycle.Failure

/-!
# Status reports

What a tenant has to know of an instance, its last error and its access file, is
carried from the deployment back to the registration that the deployment's label
names.
-/

namespace TenantFleet

/-- The status of a registration with what there is to know of its deployment and instance: the
error of the instance comes before that of the deployment. -/
def Registration.reportedStatus (registration : Registration) (deployment : Deployment)
    (realised : TenantInstance) : RegistrationStatus :=
  { registration.status with
    lastError := realised.status.lastError.or deployment.status.lastError
    userKubeconfig := realised.status.userKubeconfig }

namespace Deployment

/-- Carry the status of a deployment and its instance to the registration under `key`.  Yields
whether the registration was written. -/
def reportTo (deployment : Deployment) (realised : TenantInstance) (key : ObjectKey) :
    Pass PassFailure Bool := do
  match (← World.readStore).find? .registration key with
  | none => return false
  | some registration =>
      let status := Registration.reportedStatus registration deployment realised
      if status = registration.status then
        return false
      else do
        discard <| (World.setStatus { registration with status := status }).during
          .syncStatus .updateRegistration
        return true

/-- Carry the status of the deployment under `key` to its registration, if it has both an
instance and a registration.  Yields whether the registration was written. -/
def reportStatus (key : ObjectKey) : Pass PassFailure Bool := do
  let store ← World.readStore
  match store.find? .deployment key with
  | none => return false
  | some deployment =>
      match deployment.status.instanceKey.bind (store.find? .tenantInstance) with
      | none => return false
      | some realised =>
          match deployment.metadata.label? registrationLabel with
          | none => return false
          | some label =>
              match ObjectKey.ofText? label with
              | none => throw ⟨.syncStatus, .parseLabel, .malformedLabel key label⟩
              | some registrationKey => reportTo deployment realised registrationKey

end Deployment

end TenantFleet
