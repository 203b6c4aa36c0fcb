import TenantFleet.Admission.Review
import TenantFleet.Lifecycle.Capacity
import TenantFleet.Lifecycle.InstanceId
import TenantFleet.Placement.Choice

/-!
# Deployments

Every deployment is realised by one instance on one target.  The pass on a
deployment first puts the finalizer on it, then sees to it that the instance is
there, carries later changes into it and has its place on the target; once the
deployment is marked for deletion, it has the instance deleted and takes the
finalizer off when the instance is gone.  The instance bears a label with the
key of its deployment, by which it is found when the deployment's status does
not name it, so a pass that is cut off may be run again.
-/

namespace TenantFleet

def Store.rulesFor (store : Store) (settings : Settings) :
    Except StoreError (List SchedulingRule) :=
  match settings.scheduling with
  | some key => do
      match ← store.read .scheduling key with
      | some scheduling => return scheduling.spec.rules
      | none => return []
  | none => return []

/-- The instance of a deployment: the one that its status names, or else the first with its
label. -/
def Store.instanceOf? (store : Store) (deployment : Deployment) : Option TenantInstance :=
  match deployment.status.instanceKey.bind (store.find? .tenantInstance) with
  | some found => some found
  | none => (store.labelled .tenantInstance deploymentLabel deployment.key.text).head?

namespace Deployment

def newInstance (deployment : Deployment) (target : ObjectKey) (id : String) :
    TenantInstance where
  metadata :=
    { scope := deployment.key.scope
      generateName := deployment.key.name ++ "-"
      labels := Labels.set .empty deploymentLabel deployment.key.text
      finalizers := [finalizer]
      owners := [⟨Kind.deployment.title, deployment.key.name⟩] }
  spec :=
    { tenantId := deployment.spec.tenantId
      id := id
      targetKey := target
      configuration := deployment.spec.configuration
      highAvailability := deployment.spec.highAvailability
      dataPlane := deployment.spec.dataPlane }
  status := {}

/-- The instance with what the deployment asks for now; its target and ids stay. -/
def carriedInto (deployment : Deployment) (existing : TenantInstance) : TenantInstance :=
  { existing with
    spec :=
      { existing.spec with
        configuration := deployment.spec.configuration
        highAvailability := deployment.spec.highAvailability
        dataPlane := deployment.spec.dataPlane } }

def settledStatus (deployment : Deployment) (realised : TenantInstance) : DeploymentStatus where
  observedGeneration := deployment.metadata.generation
  instanceKey := some realised.key
  lastError := none
  phase := realised.status.phase
  dataPlaneMode := .of deployment.spec.dataPlane

def makeInstance (settings : Settings) (deployment : Deployment) :
    Pass PassFailure TenantInstance := do
  let rules ← (World.reading (·.rulesFor settings)).during .reconcile .getScheduling
  let store ← World.readStore
  match deployment.chosenTarget? rules (store.list .target) with
  | none => throw ⟨.reconcile, .findTarget, .noCapacity⟩
  | some target =>
      let neighbours := store.listIn .tenantInstance deployment.key.scope
      let id ← freshId (neighbours.map fun neighbour => neighbour.spec.id)
      (World.create (deployment.newInstance target.key id)).during .reconcile .createInstance

def renewInstance (deployment : Deployment) (existing : TenantInstance) :
    Pass PassFailure TenantInstance :=
  let next := deployment.carriedInto existing
  if next.spec = existing.spec then
    return existing
  else
    (World.update next).during .reconcile .updateInstance

/-- Give the instance its place, and say in the status of the deployment what there is. -/
def settle (settings : Settings) (deployment : Deployment) (realised : TenantInstance) :
    Pass PassFailure Outcome := do
  discard <| assignPlace settings realised.spec.targetKey realised.key
  let status := deployment.settledStatus realised
  if status = deployment.status then
    return .converged
  else do
    discard <| (World.setStatus { deployment with status := status }).during
      .reconcile .updateStatus
    return .converged

/-- Work toward what the deployment asks for. -/
def realise (settings : Settings) (deployment : Deployment) : Pass PassFailure Outcome := do
  let desired := deployment.withDefaults
  match (← World.readStore).instanceOf? deployment with
  | some existing =>
      if existing.isMarked then
        return .waiting
      else do
        settle settings deployment (← renewInstance desired existing)
  | none => settle settings deployment (← makeInstance settings desired)

/-- Let go of a deployment whose instance is gone. -/
def dismiss (deployment : Deployment) : Pass PassFailure Outcome := do
  let current : Deployment ←
    if deployment.status.instanceKey.isSome then
      (World.setStatus
        { deployment with status := { deployment.status with instanceKey := none } }).during
          .delete .clearInstanceRef
    else
      pure deployment
  discard <| (World.update current.letGo).during .delete .removeFinalizer
  return .gone

/-- Work toward the end of a deployment that is marked for deletion.  An instance without the
finalizer goes at once, so its place is given back first. -/
def windDown (settings : Settings) (deployment : Deployment) : Pass PassFailure Outcome := do
  match (← World.readStore).instanceOf? deployment with
  | none => dismiss deployment
  | some existing =>
      if existing.isMarked then
        return .waiting
      else do
        if !existing.isHeld then
          discard <| releasePlace settings existing.spec.targetKey existing.key
        match ← (World.delete .tenantInstance existing.key).attempt with
        | .ok _ => return .deleteIssued
        | .error error =>
            if error.isAbsence then dismiss deployment
            else throw ⟨.delete, .deleteInstance, .store error⟩

/-- Record the failure of a pass in the status of the deployment, unless it is recorded there. -/
def recordFailure (key : ObjectKey) (failure : PassFailure) : StateM World Unit := do
  match (← World.readStore).find? .deployment key with
  | none => return
  | some current =>
      if current.status.lastError.any failure.isRecordedBy then
        return
      else do
        let record := failure.record current.status.lastError (← World.now)
        (World.setStatus
          { current with
            status := { current.status with lastError := some record } }).ignoreOutcome

def reconcile (settings : Settings) (key : ObjectKey) : Pass PassFailure Outcome := do
  match (← World.readStore).find? .deployment key with
  | none => return .notFound
  | some deployment =>
      if deployment.isMarked then
        (windDown settings deployment).onFailure (recordFailure key)
      else if deployment.isHeld then
        (realise settings deployment).onFailure (recordFailure key)
      else do
        discard <| (World.update deployment.hold).during .reconcile .addFinalizer
        return .finalizerAdded

end Deployment

end TenantFleet
