import TenantFleet.Onboarding.StatusReport
import TenantFleet.Proofs.Passes.Running

/-!
# What status reports write

A report writes the status of the one registration that the label of the
deployment spells, and has no more to tell when it is made once more.
-/

namespace TenantFleet

namespace Deployment

/-- A write of the status report of the deployment under `key`. -/
inductive Report (key : ObjectKey) (store : Store) : Store → Prop
  | reported {deployment : Deployment} {realised : TenantInstance} {label : String}
      {registrationKey : ObjectKey} {registration : Registration}
      (isFound : store.find? .deployment key = some deployment)
      (named : deployment.status.instanceKey.bind (store.find? .tenantInstance) = some realised)
      (labelled : deployment.metadata.label? registrationLabel = some label)
      (spelled : ObjectKey.ofText? label = some registrationKey)
      (registrationFound : store.find? .registration registrationKey = some registration) :
      Report key store
        (store.write (some registration)
          (store.restated registration (registration.reportedStatus deployment realised)))

/-- The deployment has an instance, and its label spells the key of its registration. -/
structure Addresses (store : Store) (key : ObjectKey) (deployment : Deployment)
    (realised : TenantInstance) (registrationKey : ObjectKey) : Prop where
  isFound : store.find? .deployment key = some deployment
  named : deployment.status.instanceKey.bind (store.find? .tenantInstance) = some realised
  labelled : deployment.metadata.label? registrationLabel = some registrationKey.text
  spelled : ObjectKey.ofText? registrationKey.text = some registrationKey

variable {key : ObjectKey} {world : World}

theorem Addresses.runOn_reportStatus {deployment : Deployment} {realised : TenantInstance}
    {registrationKey : ObjectKey}
    (addresses : Addresses world.store key deployment realised registrationKey) :
    (reportStatus key).runOn world = (reportTo deployment realised registrationKey).runOn world := by
  unfold reportStatus
  rw [Pass.runOn_readStore_bind]
  simp only [addresses.isFound, addresses.named, addresses.labelled, addresses.spelled]

/-- What becomes of a report: it fails, it has nothing to tell, or it tells the registration. -/
inductive ReportCourse (key : ObjectKey) (world : World) : Except PassFailure Bool × World → Prop
  | failed (failure : PassFailure) : ReportCourse key world (.error failure, world)
  | idle : ReportCourse key world (.ok false, world)
  | told {deployment : Deployment} {realised : TenantInstance} {registrationKey : ObjectKey}
      {registration : Registration}
      (addresses : Addresses world.store key deployment realised registrationKey)
      (isFound : world.store.find? .registration registrationKey = some registration) :
      ReportCourse key world
        (.ok true, world.commit (world.store.write (some registration)
          (world.store.restated registration
            (registration.reportedStatus deployment realised))))

theorem reportCourse_of_addresses {deployment : Deployment} {realised : TenantInstance}
    {registrationKey : ObjectKey}
    (addresses : Addresses world.store key deployment realised registrationKey) :
    ReportCourse key world ((reportTo deployment realised registrationKey).runOn world) := by
  unfold reportTo
  rw [Pass.runOn_readStore_bind]
  cases isFound : world.store.find? .registration registrationKey with
  | none => exact .idle
  | some registration =>
      simp only
      split
      · exact .idle
      · rw [Pass.runOn_during_bind_of_ok
          (World.runOn_restate (Store.mem_list_of_find? isFound) rfl _)]
        exact .told addresses isFound

theorem reportCourse (key : ObjectKey) (world : World) :
    ReportCourse key world ((reportStatus key).runOn world) := by
  unfold reportStatus
  rw [Pass.runOn_readStore_bind]
  split
  next => exact .idle
  next deployment isFound =>
    split
    next => exact .idle
    next realised named =>
      split
      next => exact .idle
      next label labelled =>
        split
        next => exact .failed _
        next registrationKey spelled =>
          obtain rfl := ObjectKey.text_of_ofText? spelled
          exact reportCourse_of_addresses ⟨isFound, named, labelled, spelled⟩

theorem through_reportStatus (key : ObjectKey) (world : World) :
    World.Through (Report key) world ((reportStatus key).runOn world).2 := by
  generalize ran : (reportStatus key).runOn world = outcome
  cases ran ▸ reportCourse key world with
  | failed | idle => exact .refl world
  | told addresses isFound =>
      exact .of_commit
        (.reported addresses.isFound addresses.named addresses.labelled addresses.spelled isFound)

theorem Report.sameBeside {store after : Store} {key : ObjectKey}
    (written : Report key store after) : Store.SameBeside .registration store after := by
  cases written with
  | reported => exact Store.sameBeside_write _ _ _

theorem Addresses.of_sameBeside {store after : Store} {deployment : Deployment}
    {realised : TenantInstance} {registrationKey : ObjectKey}
    (addresses : Addresses store key deployment realised registrationKey)
    (same : Store.SameBeside .registration store after) :
    Addresses after key deployment realised registrationKey := by
  have sameInstances : after.find? .tenantInstance = store.find? .tenantInstance :=
    funext fun _ => same.find? (by decide) _
  refine { addresses with isFound := ?_, named := ?_ }
  · rw [same.find? (by decide), addresses.isFound]
  · rw [sameInstances, addresses.named]

/-- A report that is made once more has nothing to tell. -/
theorem runOn_reportStatus_again {after : World} {told : Bool}
    (ran : (reportStatus key).runOn world = (.ok told, after)) :
    (reportStatus key).runOn after = (.ok false, after) := by
  have course := reportCourse key world
  rw [ran] at course
  cases course with
  | idle => exact ran
  | @told deployment realised registrationKey registration addresses isFound =>
      let shown := world.store.restated registration
        (Registration.reportedStatus registration deployment realised)
      let after := world.commit (world.store.write (some registration) shown)
      have shownFound : after.store.find? .registration registrationKey = some shown :=
        Store.find?_restated isFound _
      have still : Addresses after.store key deployment realised registrationKey :=
        addresses.of_sameBeside (Store.sameBeside_write _ _ _)
      have nothing : Registration.reportedStatus shown deployment realised = shown.status := rfl
      change (reportStatus key).runOn after = (.ok false, after)
      rw [still.runOn_reportStatus]
      unfold reportTo
      rw [Pass.runOn_readStore_bind]
      simp only [shownFound, nothing, if_true]
      rfl

end Deployment

end TenantFleet
