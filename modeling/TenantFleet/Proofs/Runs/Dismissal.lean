import TenantFleet.Proofs.Runs.Resumption
import TenantFleet.Proofs.Runs.Statuses
import TenantFleet.Proofs.Teardown.Dismissal

/-!
# What is said to be gone

Whatever the world, when a pass says that the object under its key is gone, the
object was marked for deletion and has lost the finalizer of the control plane.
It has left the store if it had no other, and the next pass finds nothing.  An
object with a finalizer of somebody else is still there, and the pass on a
deployment goes on to say that it is gone, with a write each time.
-/

namespace TenantFleet

namespace Controller

variable {controller : Controller} {key : ObjectKey} {world after : World}

/-- The kind of the objects that the controller works on. -/
def kind : Controller → Kind
  | .registrations => .registration
  | .deployments _ => .deployment
  | .instances _ => .tenantInstance

/-- What comes of the next pass on an object that was let go and is still there. -/
def Repeats : Controller → ObjectKey → World → Prop
  | .registrations, key, world => (Registration.reconcile key).runOn world = (.ok .waiting, world)
  | .instances settings, key, world =>
      (TenantInstance.reconcile settings key).runOn world = (.ok .waiting, world)
  | .deployments settings, key, world => ∃ store,
      (Deployment.reconcile settings key).runOn world = (.ok .gone, world.commit store)

theorem runOn_pass_of_absent (absent : world.store.find? controller.kind key = none) :
    (controller.pass key).runOn world = (.ok .notFound, world) := by
  cases controller with
  | registrations => exact Registration.runOn_reconcile_of_absent absent
  | deployments settings => exact Deployment.runOn_reconcile_of_absent absent
  | instances settings => exact TenantInstance.runOn_reconcile_of_absent absent

/-- The last write of a pass that says that the object is gone. -/
theorem exists_retires_of_gone (gone : (controller.pass key).runOn world = (.ok .gone, after)) :
    ∃ (middle : World) (found last : Object controller.kind),
      Retires key world middle found last ∧ after = middle.commit (middle.store.dismissed last) ∧
        (after.store.find? controller.kind key = some (middle.store.relieved last) →
          controller.Repeats key after) := by
  cases controller with
  | registrations =>
      obtain ⟨found, retires, rfl, empty⟩ := Registration.exists_retires_of_gone gone
      refine ⟨world, found, found, retires, rfl, fun left => ?_⟩
      have same : Store.SameBeside .registration world.store (world.store.dismissed found) :=
        Store.sameBeside_supplant _ _ _
      refine Registration.runOn_reconcile_of_relieved left retires.lastMarked
        (Store.isHeld_relieved _ _) ?_
      exact (same.labelled (by decide) _ _).trans empty
  | deployments settings =>
      obtain ⟨middle, found, last, retires, rfl, unnamed, empty⟩ :=
        Deployment.exists_retires_of_gone gone
      refine ⟨middle, found, last, retires, rfl, fun left => ?_⟩
      have same : Store.SameBeside .deployment middle.store (middle.store.dismissed last) :=
        Store.sameBeside_supplant _ _ _
      exact ⟨_, Deployment.runOn_reconcile_of_relieved left retires.lastMarked unnamed
        ((same.labelled (by decide) _ _).trans empty)⟩
  | instances settings =>
      obtain ⟨middle, found, retires, rfl⟩ := TenantInstance.exists_retires_of_gone gone
      exact ⟨middle, found, found, retires, rfl, fun left =>
        TenantInstance.runOn_reconcile_of_relieved left retires.lastMarked
          (Store.isHeld_relieved _ _)⟩

end Controller

namespace World

variable {world after : World}

/-- When a pass says that an object is gone, the object was marked, and it has left the store unless
it bears a finalizer of somebody else.  If it has left, the next pass finds nothing and writes
nothing.  If it has not, it has exactly the other finalizers, and the pass on a deployment says once
more that it is gone. -/
theorem gone_objects_have_left {controller : Controller} {key : ObjectKey}
    (gone : (controller.pass key).runOn world = (.ok .gone, after)) :
    ∃ found : Object controller.kind, world.store.find? controller.kind key = some found ∧
      found.isMarked = true ∧
      ((∀ name ∈ found.metadata.finalizers, name = finalizer) →
        after.store.find? controller.kind key = none ∧
          (controller.pass key).runOn after = (.ok .notFound, after)) ∧
      ∀ name ∈ found.metadata.finalizers, name ≠ finalizer →
        ∃ left, after.store.find? controller.kind key = some left ∧ left.isMarked = true ∧
          left.metadata.finalizers = found.metadata.finalizers.filter (· != finalizer) ∧
          controller.Repeats key after := by
  obtain ⟨middle, found, last, retires, rfl, repeats⟩ := Controller.exists_retires_of_gone gone
  refine ⟨found, retires.isFound, retires.marked, fun unkept => ?_, fun name kept foreign => ?_⟩
  · have absent := retires.find?_of_unkept unkept
    exact ⟨absent, Controller.runOn_pass_of_absent absent⟩
  · have left := retires.find?_of_kept kept foreign
    refine ⟨_, left, retires.lastMarked, ?_, repeats left⟩
    rw [Store.finalizers_relieved, retires.sameFinalizers]

/-- A user hands in a registration, a deployment and an instance that have nothing to do with each
other, each with the finalizers.  The control plane sees each of them once, and then the user
deletes them all. -/
def departing (finalizers : List String) : World :=
  let steps : List Step :=
    [.ask (.applyManifest (.registration
       { metadata := { name := "web", scope := "tenant01", finalizers := finalizers }
         spec := { purpose := "demo" }
         status := {} })),
     .ask (.applyManifest (.deployment
       { metadata := { name := "app", scope := "tenant02", finalizers := finalizers }
         spec := { tenantId := "tenant02", purpose := "demo" }
         status := {} })),
     .ask (.create .tenantInstance
       { metadata := { name := "run", scope := "tenant03", finalizers := finalizers }
         spec := { tenantId := "tenant03", id := "id000001", targetKey := ⟨"fleet", "east"⟩ }
         status := {} }),
     .act (.reconcileRegistration ⟨"tenant01", "web"⟩),
     .act (.reconcileDeployment {} ⟨"tenant02", "app"⟩),
     .act (.reconcileInstance {} ⟨"tenant03", "run"⟩),
     .act (.delete .registration ⟨"tenant01", "web"⟩),
     .act (.delete .deployment ⟨"tenant02", "app"⟩),
     .act (.delete .tenantInstance ⟨"tenant03", "run"⟩)]
  steps.foldl Step.perform (.around {} 0 0)

/-- A deployment with no other finalizer has left when it is said to be gone; one with another
finalizer has not, and is said to be gone once more. -/
theorem gone_objects_have_left_once_departing :
    let controller := Controller.deployments {}
    let key : ObjectKey := ⟨"tenant02", "app"⟩
    (∃ after, (controller.pass key).runOn (departing []) = (.ok .gone, after) ∧
      after.store.find? .deployment key = none ∧
        (controller.pass key).runOn after = (.ok .notFound, after)) ∧
    ∃ after, (controller.pass key).runOn (departing ["example.com/hold"]) = (.ok .gone, after) ∧
      ∃ left : Deployment, after.store.find? .deployment key = some left ∧
        left.metadata.finalizers = ["example.com/hold"] ∧ controller.Repeats key after := by
  intro controller key
  have bears {finalizers borne : List String} {found : Deployment}
      (isFound : (departing finalizers).store.find? .deployment key = some found)
      (isBorne : ((departing finalizers).store.find? .deployment key).map
        (fun found => found.metadata.finalizers) = some borne) :
      found.metadata.finalizers = borne := by
    rw [isFound] at isBorne
    exact Option.some.inj isBorne
  constructor
  · have said : (controller.pass key).outcome? (departing []) = some .gone := by decide +kernel
    obtain ⟨after, gone⟩ := Pass.exists_of_outcome? said
    obtain ⟨found, isFound, -, leaves, -⟩ := gone_objects_have_left gone
    have own : found.metadata.finalizers = [finalizer] := bears isFound (by decide +kernel)
    exact ⟨after, gone, leaves fun name nameMem => by simpa [own] using nameMem⟩
  · have said : (controller.pass key).outcome? (departing ["example.com/hold"]) =
        some .gone := by
      decide +kernel
    obtain ⟨after, gone⟩ := Pass.exists_of_outcome? said
    obtain ⟨found, isFound, -, -, stays⟩ := gone_objects_have_left gone
    have borne : found.metadata.finalizers = ["example.com/hold", finalizer] :=
      bears isFound (by decide +kernel)
    obtain ⟨left, leftFound, -, others, repeats⟩ :=
      stays "example.com/hold" (by rw [borne]; decide) (by decide)
    refine ⟨after, gone, left, leftFound, ?_, repeats⟩
    rw [others, borne]
    decide

/-- The pass says that the object is gone, and yet it is still in the store, and is found there by
the next pass. -/
def LeavesBehind (controller : Controller) (key : ObjectKey) (world : World) : Prop :=
  let after := ((controller.pass key).runOn world).2
  (controller.pass key).outcome? world = some .gone ∧
    (after.store.find? controller.kind key).isSome = true ∧
      (controller.pass key).outcome? after ≠ some .notFound

instance (controller : Controller) (key : ObjectKey) (world : World) :
    Decidable (LeavesBehind controller key world) :=
  inferInstanceAs (Decidable (_ ∧ _ ∧ _))

/-- A finalizer of somebody else is enough, whichever controller sees to the object; of a deployment
every pass says that it is gone, and writes it once more. -/
theorem gone_objects_are_left_behind :
    let world := departing ["example.com/hold"]
    let pass := (Controller.deployments {}).pass ⟨"tenant02", "app"⟩
    let after := (pass.runOn world).2
    LeavesBehind .registrations ⟨"tenant01", "web"⟩ world ∧
      LeavesBehind (.deployments {}) ⟨"tenant02", "app"⟩ world ∧
      LeavesBehind (.instances {}) ⟨"tenant03", "run"⟩ world ∧
      pass.outcome? after = some .gone ∧
      (pass.runOn after).2.journal.length = after.journal.length + 1 := by
  decide +kernel

end World

end TenantFleet
