import TenantFleet.Lifecycle.TenantInstance
import TenantFleet.Proofs.Passes.Place

/-!
# What the pass on an instance writes

The pass puts the finalizer on an instance, or gives back the place of one that
is marked and takes the finalizer off, in this order: when the finalizer goes,
the target of the instance does not list it any more.
-/

namespace TenantFleet

namespace TenantInstance

/-- A write of the pass on the instance under `key`. -/
inductive Write (key : ObjectKey) (store : Store) : Store → Prop
  | held {found : TenantInstance} (isFound : store.find? .tenantInstance key = some found)
      (unmarked : found.isMarked = false) (unheld : found.isHeld = false) :
      Write key store (store.supplant found (store.replacement found found.hold))
  | released {retiring : TenantInstance} {target : Target}
      (isFound : store.find? .tenantInstance key = some retiring)
      (marked : retiring.isMarked = true) (isHeld : retiring.isHeld = true)
      (targetFound : store.find? .target retiring.spec.targetKey = some target)
      (hosts : target.hosts retiring.key = true) :
      Write key store
        (store.write (some target)
          (store.restated target (target.releasing retiring.key).status))
  | letGo {retiring : TenantInstance}
      (isFound : store.find? .tenantInstance key = some retiring)
      (marked : retiring.isMarked = true) (isHeld : retiring.isHeld = true)
      (released : ∀ target : Target, store.find? .target retiring.spec.targetKey = some target →
        target.hosts retiring.key = false) :
      Write key store (store.supplant retiring (store.replacement retiring retiring.letGo))
  | recorded {current : TenantInstance}
      (isFound : store.find? .tenantInstance key = some current) (record : FailureRecord) :
      Write key store
        (store.write (some current)
          (store.restated current { current.status with lastError := some record }))

variable {settings : Settings} {key : ObjectKey} {world : World}

theorem through_windDown {retiring : TenantInstance}
    (isFound : world.store.find? .tenantInstance key = some retiring)
    (marked : retiring.isMarked = true) (isHeld : retiring.isHeld = true) :
    World.Through (Write key) world ((windDown settings retiring).runOn world).2 := by
  unfold windDown
  refine .bind_discard ?_ fun _ middle ran => ?_
  · exact through_releasePlace fun target => .released isFound marked isHeld
  · have stillFound : middle.store.find? .tenantInstance key = some retiring := by
      rw [(sameBeside_of_releasePlace ran).find? (by decide), isFound]
    rw [Pass.runOn_during_bind_of_ok
      (World.runOn_letGo (Store.mem_list_of_find? stillFound) rfl)]
    exact .of_commit (.letGo stillFound marked isHeld (hosts_of_releasePlace ran))

theorem through_recordFailure (key : ObjectKey) (failure : PassFailure) (world : World) :
    World.Through (Write key) world (recordFailure key failure world).2 := by
  unfold recordFailure
  rw [World.readStore_bind]
  cases isFound : world.store.find? .tenantInstance key with
  | none => exact .refl world
  | some current =>
      exact World.through_record (Store.mem_list_of_find? isFound) rfl (.recorded isFound _)

theorem runOn_reconcile_of_absent (absent : world.store.find? .tenantInstance key = none) :
    (reconcile settings key).runOn world = (.ok .notFound, world) := by
  unfold reconcile
  rw [Pass.runOn_readStore_bind, absent]
  rfl

/-- An instance that stays, and is held back, is left alone. -/
theorem runOn_reconcile_of_lasting {realised : TenantInstance}
    (isFound : world.store.find? .tenantInstance key = some realised)
    (unmarked : realised.isMarked = false) (isHeld : realised.isHeld = true) :
    (reconcile settings key).runOn world = (.ok .converged, world) := by
  unfold reconcile
  rw [Pass.runOn_readStore_bind]
  simp only [isFound, unmarked, isHeld, Bool.false_eq_true, if_false, if_true]
  rfl

theorem runOn_reconcile_of_unheld {realised : TenantInstance}
    (isFound : world.store.find? .tenantInstance key = some realised)
    (unmarked : realised.isMarked = false) (unheld : realised.isHeld = false) :
    (reconcile settings key).runOn world =
      (.ok .finalizerAdded, world.commit (world.store.supplant realised
        (world.store.replacement realised realised.hold))) := by
  unfold reconcile
  rw [Pass.runOn_readStore_bind]
  simp only [isFound, unmarked, unheld, Bool.false_eq_true, if_false]
  rw [Pass.runOn_during_bind_of_ok (World.runOn_hold (Store.mem_list_of_find? isFound) rfl)]
  rfl

/-- An instance that others keep is left to them. -/
theorem runOn_reconcile_of_relieved {left : TenantInstance}
    (isFound : world.store.find? .tenantInstance key = some left) (marked : left.isMarked = true)
    (unheld : left.isHeld = false) :
    (reconcile settings key).runOn world = (.ok .waiting, world) := by
  unfold reconcile
  rw [Pass.runOn_readStore_bind]
  simp only [isFound, marked, unheld, if_true, Bool.false_eq_true, if_false]
  rfl

theorem through_reconcile (settings : Settings) (key : ObjectKey) (world : World) :
    World.Through (Write key) world ((reconcile settings key).runOn world).2 := by
  unfold reconcile
  rw [Pass.runOn_readStore_bind]
  cases isFound : world.store.find? .tenantInstance key with
  | none => exact .refl world
  | some found =>
      cases marked : Object.isMarked found <;> cases held : Object.isHeld found <;>
        simp only [marked, held, if_true, Bool.false_eq_true, if_false]
      case false.false =>
        rw [Pass.runOn_during_bind_of_ok (World.runOn_hold (Store.mem_list_of_find? isFound) rfl)]
        exact .of_commit (.held isFound marked held)
      case false.true => exact .refl world
      case true.false => exact .refl world
      case true.true =>
        exact .onFailure (through_windDown isFound marked held) (through_recordFailure key)

theorem Write.sameBut {store after : Store} (written : Write key store after) :
    Store.SameBut [.tenantInstance, .target] store after := by
  cases written with
  | held | letGo => exact (Store.sameBeside_supplant _ _ _).sameBut (by decide)
  | released | recorded => exact (Store.sameBeside_write _ _ _).sameBut (by decide)

/-- The pass on an instance leaves the others as they are. -/
theorem Write.find?_of_ne {store after : Store} (written : Write key store after)
    {other : ObjectKey} (different : key.text ≠ other.text) :
    after.find? .tenantInstance other = store.find? .tenantInstance other := by
  cases written with
  | held isFound => exact Store.find?_updated_of_ne isFound (Object.key_hold _) different
  | letGo isFound => exact Store.find?_updated_of_ne isFound rfl different
  | released => exact (Store.sameBeside_write _ _ _).find? (by decide) other
  | recorded isFound => exact Store.find?_restated_of_ne isFound different _

theorem find?_reconcile_of_ne {other : ObjectKey} (different : key.text ≠ other.text) :
    ((reconcile settings key).runOn world).2.store.find? .tenantInstance other =
      world.store.find? .tenantInstance other :=
  (through_reconcile settings key world).preserves
    (fun store => store.find? .tenantInstance other = world.store.find? .tenantInstance other)
    (fun same written => (written.find?_of_ne different).trans same) rfl

end TenantInstance

end TenantFleet
