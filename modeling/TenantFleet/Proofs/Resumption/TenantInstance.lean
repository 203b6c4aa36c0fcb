import TenantFleet.Proofs.Passes.TenantInstance
import TenantFleet.Proofs.Resumption.Trail

/-!
# The pass on an instance resumes

The pass writes twice only when it gives back the place of an instance.  Cut off
in between, it finds the place given back, and takes the finalizer off.
-/

namespace TenantFleet

namespace TenantInstance

variable {settings : Settings} {key : ObjectKey} {world : World} {retiring : TenantInstance}

theorem runOn_reconcile_retiring
    (isFound : world.store.find? .tenantInstance key = some retiring)
    (marked : retiring.isMarked = true) (isHeld : retiring.isHeld = true) :
    (reconcile settings key).runOn world =
      ((windDown settings retiring).onFailure (recordFailure key)).runOn world := by
  unfold reconcile
  rw [Pass.runOn_readStore_bind]
  simp only [isFound, marked, isHeld, if_true]

/-- No target under the key of the instance's lists the instance. -/
def IsReleased (store : Store) (retiring : TenantInstance) : Prop :=
  ∀ target : Target, store.find? .target retiring.spec.targetKey = some target →
    target.hosts retiring.key = false

theorem runOn_releasePlace_of_released (released : IsReleased world.store retiring) :
    (releasePlace settings retiring.spec.targetKey retiring.key).runOn world =
      (.ok false, world) := by
  unfold releasePlace
  cases targetFound : world.store.find? .target retiring.spec.targetKey with
  | none => exact TargetChange.runOn_absent targetFound
  | some target =>
      refine TargetChange.runOn_idle targetFound ?_
      rw [TargetChange.apply_removing, released target targetFound]
      rfl

theorem runOn_windDown_of_released (present : retiring ∈ world.store.list .tenantInstance)
    (released : IsReleased world.store retiring) :
    (windDown settings retiring).runOn world =
      (.ok .gone, world.commit (world.store.dismissed retiring)) := by
  unfold windDown
  rw [Pass.runOn_discard_bind, Pass.runOn_bind, runOn_releasePlace_of_released released]
  exact Pass.runOn_dismissal present rfl

/-- With the place given back, all that remains is to take the finalizer off. -/
theorem runOn_reconcile_of_released
    (isFound : world.store.find? .tenantInstance key = some retiring)
    (marked : retiring.isMarked = true) (isHeld : retiring.isHeld = true)
    (released : IsReleased world.store retiring) :
    ((reconcile settings key).runOn world).2 = world.commit (world.store.dismissed retiring) := by
  rw [runOn_reconcile_retiring isFound marked isHeld, Pass.runOn_onFailure,
    runOn_windDown_of_released (Store.mem_list_of_find? isFound) released]

/-- The store once the target does not list the instance. -/
def released (store : Store) (target : Target) (retiring : TenantInstance) : Store :=
  store.write (some target) (store.restated target (target.releasing retiring.key).status)

theorem isReleased_released {store : Store} {target : Target}
    (targetFound : store.find? .target retiring.spec.targetKey = some target) :
    IsReleased (released store target retiring) retiring := by
  intro other found
  rw [released, Store.find?_restated targetFound] at found
  obtain rfl := Option.some.inj found
  simp [Target.hosts, Store.restated, Target.releasing, Target.published]

theorem runOn_windDown_of_hosted (present : retiring ∈ world.store.list .tenantInstance)
    {target : Target}
    (targetFound : world.store.find? .target retiring.spec.targetKey = some target)
    (hosted : target.hosts retiring.key = true) :
    let middle := world.commit (released world.store target retiring)
    (windDown settings retiring).runOn world =
      (.ok .gone, middle.commit (middle.store.dismissed retiring)) := by
  have applied : (TargetChange.removing retiring.key).apply target =
      some (target.releasing retiring.key) := by
    rw [TargetChange.apply_removing, hosted, if_pos rfl]
  have stillPresent : retiring ∈
      (world.commit (released world.store target retiring)).store.list .tenantInstance := by
    rw [World.commit, released, Store.list_write_of_ne _ _ _ (by decide)]
    exact present
  unfold windDown releasePlace
  rw [Pass.runOn_discard_bind, Pass.runOn_bind,
    TargetChange.runOn_written (TargetChange.removing_keepsMetadata retiring.key) targetFound
      applied]
  exact Pass.runOn_dismissal stillPresent rfl

/-- The place is given back first; from there the pass only takes the finalizer off. -/
theorem resumes_retiring (isFound : world.store.find? .tenantInstance key = some retiring)
    (marked : retiring.isMarked = true) (isHeld : retiring.isHeld = true) {target : Target}
    (targetFound : world.store.find? .target retiring.spec.targetKey = some target)
    (hosted : target.hosts retiring.key = true) :
    (reconcile settings key).ResumesOn world := by
  let store := released world.store target retiring
  have stillFound : store.find? .tenantInstance key = some retiring := by
    rw [← isFound]
    exact Store.find?_write_of_ne _ _ _ (by decide) key
  have anew : ∀ begun : World, begun.store = store →
      ((reconcile settings key).runOn begun).2 = begun.commit (store.dismissed retiring) := by
    rintro begun isStore
    rw [← isStore] at stillFound ⊢
    refine runOn_reconcile_of_released stillFound marked isHeld ?_
    rw [isStore]
    exact isReleased_released targetFound
  have twice : ((reconcile settings key).runOn world).2 =
      (world.commit store).commit (store.dismissed retiring) := by
    rw [runOn_reconcile_retiring isFound marked isHeld, Pass.runOn_onFailure,
      runOn_windDown_of_hosted (Store.mem_list_of_find? isFound) targetFound hosted]
    rfl
  exact Pass.resumesOn_of_commit_commit twice anew
    (Store.instanceKeys_dismissed_subset (Store.mem_list_of_find? stillFound))

theorem resumes_reconcile (settings : Settings) (key : ObjectKey) (world : World) :
    (reconcile settings key).ResumesOn world := by
  cases isFound : world.store.find? .tenantInstance key with
  | none =>
      refine Pass.resumesOn_of_idle ?_
      rw [runOn_reconcile_of_absent isFound]
  | some found =>
      cases marked : Object.isMarked found <;> cases isHeld : Object.isHeld found
      case true.true =>
        have ofReleased (released : IsReleased world.store found) :
            (reconcile settings key).ResumesOn world := by
          exact Pass.resumesOn_of_commit
            (runOn_reconcile_of_released isFound marked isHeld released)
        cases targetFound : world.store.find? .target (InstanceSpec.targetKey found.spec) with
        | none =>
            refine ofReleased fun target stillFound => ?_
            rw [targetFound] at stillFound
            contradiction
        | some target =>
            cases hosted : Target.hosts target found.key with
            | true => exact resumes_retiring isFound marked isHeld targetFound hosted
            | false =>
                refine ofReleased fun other otherFound => ?_
                rw [targetFound] at otherFound
                exact Option.some.inj otherFound ▸ hosted
      case false.false =>
        exact Pass.resumesOn_of_commit
          (congrArg Prod.snd (runOn_reconcile_of_unheld isFound marked isHeld))
      case false.true =>
        refine Pass.resumesOn_of_idle ?_
        rw [runOn_reconcile_of_lasting isFound marked isHeld]
      case true.false =>
        refine Pass.resumesOn_of_idle ?_
        rw [runOn_reconcile_of_relieved isFound marked isHeld]

end TenantInstance

end TenantFleet
