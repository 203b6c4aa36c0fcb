import TenantFleet.Lifecycle.Capacity
import TenantFleet.Proofs.Passes.Running

/-!
# Changes of targets

A change of a target's status is made from the target as it is stored, so with
no other writer about it is made at the first attempt.  Either nothing is
written, or the status of the one target is.
-/

namespace TenantFleet

namespace TargetChange

variable {change : TargetChange} {settings : Settings} {key : ObjectKey} {world : World}

/-- Whether the change leaves the metadata of targets alone. -/
def KeepsMetadata (change : TargetChange) : Prop :=
  ∀ ⦃target changed : Target⦄, change.apply target = some changed →
    changed.metadata = target.metadata

theorem apply_placing (target : Target) (instanceKey : ObjectKey) :
    (placing instanceKey).apply target =
      if target.hosts instanceKey then none else some (target.assigning instanceKey) := rfl

theorem apply_removing (target : Target) (instanceKey : ObjectKey) :
    (removing instanceKey).apply target =
      if target.hosts instanceKey then some (target.releasing instanceKey) else none := rfl

theorem apply_publishing (target : Target) :
    publishing.apply target =
      if target.status.capacity = some target.placesLeft then none else some target.published :=
  rfl

theorem placing_keepsMetadata (instanceKey : ObjectKey) : (placing instanceKey).KeepsMetadata := by
  intro target changed applied
  rw [apply_placing, Option.ite_none_left_eq_some] at applied
  exact Option.some.inj applied.2 ▸ rfl

theorem removing_keepsMetadata (instanceKey : ObjectKey) :
    (removing instanceKey).KeepsMetadata := by
  intro target changed applied
  rw [apply_removing, Option.ite_none_right_eq_some] at applied
  exact Option.some.inj applied.2 ▸ rfl

theorem publishing_keepsMetadata : publishing.KeepsMetadata := by
  intro target changed applied
  rw [apply_publishing, Option.ite_none_left_eq_some] at applied
  exact Option.some.inj applied.2 ▸ rfl

theorem runOn_absent (absent : world.store.find? .target key = none) :
    (change.run settings key).runOn world =
      (if change.absentIsDone then .ok false
        else .error ⟨change.operation, .getTarget, .store (.notFound .target key)⟩, world) := by
  unfold run perform
  rw [Pass.runOn_readStore_bind]
  simp only [absent]
  split <;> rfl

theorem runOn_idle {target : Target} (found : world.store.find? .target key = some target)
    (idle : change.apply target = none) :
    (change.run settings key).runOn world = (.ok false, world) := by
  unfold run perform
  rw [Pass.runOn_readStore_bind]
  simp only [found, idle]
  rfl

theorem runOn_written (keeps : change.KeepsMetadata) {target changed : Target}
    (found : world.store.find? .target key = some target)
    (applied : change.apply target = some changed) :
    (change.run settings key).runOn world =
      (.ok true, world.commit
        (world.store.write (some target) (world.store.restated target changed.status))) := by
  unfold run perform
  rw [Pass.runOn_readStore_bind]
  simp only [found, applied]
  rw [Pass.runOn_bind, Pass.runOn_attempt,
    World.runOn_setStatus_of_mem changed (Store.mem_list_of_find? found) rfl (keeps applied)]
  rfl

theorem runOn_cases (keeps : change.KeepsMetadata) (settings : Settings) (key : ObjectKey)
    (world : World) :
    (∃ outcome, (change.run settings key).runOn world = (outcome, world)) ∨
      ∃ target changed, world.store.find? .target key = some target ∧
        change.apply target = some changed ∧
        (change.run settings key).runOn world =
          (.ok true, world.commit
            (world.store.write (some target) (world.store.restated target changed.status))) := by
  cases found : world.store.find? .target key with
  | none => exact .inl ⟨_, runOn_absent found⟩
  | some target =>
      cases applied : change.apply target with
      | none => exact .inl ⟨_, runOn_idle found applied⟩
      | some changed =>
          exact .inr ⟨target, changed, rfl, applied, runOn_written keeps found applied⟩

theorem through_run (keeps : change.KeepsMetadata) {sort : Store → Store → Prop}
    (allowed : ∀ target changed, world.store.find? .target key = some target →
      change.apply target = some changed →
        sort world.store
          (world.store.write (some target) (world.store.restated target changed.status))) :
    World.Through sort world ((change.run settings key).runOn world).2 := by
  rcases runOn_cases keeps settings key world with
    ⟨outcome, ran⟩ | ⟨target, changed, found, applied, ran⟩
  · rw [ran]
    exact .refl world
  · rw [ran]
    exact .of_commit (allowed target changed found applied)

/-- Objects of other kinds stay as they are. -/
theorem sameBeside_of_run (keeps : change.KeepsMetadata) {outcome : Except PassFailure Bool}
    {after : World} (ran : (change.run settings key).runOn world = (outcome, after)) :
    Store.SameBeside .target world.store after.store := by
  rcases runOn_cases keeps settings key world with
    ⟨_, isIdle⟩ | ⟨target, changed, -, -, isWritten⟩
  · obtain ⟨-, rfl⟩ := Prod.mk.inj (isIdle.symm.trans ran)
    exact .refl world.store
  · obtain ⟨-, rfl⟩ := Prod.mk.inj (isWritten.symm.trans ran)
    exact Store.sameBeside_write _ _ _

end TargetChange

section Places

variable {settings : Settings} {targetKey instanceKey : ObjectKey} {world : World}
  {sort : Store → Store → Prop}

theorem through_assignPlace
    (allowed : ∀ target, world.store.find? .target targetKey = some target →
      Target.hosts target instanceKey = false →
        sort world.store (world.store.write (some target)
          (world.store.restated target (Target.assigning target instanceKey).status))) :
    World.Through sort world ((assignPlace settings targetKey instanceKey).runOn world).2 := by
  refine TargetChange.through_run (TargetChange.placing_keepsMetadata instanceKey)
    fun target changed targetFound applied => ?_
  rw [TargetChange.apply_placing, Option.ite_none_left_eq_some] at applied
  obtain ⟨unhosted, placed⟩ := applied
  obtain rfl := Option.some.inj placed
  exact allowed target targetFound (by simpa using unhosted)

theorem through_releasePlace
    (allowed : ∀ target, world.store.find? .target targetKey = some target →
      Target.hosts target instanceKey = true →
        sort world.store (world.store.write (some target)
          (world.store.restated target (Target.releasing target instanceKey).status))) :
    World.Through sort world ((releasePlace settings targetKey instanceKey).runOn world).2 := by
  refine TargetChange.through_run (TargetChange.removing_keepsMetadata instanceKey)
    fun target changed targetFound applied => ?_
  rw [TargetChange.apply_removing, Option.ite_none_right_eq_some] at applied
  obtain ⟨hosted, released⟩ := applied
  obtain rfl := Option.some.inj released
  exact allowed target targetFound hosted

theorem sameBeside_of_assignPlace {outcome : Except PassFailure Bool} {after : World}
    (ran : (assignPlace settings targetKey instanceKey).runOn world = (outcome, after)) :
    Store.SameBeside .target world.store after.store :=
  TargetChange.sameBeside_of_run (TargetChange.placing_keepsMetadata instanceKey) ran

theorem sameBeside_of_releasePlace {outcome : Except PassFailure Bool} {after : World}
    (ran : (releasePlace settings targetKey instanceKey).runOn world = (outcome, after)) :
    Store.SameBeside .target world.store after.store :=
  TargetChange.sameBeside_of_run (TargetChange.removing_keepsMetadata instanceKey) ran

end Places

/-- Once the place of an instance is given back, no target under the key lists it. -/
theorem hosts_of_releasePlace {settings : Settings} {targetKey instanceKey : ObjectKey}
    {world after : World} {released : Bool}
    (ran : (releasePlace settings targetKey instanceKey).runOn world = (.ok released, after)) :
    ∀ target : Target, after.store.find? .target targetKey = some target →
      target.hosts instanceKey = false := by
  intro target found
  unfold releasePlace at ran
  cases wasFound : world.store.find? .target targetKey with
  | none =>
      rw [TargetChange.runOn_absent wasFound] at ran
      obtain ⟨-, rfl⟩ := Prod.mk.inj ran
      rw [wasFound] at found
      contradiction
  | some stored =>
      cases hosted : Target.hosts stored instanceKey with
      | false =>
          rw [TargetChange.runOn_idle wasFound
            (by rw [TargetChange.apply_removing, hosted]; rfl)] at ran
          obtain ⟨-, rfl⟩ := Prod.mk.inj ran
          rw [wasFound] at found
          exact Option.some.inj found ▸ hosted
      | true =>
          rw [TargetChange.runOn_written (TargetChange.removing_keepsMetadata instanceKey) wasFound
            (by rw [TargetChange.apply_removing, hosted, if_pos rfl])] at ran
          obtain ⟨-, rfl⟩ := Prod.mk.inj ran
          rw [World.commit, Store.find?_restated wasFound] at found
          obtain rfl := Option.some.inj found
          simp [Target.hosts, Store.restated, Target.releasing, Target.published]

/-- Once an instance has its place, the target under the key lists it. -/
theorem hosts_of_assignPlace {settings : Settings} {targetKey instanceKey : ObjectKey}
    {world after : World} {assigned : Bool}
    (ran : (assignPlace settings targetKey instanceKey).runOn world = (.ok assigned, after)) :
    ∃ target : Target, after.store.find? .target targetKey = some target ∧
      target.hosts instanceKey = true := by
  unfold assignPlace at ran
  cases wasFound : world.store.find? .target targetKey with
  | none =>
      rw [TargetChange.runOn_absent wasFound] at ran
      cases ran
  | some stored =>
      cases hosted : Target.hosts stored instanceKey with
      | true =>
          rw [TargetChange.runOn_idle wasFound
            (by rw [TargetChange.apply_placing, hosted, if_pos rfl])] at ran
          obtain ⟨-, rfl⟩ := Prod.mk.inj ran
          exact ⟨stored, wasFound, hosted⟩
      | false =>
          rw [TargetChange.runOn_written (TargetChange.placing_keepsMetadata instanceKey) wasFound
            (by rw [TargetChange.apply_placing, hosted]; rfl)] at ran
          obtain ⟨-, rfl⟩ := Prod.mk.inj ran
          refine ⟨world.store.restated stored (Target.assigning stored instanceKey).status, ?_, ?_⟩
          · exact Store.find?_restated wasFound _
          · simp [Target.hosts, Store.restated, Target.assigning, Target.published]

namespace Target

/-- A write of the pass on the target under `key`. -/
inductive Write (key : ObjectKey) (store : Store) : Store → Prop
  | published {target : Target} (isFound : store.find? .target key = some target)
      (stale : target.status.capacity ≠ some target.placesLeft) :
      Write key store
        (store.write (some target) (store.restated target target.published.status))

theorem Write.sameBeside {key : ObjectKey} {store after : Store} (written : Write key store after) :
    Store.SameBeside .target store after := by
  cases written with
  | published => exact Store.sameBeside_write _ _ _

theorem through_reconcile (settings : Settings) (key : ObjectKey) (world : World) :
    World.Through (Write key) world ((reconcileTarget settings key).runOn world).2 := by
  refine TargetChange.through_run TargetChange.publishing_keepsMetadata
    fun target changed targetFound applied => ?_
  rw [TargetChange.apply_publishing, Option.ite_none_left_eq_some] at applied
  obtain ⟨stale, published⟩ := applied
  obtain rfl := Option.some.inj published
  exact .published targetFound stale

end Target

end TenantFleet
