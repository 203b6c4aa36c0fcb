import TenantFleet.Proofs.Passes.Outcomes

/-!
# Deployments that have converged

A pass says that a deployment has converged on whatever store it was begun, be
what its objects say of each other true or not.  Then the instance that the
status names is there, as the deployment asks for it, the target of the instance
lists it, and the status tells what there is.  The pass has come there in three
steps, each of which may find nothing to do: it makes or renews the instance,
gives it its place, and writes the status.  Begun on what it has left, it finds
nothing to do in all three.
-/

namespace TenantFleet

/-- The target lists one instance more than before, and publishes the places that are left. -/
structure Target.Gains (earlier later : Target) (instanceKey : ObjectKey) : Prop where
  unlisted : instanceKey ∉ earlier.status.assigned
  assigned : later.status.assigned = earlier.status.assigned ++ [instanceKey]
  published : later.status.capacity = some (nominalPlaces - (earlier.status.assigned.length + 1))
  sameSpec : later.spec = earlier.spec
  sameMetadata : later.metadata =
    { earlier.metadata with resourceVersion := later.metadata.resourceVersion }

/-- Of the kind whose objects change, only the one under the text does. -/
theorem Store.SameBeside.find?_of_apart {kind read : Kind} {before after : Store} {text : String}
    {other : ObjectKey} (same : SameBeside kind before after)
    (others : ∀ other : ObjectKey, text ≠ other.text →
      after.find? kind other = before.find? kind other)
    (apart : read = kind → text ≠ other.text) :
    after.find? read other = before.find? read other := by
  by_cases isKind : read = kind
  · subst isKind
    exact others other (apart rfl)
  · exact same.find? isKind other

namespace Deployment

variable {settings : Settings} {key : ObjectKey} {world after : World} {before store : Store}
  {deployment : Deployment} {realised : TenantInstance} {target : Target}

/-- The deployment has its instance, the instance is as the deployment asks for it and has its
place, and the status of the deployment tells what there is. -/
structure HasConverged (store : Store) (key : ObjectKey) (deployment : Deployment)
    (realised : TenantInstance) (target : Target) : Prop where
  isFound : store.find? .deployment key = some deployment
  unmarked : deployment.isMarked = false
  isHeld : deployment.isHeld = true
  named : deployment.status.instanceKey = some realised.key
  instanceFound : store.find? .tenantInstance realised.key = some realised
  lasting : realised.isMarked = false
  sameWorkload : InstanceSpec.workload realised.spec =
    DeploymentSpec.workload deployment.withDefaults.spec
  targetFound : store.find? .target realised.spec.targetKey = some target
  listed : realised.key ∈ target.status.assigned
  samePhase : deployment.status.phase = realised.status.phase
  observed : deployment.status.observedGeneration = deployment.metadata.generation
  sameMode : deployment.status.dataPlaneMode = .of deployment.spec.dataPlane
  faultless : deployment.status.lastError = none

/-- What a pass on the deployment may have changed when it says that this has converged. -/
structure ChangesOnly (before after : Store) (key : ObjectKey) (deployment : Deployment)
    (realised : TenantInstance) (target : Target) : Prop where
  elsewhere : ∀ kind (other : ObjectKey),
    (kind, other.text) ∉ [(Kind.deployment, key.text), (.tenantInstance, realised.keyText),
      (.target, realised.spec.targetKey.text)] →
    after.find? kind other = before.find? kind other
  deploymentKept : ∃ earlier : Deployment, before.find? .deployment key = some earlier ∧
    deployment =
      { earlier with
        status := deployment.status
        metadata :=
          { earlier.metadata with resourceVersion := deployment.metadata.resourceVersion } }
  instanceKept : ∀ earlier : TenantInstance,
    before.find? .tenantInstance realised.key = some earlier →
      realised.spec.targetKey = earlier.spec.targetKey ∧ realised.spec.id = earlier.spec.id ∧
        realised.spec.tenantId = earlier.spec.tenantId ∧ realised.status = earlier.status
  targetKept : ∃ earlier : Target,
    before.find? .target realised.spec.targetKey = some earlier ∧
      (target = earlier ∨ earlier.Gains target realised.key)

namespace HasConverged

theorem settledStatus_eq (converged : HasConverged store key deployment realised target) :
    deployment.settledStatus realised = deployment.status := by
  unfold settledStatus
  rw [← converged.observed, ← converged.named, ← converged.faultless, ← converged.samePhase,
    ← converged.sameMode]

theorem carried (converged : HasConverged store key deployment realised target) :
    (carriedInto deployment.withDefaults realised).spec = realised.spec := by
  obtain ⟨sameConfiguration, sameAvailability, sameDataPlane⟩ :=
    Workload.mk.inj converged.sameWorkload
  unfold carriedInto
  simp only
  rw [← sameConfiguration, ← sameAvailability, ← sameDataPlane]

theorem isSteady (converged : HasConverged store key deployment realised target) :
    IsSteady store key deployment realised where
  isFound := converged.isFound
  unmarked := converged.unmarked
  isHeld := converged.isHeld
  hasInstance := Store.instanceOf?_of_named converged.named converged.instanceFound
  lasting := converged.lasting
  carried := converged.carried

/-- Once the deployment has converged, the pass finds nothing to do. -/
theorem runOn_reconcile (converged : HasConverged world.store key deployment realised target)
    (settings : Settings) : (reconcile settings key).runOn world = (.ok .converged, world) := by
  have hosted : target.hosts realised.key = true := by
    simpa [Target.hosts] using converged.listed
  have nothing : statusWrites world.store deployment realised = [] := by
    unfold statusWrites
    simp only
    rw [if_pos converged.settledStatus_eq]
  rw [converged.isSteady.runOn_reconcile, Pass.runOn_onFailure,
    runOn_settle_of_hosted (Store.mem_list_of_find? converged.isFound) converged.targetFound hosted,
    nothing]
  rfl

end HasConverged

/-- The first step has been made: the instance is there as the deployment asks for it, and no other
object has changed. -/
structure Furnishes (before store : Store) (key : ObjectKey) (deployment : Deployment)
    (realised : TenantInstance) : Prop where
  isFound : before.find? .deployment key = some deployment
  instanceFound : store.find? .tenantInstance realised.key = some realised
  lasting : realised.isMarked = false
  carried : (carriedInto deployment.withDefaults realised).spec = realised.spec
  same : Store.SameBeside .tenantInstance before store
  others : ∀ other : ObjectKey, realised.keyText ≠ other.text →
    store.find? .tenantInstance other = before.find? .tenantInstance other
  kept : ∀ earlier : TenantInstance,
    before.find? .tenantInstance realised.key = some earlier →
      realised.spec.targetKey = earlier.spec.targetKey ∧ realised.spec.id = earlier.spec.id ∧
        realised.spec.tenantId = earlier.spec.tenantId ∧ realised.status = earlier.status

theorem furnishes_new (isFound : store.find? .deployment key = some deployment)
    {made : TenantInstance} (isNew : IsNewInstance store deployment.withDefaults made) :
    Furnishes store (store.write none made) key deployment made := by
  have unmarked := isNew.isMarked_eq_false
  obtain ⟨rules, target, id, suffix, now, -, -, isMade, free⟩ := isNew
  refine ⟨isFound, Store.find?_write_self _ _ _, unmarked, ?_, Store.sameBeside_write _ _ _,
    fun other different => ?_, fun earlier wasFound => ?_⟩
  · rw [isMade]
    rfl
  · rw [Store.find?_write, if_neg different]
  · rw [free] at wasFound
    contradiction

theorem furnishes_existing (isFound : store.find? .deployment key = some deployment)
    (present : realised ∈ store.list .tenantInstance) (lasting : realised.isMarked = false)
    (carried : (carriedInto deployment.withDefaults realised).spec = realised.spec) :
    Furnishes store store key deployment realised := by
  have instanceFound := Store.find?_key_of_mem present
  refine ⟨isFound, instanceFound, lasting, carried, .refl store, fun _ _ => rfl,
    fun earlier wasFound => ?_⟩
  obtain rfl := Option.some.inj (instanceFound.symm.trans wasFound)
  exact ⟨rfl, rfl, rfl, rfl⟩

theorem furnishes_renewed (isFound : store.find? .deployment key = some deployment)
    {existing : TenantInstance} (present : existing ∈ store.list .tenantInstance)
    (lasting : existing.isMarked = false) :
    let renewed := store.replacement existing (carriedInto deployment.withDefaults existing)
    Furnishes store (store.write (some existing) renewed) key deployment renewed := by
  intro renewed
  refine ⟨isFound, Store.find?_write_self _ _ _, lasting, rfl, Store.sameBeside_write _ _ _,
    fun other different => ?_, fun earlier wasFound => ?_⟩
  · rw [Store.find?_write, if_neg different]
  · have instanceFound := Store.find?_key_of_mem present
    obtain rfl := Option.some.inj (instanceFound.symm.trans wasFound)
    exact ⟨rfl, rfl, rfl, rfl⟩

theorem furnishes_of_makeInstance
    (isFound : world.store.find? .deployment key = some deployment)
    (making : (makeInstance settings deployment.withDefaults).runOn world = (.ok realised, after)) :
    Furnishes world.store after.store key deployment realised := by
  rcases runOn_makeInstance settings deployment.withDefaults world with
    ⟨failure, failed, refused, -, -⟩ | ⟨created, last, wrote, isNew, isLast, -⟩
  · rw [refused] at making
    cases making
  · rw [wrote] at making
    cases making
    rw [isLast]
    exact furnishes_new isFound isNew

theorem furnishes_of_renewInstance
    (isFound : world.store.find? .deployment key = some deployment) {existing : TenantInstance}
    (present : existing ∈ world.store.list .tenantInstance) (lasting : existing.isMarked = false)
    (renewing : (renewInstance deployment.withDefaults existing).runOn world =
      (.ok realised, after)) :
    Furnishes world.store after.store key deployment realised := by
  by_cases carried : (carriedInto deployment.withDefaults existing).spec = existing.spec
  · have unchanged : renewInstance deployment.withDefaults existing = pure existing := by
      unfold renewInstance
      simp only
      rw [if_pos carried]
    rw [unchanged] at renewing
    cases renewing
    exact furnishes_existing isFound present lasting carried
  · rw [runOn_renewInstance_of_changed present lasting carried] at renewing
    cases renewing
    exact furnishes_renewed isFound present lasting

/-- What is settled in the end has been furnished before. -/
theorem exists_furnishes_of_realise (isFound : world.store.find? .deployment key = some deployment)
    (ran : (realise settings deployment).runOn world = (.ok .converged, after)) :
    ∃ (middle : World) (realised : TenantInstance),
      Furnishes world.store middle.store key deployment realised ∧
        (settle settings deployment realised).runOn middle = (.ok .converged, after) := by
  cases found : world.store.instanceOf? deployment with
  | none =>
      rw [runOn_realise_of_vacant settings found] at ran
      obtain ⟨made, middle, making, settling⟩ := Pass.exists_of_bind_ok ran
      exact ⟨middle, made, furnishes_of_makeInstance isFound making, settling⟩
  | some existing =>
      have present := (Store.realises_of_instanceOf? found).1
      cases lasting : Object.isMarked existing with
      | true =>
          unfold realise at ran
          rw [Pass.runOn_readStore_bind] at ran
          simp only [found, lasting, if_true] at ran
          cases ran
      | false =>
          rw [runOn_realise_of_lasting settings found lasting] at ran
          obtain ⟨realised, middle, renewing, settling⟩ := Pass.exists_of_bind_ok ran
          exact ⟨middle, realised, furnishes_of_renewInstance isFound present lasting renewing,
            settling⟩

/-- The second step: the target is there and lists the instance, and no other object has changed. -/
structure Places (store placed : Store) (realised : TenantInstance) (target : Target) : Prop where
  targetFound : placed.find? .target realised.spec.targetKey = some target
  listed : realised.key ∈ target.status.assigned
  same : Store.SameBeside .target store placed
  others : ∀ other : ObjectKey, realised.spec.targetKey.text ≠ other.text →
    placed.find? .target other = store.find? .target other
  kept : ∃ earlier : Target, store.find? .target realised.spec.targetKey = some earlier ∧
    (target = earlier ∨ earlier.Gains target realised.key)

theorem places_hosted (targetFound : store.find? .target realised.spec.targetKey = some target)
    (hosted : target.hosts realised.key = true) : Places store store realised target where
  targetFound := targetFound
  listed := by simpa [Target.hosts] using hosted
  same := .refl store
  others _ _ := rfl
  kept := ⟨target, targetFound, .inl rfl⟩

theorem places_placed (targetFound : store.find? .target realised.spec.targetKey = some target)
    (unhosted : target.hosts realised.key = false) :
    Places store (placed store target realised) realised
      (store.restated target (target.assigning realised.key).status) := by
  refine ⟨?_, ?_, Store.sameBeside_write _ _ _, fun other different => ?_,
    target, targetFound, .inr ⟨?_, rfl, ?_, rfl, rfl⟩⟩
  · exact Store.find?_restated targetFound _
  · exact List.mem_append_right _ (List.mem_singleton_self _)
  · exact Store.find?_restated_of_ne targetFound different _
  · simpa [Target.hosts] using unhosted
  · simp [Store.restated, Target.assigning, Target.published, Target.placesLeft,
      Target.hostedCount]

/-- The third step: the status tells what there is, and no other object has changed. -/
structure Tells (store last : Store) (key : ObjectKey) (deployment settled : Deployment)
    (realised : TenantInstance) : Prop where
  isFound : last.find? .deployment key = some settled
  isSettled : settled =
    { deployment with
      status := deployment.settledStatus realised
      metadata :=
        { deployment.metadata with resourceVersion := settled.metadata.resourceVersion } }
  same : Store.SameBeside .deployment store last
  others : ∀ other : ObjectKey, key.text ≠ other.text →
    last.find? .deployment other = store.find? .deployment other

theorem exists_tells (isFound : store.find? .deployment key = some deployment)
    (realised : TenantInstance) :
    ∃ settled : Deployment,
      Tells store ((statusWrites store deployment realised).getLastD store) key deployment settled
        realised := by
  unfold statusWrites
  simp only
  split
  next unchanged =>
    refine ⟨deployment, isFound, ?_, .refl store, fun _ _ => rfl⟩
    rw [unchanged]
  next =>
    refine ⟨store.restated deployment (deployment.settledStatus realised), ?_, rfl,
      Store.sameBeside_write _ _ _, fun other different => ?_⟩
    · exact Store.find?_restated isFound _
    · exact Store.find?_restated_of_ne isFound different _

theorem exists_places_of_settle (isFound : world.store.find? .deployment key = some deployment)
    (ran : (settle settings deployment realised).runOn world = (.ok .converged, after)) :
    ∃ (middle : Store) (target : Target), Places world.store middle realised target ∧
      after.store = (statusWrites middle deployment realised).getLastD middle := by
  have present := Store.mem_list_of_find? isFound
  cases targetFound : world.store.find? .target realised.spec.targetKey with
  | none =>
      rw [runOn_settle_of_absent targetFound] at ran
      cases ran
  | some target =>
      cases hosted : Target.hosts target realised.key with
      | true =>
          rw [runOn_settle_of_hosted present targetFound hosted] at ran
          cases ran
          exact ⟨world.store, target, places_hosted targetFound hosted,
            (world.wrote_commitAll _).isLast⟩
      | false =>
          rw [runOn_settle_of_unhosted present targetFound hosted] at ran
          cases ran
          exact ⟨_, _, places_placed targetFound hosted, (World.wrote_commitAll _ _).isLast⟩

section Steps

variable {middle placed last : Store} {target : Target} {settled : Deployment}

theorem hasConverged_of_steps (unmarked : deployment.isMarked = false)
    (isHeld : deployment.isHeld = true)
    (furnishes : Furnishes before middle key deployment realised)
    (places : Places middle placed realised target)
    (tells : Tells placed last key deployment settled realised) :
    HasConverged last key settled realised target := by
  have isSettled := tells.isSettled
  have instanceFound : last.find? .tenantInstance realised.key = some realised := by
    rw [tells.same.find? (by decide), places.same.find? (by decide), furnishes.instanceFound]
  have targetFound : last.find? .target realised.spec.targetKey = some target := by
    rw [tells.same.find? (by decide), places.targetFound]
  have sameWorkload : InstanceSpec.workload realised.spec =
      DeploymentSpec.workload settled.withDefaults.spec := by
    have carried := congrArg InstanceSpec.workload furnishes.carried
    rw [isSettled, ← carried]
    rfl
  exact {
    isFound := tells.isFound
    unmarked := by rw [isSettled]; exact unmarked
    isHeld := by rw [isSettled]; exact isHeld
    named := by rw [isSettled]; rfl
    instanceFound := instanceFound
    lasting := furnishes.lasting
    sameWorkload := sameWorkload
    targetFound := targetFound
    listed := places.listed
    samePhase := by rw [isSettled]; rfl
    observed := by rw [isSettled]; rfl
    sameMode := by rw [isSettled]; rfl
    faultless := by rw [isSettled]; rfl }

theorem changesOnly_of_steps (furnishes : Furnishes before middle key deployment realised)
    (places : Places middle placed realised target)
    (tells : Tells placed last key deployment settled realised) :
    ChangesOnly before last key settled realised target := by
  refine ⟨fun kind other apart => ?_, ⟨deployment, furnishes.isFound, ?_⟩, furnishes.kept, ?_⟩
  · simp only [List.mem_cons, Prod.mk.injEq, List.not_mem_nil, or_false, not_or, not_and]
      at apart
    obtain ⟨notDeployment, notInstance, notTarget⟩ := apart
    have untold := tells.same.find?_of_apart tells.others fun isKind =>
      Ne.symm (notDeployment isKind)
    have unplaced := places.same.find?_of_apart places.others fun isKind =>
      Ne.symm (notTarget isKind)
    have unfurnished := furnishes.same.find?_of_apart furnishes.others fun isKind =>
      Ne.symm (notInstance isKind)
    exact untold.trans (unplaced.trans unfurnished)
  · have sameStatus : settled.status = deployment.settledStatus realised := by
      rw [tells.isSettled]
    rw [sameStatus]
    exact tells.isSettled
  · obtain ⟨earlier, earlierFound, gains⟩ := places.kept
    rw [furnishes.same.find? (by decide)] at earlierFound
    exact ⟨earlier, earlierFound, gains⟩

/-- The three steps together. -/
theorem exists_hasConverged (unmarked : deployment.isMarked = false)
    (isHeld : deployment.isHeld = true)
    (furnishes : Furnishes before middle key deployment realised)
    (places : Places middle placed realised target) :
    let last := (statusWrites placed deployment realised).getLastD placed
    ∃ settled : Deployment, HasConverged last key settled realised target ∧
      ChangesOnly before last key settled realised target := by
  have placedFound : placed.find? .deployment key = some deployment := by
    rw [places.same.find? (by decide), furnishes.same.find? (by decide), furnishes.isFound]
  obtain ⟨settled, tells⟩ := exists_tells placedFound realised
  exact ⟨settled, hasConverged_of_steps unmarked isHeld furnishes places tells,
    changesOnly_of_steps furnishes places tells⟩

end Steps

end Deployment

end TenantFleet
