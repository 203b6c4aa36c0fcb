import TenantFleet.Proofs.Placement.Choice
import TenantFleet.Proofs.Quiet.Marks
import TenantFleet.Proofs.Resumption.Deployment

/-!
# Deployments at rest

A deployment is at rest when the pass on it finds everything written down: that
the instance has its place, that the target of the instance is missing, or that
there is no place for one.  Unless the draws find no free id or name, one pass
brings a deployment to rest that is there to stay.
-/

namespace TenantFleet

namespace PassFailure

variable {failure : PassFailure}

/-- Whether every id, or every suffix of a name, that was drawn is taken. -/
def isExhaustion (failure : PassFailure) : Bool :=
  match failure.cause with
  | .idsExhausted _ | .store (.namesTaken _ _ _) => true
  | _ => false

/-- What is recorded once is not recorded again. -/
theorem isRecordedBy_record (failure : PassFailure) (previous : Option FailureRecord) (now : Nat) :
    failure.isRecordedBy (failure.record previous now) = true := by
  simp [isRecordedBy, record, FailureRecord.next]

end PassFailure

theorem isExhaustion_of_freshIdWithin {taken : List String} {attempts : Nat} {world : World}
    {failure : PassFailure}
    (failed : ((freshIdWithin taken attempts).runOn world).1 = .error failure) :
    failure.isExhaustion = true := by
  induction attempts generalizing world with
  | zero =>
      obtain rfl := Except.error.inj failed
      rfl
  | succ attempts ih =>
      unfold freshIdWithin at failed
      rw [Pass.runOn_lift_bind] at failed
      simp only at failed
      split at failed
      · exact ih failed
      · contradiction

namespace Deployment

variable {settings : Settings} {key : ObjectKey} {world : World} {store after : Store}
  {deployment : Deployment} {realised : TenantInstance} {failure : PassFailure}

/-- For the reason given, no instance can be made of the deployment as the store is. -/
inductive Unplaceable (settings : Settings) (store : Store) (deployment : Deployment) :
    PassFailure → Prop
  | unruled {error : StoreError} (refused : store.rulesFor settings = .error error) :
      Unplaceable settings store deployment ⟨.reconcile, .getScheduling, .store error⟩
  | unhoused {rules : List SchedulingRule} (ruled : store.rulesFor settings = .ok rules)
      (noneChosen : deployment.chosenTarget? rules (store.list .target) = none) :
      Unplaceable settings store deployment ⟨.reconcile, .findTarget, .noCapacity⟩

theorem Unplaceable.runOn_makeInstance
    (unplaceable : Unplaceable settings world.store deployment failure) :
    (makeInstance settings deployment).runOn world = (.error failure, world) := by
  unfold makeInstance
  rw [Pass.runOn_bind, Pass.runOn_during, World.runOn_reading]
  cases unplaceable with
  | unruled refused =>
      rw [refused]
      rfl
  | unhoused ruled noneChosen =>
      rw [ruled, Pass.mapError_ok]
      simp only
      rw [Pass.runOn_readStore_bind, noneChosen]
      rfl

theorem isExhaustion_of_create {target : ObjectKey} {id : String}
    (failed : (((World.create (deployment.newInstance target id)).during
      .reconcile .createInstance).runOn world).1 = .error failure) :
    failure.isExhaustion = true := by
  have started : (deployment.newInstance target id).metadata.generateName ≠ "" := by
    simp [newInstance]
  rw [Pass.runOn_during] at failed
  cases done : world.store.create (deployment.newInstance target id) world.clock.next
      world.suffixes.ahead with
  | ok result =>
      rw [World.runOn_create_of_ok done] at failed
      contradiction
  | error error =>
      rw [World.runOn_create_of_error done] at failed
      obtain rfl := Except.error.inj failed
      obtain rfl := Store.namesTaken_of_create (by decide) rfl started done
      rfl

/-- Making an instance fails when there is no place for it, or nothing free to call it. -/
theorem unplaceable_or_exhaustion
    (failed : ((makeInstance settings deployment).runOn world).1 = .error failure) :
    Unplaceable settings world.store deployment failure ∨ failure.isExhaustion = true := by
  unfold makeInstance at failed
  rw [Pass.runOn_bind, Pass.runOn_during, World.runOn_reading] at failed
  cases ruled : world.store.rulesFor settings with
  | error error =>
      rw [ruled] at failed
      obtain rfl := Except.error.inj failed
      exact .inl (.unruled ruled)
  | ok rules =>
      rw [ruled, Pass.mapError_ok] at failed
      simp only at failed
      rw [Pass.runOn_readStore_bind] at failed
      cases chosen : deployment.chosenTarget? rules (world.store.list .target) with
      | none =>
          rw [chosen] at failed
          obtain rfl := Except.error.inj failed
          exact .inl (.unhoused ruled chosen)
      | some target =>
          rw [chosen] at failed
          simp only at failed
          rw [Pass.runOn_bind] at failed
          cases drew : (freshId ((world.store.listIn .tenantInstance deployment.key.scope).map
              fun neighbour => neighbour.spec.id)).runOn world with
          | mk outcome middle =>
              rw [drew] at failed
              cases outcome with
              | ok id => exact .inr (isExhaustion_of_create failed)
              | error error =>
                  obtain rfl := Except.error.inj failed
                  exact .inr (isExhaustion_of_freshIdWithin (congrArg Prod.fst drew))

/-- The pass finds nothing to write for the deployment: it is realised and says so, or it says why
it is not. -/
inductive IsAtRest (settings : Settings) (store : Store) (deployment : Deployment) : Prop
  | settled {realised : TenantInstance} {target : Target}
      (steady : IsSteady store deployment.key deployment realised)
      (targetFound : store.find? .target realised.spec.targetKey = some target)
      (hosted : target.hosts realised.key = true)
      (told : deployment.settledStatus realised = deployment.status) :
      IsAtRest settings store deployment
  | stranded {realised : TenantInstance}
      (steady : IsSteady store deployment.key deployment realised)
      (absent : store.find? .target realised.spec.targetKey = none)
      (recorded : deployment.status.lastError.any
        (PassFailure.isRecordedBy ⟨.reconcile, .getTarget,
          .store (.notFound .target realised.spec.targetKey)⟩) = true) :
      IsAtRest settings store deployment
  | unplaced {failure : PassFailure} (present : deployment ∈ store.list .deployment)
      (unmarked : deployment.isMarked = false) (isHeld : deployment.isHeld = true)
      (vacant : store.instanceOf? deployment = none)
      (unplaceable : Unplaceable settings store deployment.withDefaults failure)
      (recorded : deployment.status.lastError.any failure.isRecordedBy = true) :
      IsAtRest settings store deployment

/-- The deployment under the key is at rest. -/
def Rests (settings : Settings) (store : Store) (key : ObjectKey) : Prop :=
  ∃ deployment, store.find? .deployment key = some deployment ∧ IsAtRest settings store deployment

theorem recordFailure_of_recorded
    (isFound : world.store.find? .deployment key = some deployment)
    (recorded : deployment.status.lastError.any failure.isRecordedBy = true) :
    (recordFailure key failure world).2 = world := by
  unfold recordFailure
  rw [World.readStore_bind]
  simp only [isFound, recorded, if_true]
  rfl

/-- The pass on a deployment at rest leaves everything as it is, the draws included. -/
theorem IsAtRest.runOn_reconcile (atRest : IsAtRest settings world.store deployment) :
    ((reconcile settings deployment.key).runOn world).2 = world := by
  cases atRest with
  | settled steady targetFound hosted told =>
      rw [steady.commitAll_of_hosted targetFound hosted rfl, statusWrites, if_pos told]
      rfl
  | stranded steady absent recorded =>
      rw [steady.runOn_reconcile, Pass.runOn_onFailure, runOn_settle_of_absent absent]
      exact recordFailure_of_recorded steady.isFound recorded
  | @unplaced failure present unmarked isHeld vacant unplaceable recorded =>
      have isFound := Store.find?_key_of_mem present
      have failed : (realise settings deployment).runOn world = (.error failure, world) := by
        rw [runOn_realise_of_vacant settings vacant, Pass.runOn_bind,
          unplaceable.runOn_makeInstance]
      rw [runOn_reconcile_of_failed isFound unmarked isHeld failed]
      exact recordFailure_of_recorded isFound recorded

/-- The store once the deployment has the status. -/
def retold (store : Store) (deployment : Deployment) (status : DeploymentStatus) : Store :=
  store.write (some deployment) (store.restated deployment status)

theorem sameBeside_retold (store : Store) (deployment : Deployment) (status : DeploymentStatus) :
    Store.SameBeside .deployment store (retold store deployment status) :=
  Store.sameBeside_write _ _ _

theorem find?_retold (isFound : store.find? .deployment key = some deployment)
    (status : DeploymentStatus) :
    (retold store deployment status).find? .deployment key =
      some (store.restated deployment status) := by
  exact Store.find?_restated isFound status

/-- A status that names the same instance leads to the same. -/
theorem instanceOf?_retold (store : Store) (status : DeploymentStatus)
    (sameName : status.instanceKey = deployment.status.instanceKey) :
    (retold store deployment status).instanceOf? (store.restated deployment status) =
      store.instanceOf? deployment := by
  rw [Store.instanceOf?_congr (sameBeside_retold store deployment status) (by decide)]
  have same : (store.restated deployment status).status.instanceKey =
      deployment.status.instanceKey := sameName
  unfold Store.instanceOf?
  rw [same]
  rfl

/-- Either the failure was recorded before, or its record is all that is written. -/
theorem store_of_recordFailure
    (isFound : world.store.find? .deployment key = some deployment) (failure : PassFailure) :
    let after := (recordFailure key failure world).2.store
    (deployment.status.lastError.any failure.isRecordedBy = true ∧ after = world.store) ∨
      ∃ record, failure.isRecordedBy record = true ∧
        after = retold world.store deployment
          { deployment.status with lastError := some record } := by
  intro after
  have wrote := wrote_recordFailure isFound failure
  by_cases recorded : deployment.status.lastError.any failure.isRecordedBy = true
  · exact .inl ⟨recorded, congrArg World.store (recordFailure_of_recorded isFound recorded)⟩
  · have isLast := wrote.isLast
    rw [recordWrites, if_neg recorded] at isLast
    exact .inr ⟨_, failure.isRecordedBy_record _ _, isLast⟩

/-- What cannot be placed for its spec and its labels cannot be placed whatever its status, as long
as the targets have the specs and the labels that they had. -/
theorem Unplaceable.congr {other : Deployment}
    (unplaceable : Unplaceable settings store deployment failure)
    (sameSpec : other.spec = deployment.spec)
    (sameLabels : other.metadata.labels = deployment.metadata.labels)
    (sameRules : after.rulesFor settings = store.rulesFor settings)
    (targets : ∀ target ∈ after.list .target, ∃ earlier ∈ store.list .target,
      earlier.key = target.key ∧ earlier.spec = target.spec ∧
        earlier.metadata.labels = target.metadata.labels) :
    Unplaceable settings after other failure := by
  cases unplaceable with
  | unruled refused => exact .unruled (sameRules.trans refused)
  | @unhoused rules ruled noneChosen =>
      refine .unhoused (sameRules.trans ruled)
        ((chosenTarget?_eq_none_iff (after.nodup_keys .target)).2 fun target eligible => ?_)
      obtain ⟨earlier, present, sameKey, sameTargetSpec, sameTargetLabels⟩ :=
        targets target eligible.candidate.1
      exact (chosenTarget?_eq_none_iff (store.nodup_keys .target)).1 noneChosen earlier
        (eligible.congr sameSpec.symm sameLabels.symm present sameKey sameTargetSpec
          sameTargetLabels)

theorem rulesFor_congr (same : ∀ key, after.find? .scheduling key = store.find? .scheduling key) :
    after.rulesFor settings = store.rulesFor settings := by
  simp only [Store.rulesFor, Store.read, same]

theorem IsSteady.retold (steady : IsSteady store key deployment realised)
    {status : DeploymentStatus}
    (hasInstance : (retold store deployment status).instanceOf?
      (store.restated deployment status) = some realised) :
    let told := store.restated deployment status
    IsSteady (Deployment.retold store deployment status) told.key told realised :=
  ⟨find?_retold (Store.find?_key_of_mem (Store.mem_list_of_find? steady.isFound)) status,
    steady.unmarked, steady.isHeld, hasInstance, steady.lasting, steady.carried⟩

/-- What is written last once the instance has its place leaves the deployment at rest. -/
theorem IsSteady.rests_of_hosted (steady : IsSteady store key deployment realised)
    {target : Target} (targetFound : store.find? .target realised.spec.targetKey = some target)
    (hosted : target.hosts realised.key = true) :
    Rests settings ((statusWrites store deployment realised).getLastD store) key := by
  have isStored := Store.mem_list_of_find? steady.isFound
  have present : realised ∈ store.list .tenantInstance :=
    (Store.realises_of_instanceOf? steady.hasInstance).1
  unfold statusWrites
  simp only
  split
  next told =>
    have own : IsSteady store deployment.key deployment realised :=
      { steady with isFound := Store.find?_key_of_mem isStored }
    exact ⟨deployment, steady.isFound, .settled own targetFound hosted told⟩
  next =>
    let status := deployment.settledStatus realised
    have same := sameBeside_retold store deployment status
    have hasInstance : (Deployment.retold store deployment status).instanceOf?
        (store.restated deployment status) = some realised := by
      refine Store.instanceOf?_of_named rfl ?_
      exact (same.find? (by decide) realised.key).trans (Store.find?_key_of_mem present)
    have stillTarget := (same.find? (by decide) realised.spec.targetKey).trans targetFound
    exact ⟨store.restated deployment status, find?_retold steady.isFound status,
      .settled (steady.retold hasInstance) stillTarget hosted rfl⟩

/-- Settling a steady deployment brings it to rest, with its target or without. -/
theorem IsSteady.rests (steady : IsSteady world.store key deployment realised) :
    Rests settings (((settle settings deployment realised).onFailure (recordFailure key)).runOn
      world).2.store key := by
  have isStored := Store.mem_list_of_find? steady.isFound
  cases targetFound : world.store.find? .target realised.spec.targetKey with
  | none =>
      rw [Pass.runOn_onFailure, runOn_settle_of_absent targetFound]
      simp only
      rcases store_of_recordFailure steady.isFound ⟨.reconcile, .getTarget,
        .store (.notFound .target realised.spec.targetKey)⟩ with
        ⟨recorded, sameStore⟩ | ⟨record, isRecord, isAfter⟩
      · rw [sameStore]
        have own : IsSteady world.store deployment.key deployment realised :=
          { steady with isFound := Store.find?_key_of_mem isStored }
        exact ⟨deployment, steady.isFound, .stranded own targetFound recorded⟩
      · rw [isAfter]
        let status := { deployment.status with lastError := some record }
        have same := sameBeside_retold world.store deployment status
        have hasInstance := (instanceOf?_retold world.store status rfl).trans steady.hasInstance
        exact ⟨_, find?_retold steady.isFound status,
          .stranded (steady.retold hasInstance) ((same.find? (by decide) _).trans targetFound)
            isRecord⟩
  | some target =>
      cases hosted : Target.hosts target realised.key with
      | true =>
          rw [Pass.runOn_onFailure, runOn_settle_of_hosted isStored targetFound hosted]
          simp only
          rw [(world.wrote_commitAll _).isLast]
          exact steady.rests_of_hosted targetFound hosted
      | false =>
          obtain ⟨hosting, hostFound, isHost⟩ := hosts_placed targetFound
          rw [Pass.runOn_onFailure, runOn_settle_of_unhosted isStored targetFound hosted]
          simp only
          rw [((world.commit _).wrote_commitAll _).isLast]
          exact (steady.placed target).rests_of_hosted hostFound isHost

/-- A pass that finds an instance brings it in line, and then settles it. -/
theorem exists_steady_of_lasting (settings : Settings) (coherent : world.store.IsCoherent)
    (isFound : world.store.find? .deployment key = some deployment)
    (unmarked : deployment.isMarked = false) (isHeld : deployment.isHeld = true)
    {existing : TenantInstance} (found : world.store.instanceOf? deployment = some existing)
    (lasting : existing.isMarked = false) :
    ∃ realised middle, IsSteady middle.store key deployment realised ∧
      (reconcile settings key).runOn world =
        ((settle settings deployment realised).onFailure (recordFailure key)).runOn middle := by
  have realises := Store.realises_of_instanceOf? found
  have realising := runOn_realise_of_lasting settings found lasting
  by_cases carried : (carriedInto deployment.withDefaults existing).spec = existing.spec
  · have steady : IsSteady world.store key deployment existing :=
      ⟨isFound, unmarked, isHeld, found, lasting, carried⟩
    exact ⟨existing, world, steady, steady.runOn_reconcile⟩
  · have renewing := runOn_renewInstance_of_changed realises.1 lasting carried
    rw [Pass.runOn_bind, renewing] at realising
    exact ⟨_, _, isSteady_of_renew coherent isFound unmarked isHeld realises lasting,
      runOn_reconcile_of_realise isFound unmarked isHeld realising⟩

theorem rests_of_unplaceable (isFound : world.store.find? .deployment key = some deployment)
    (unmarked : deployment.isMarked = false) (isHeld : deployment.isHeld = true)
    (vacant : world.store.instanceOf? deployment = none)
    (unplaceable : Unplaceable settings world.store deployment.withDefaults failure) :
    Rests settings (recordFailure key failure world).2.store key := by
  rcases store_of_recordFailure isFound failure with
    ⟨recorded, sameStore⟩ | ⟨record, isRecord, isAfter⟩
  · rw [sameStore]
    exact ⟨deployment, isFound, .unplaced (Store.mem_list_of_find? isFound) unmarked isHeld vacant
      unplaceable recorded⟩
  · rw [isAfter]
    let status := { deployment.status with lastError := some record }
    have same := sameBeside_retold world.store deployment status
    have lastFound := find?_retold isFound status
    have stillUnplaceable : Unplaceable settings (retold world.store deployment status)
        (Object.withDefaults (world.store.restated deployment status)) failure := by
      refine unplaceable.congr rfl rfl (rulesFor_congr (same.find? (by decide)))
        fun target present => ⟨target, ?_, rfl, rfl, rfl⟩
      rwa [same.list (by decide)] at present
    exact ⟨_, lastFound, .unplaced (Store.mem_list_of_find? lastFound) unmarked isHeld
      ((instanceOf?_retold world.store status rfl).trans vacant) stillUnplaceable isRecord⟩

/-- One pass brings a deployment to rest that is there to stay, when its instance is as well and
what it draws is free. -/
theorem rests_of_reconcile (settings : Settings) (coherent : world.store.IsCoherent)
    (isFound : world.store.find? .deployment key = some deployment)
    (unmarked : deployment.isMarked = false) (isHeld : deployment.isHeld = true)
    (instances : world.store.LacksMarks .tenantInstance)
    (findsFree : ∀ failure, ((reconcile settings key).runOn world).1 = .error failure →
      failure.isExhaustion = false) :
    Rests settings ((reconcile settings key).runOn world).2.store key := by
  cases found : world.store.instanceOf? deployment with
  | some existing =>
      obtain ⟨realised, middle, steady, ran⟩ := exists_steady_of_lasting settings coherent isFound
        unmarked isHeld found (instances existing (Store.realises_of_instanceOf? found).1)
      rw [ran]
      exact steady.rests
  | none =>
      have realising := runOn_realise_of_vacant settings found
      rw [Pass.runOn_bind] at realising
      rcases runOn_makeInstance settings deployment.withDefaults world with
        ⟨failure, middle, ran, -, -⟩ | ⟨made, middle, ran, isNew, isMiddle, -⟩
      · rw [ran] at realising
        have failed := runOn_reconcile_of_failed isFound unmarked isHeld realising
        rcases unplaceable_or_exhaustion (congrArg Prod.fst ran) with unplaceable | exhausted
        · obtain ⟨-, rfl⟩ := Prod.mk.inj (ran.symm.trans unplaceable.runOn_makeInstance)
          rw [failed]
          exact rests_of_unplaceable isFound unmarked isHeld found unplaceable
        · have isFree := findsFree failure (congrArg Prod.fst failed)
          rw [exhausted] at isFree
          contradiction
      · rw [ran] at realising
        have steady : IsSteady middle.store key deployment made := by
          rw [isMiddle]
          exact isSteady_of_create coherent isFound unmarked isHeld found isNew
        rw [runOn_reconcile_of_realise isFound unmarked isHeld realising]
        exact steady.rests

end Deployment

end TenantFleet
