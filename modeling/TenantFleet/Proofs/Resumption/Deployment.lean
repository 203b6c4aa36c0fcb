import TenantFleet.Proofs.Resumption.Trail
import TenantFleet.Proofs.Runs.Ownership

/-!
# The pass on a deployment resumes

Once the instance is there and as it is to be, whether this pass made it so or
an earlier one, the pass gives it its place and writes the status, or records
that there is no target; it draws nothing but the time of the record.  On the
way out the status is cleared first, and cleared it is found the next time.
-/

namespace TenantFleet

namespace Deployment

variable {settings : Settings} {key : ObjectKey} {world : World} {store : Store}
  {deployment : Deployment} {realised : TenantInstance} {target : Target}

/-- What the pass writes into the status of the deployment, if that says anything else. -/
def statusWrites (store : Store) (deployment : Deployment) (realised : TenantInstance) :
    List Store :=
  let status := deployment.settledStatus realised
  if status = deployment.status then []
  else [store.write (some deployment) (store.restated deployment status)]

/-- The store once the target lists the instance. -/
def placed (store : Store) (target : Target) (realised : TenantInstance) : Store :=
  store.write (some target) (store.restated target (target.assigning realised.key).status)

/-- What the pass writes to record a failure, unless it is recorded. -/
def recordWrites (store : Store) (current : Deployment) (failure : PassFailure) (now : Nat) :
    List Store :=
  if current.status.lastError.any failure.isRecordedBy then []
  else
    [store.write (some current) (store.restated current
      { current.status with
        lastError := some (failure.record current.status.lastError now) })]

theorem length_statusWrites (store : Store) (deployment : Deployment)
    (realised : TenantInstance) : (statusWrites store deployment realised).length ≤ 1 := by
  unfold statusWrites
  simp only
  split
  · exact Nat.zero_le 1
  · exact Nat.le_refl 1

theorem length_recordWrites (store : Store) (current : Deployment) (failure : PassFailure)
    (now : Nat) : (recordWrites store current failure now).length ≤ 1 := by
  unfold recordWrites
  split
  · exact Nat.zero_le 1
  · exact Nat.le_refl 1

theorem instanceKeys_placed (store : Store) (target : Target) (realised : TenantInstance) :
    (placed store target realised).instanceKeys = store.instanceKeys :=
  store.instanceKeys_write_of_ne (some target) _ (by decide)

theorem instanceKeys_of_mem_statusWrites {later : Store}
    (laterMem : later ∈ statusWrites store deployment realised) :
    later.instanceKeys = store.instanceKeys := by
  unfold statusWrites at laterMem
  simp only at laterMem
  split at laterMem
  · exact absurd laterMem List.not_mem_nil
  · obtain rfl := List.mem_singleton.1 laterMem
    exact store.instanceKeys_write_of_ne (some deployment) _ (by decide)

theorem instanceKeys_of_mem_recordWrites {failure : PassFailure} {now : Nat} {later : Store}
    (laterMem : later ∈ recordWrites store deployment failure now) :
    later.instanceKeys = store.instanceKeys := by
  unfold recordWrites at laterMem
  split at laterMem
  · exact absurd laterMem List.not_mem_nil
  · obtain rfl := List.mem_singleton.1 laterMem
    exact store.instanceKeys_write_of_ne (some deployment) _ (by decide)

/-- Two records of one failure differ by their times alone. -/
theorem timeless_recordWrites (store : Store) (current : Deployment) (failure : PassFailure)
    (now now' : Nat) :
    (recordWrites store current failure now).map Store.timeless =
      (recordWrites store current failure now').map Store.timeless := by
  unfold recordWrites
  split
  · rfl
  · rw [List.map_singleton, List.map_singleton, Store.timeless_write, Store.timeless_write]
    rfl

theorem wrote_recordFailure {current : Deployment}
    (isFound : world.store.find? .deployment key = some current) (failure : PassFailure) :
    world.Wrote (recordWrites world.store current failure world.clock.next)
      (recordFailure key failure world).2 := by
  let status (told : Nat) : Kind.deployment.Status :=
    { current.status with lastError := some (failure.record current.status.lastError told) }
  unfold recordFailure recordWrites
  rw [World.readStore_bind]
  simp only [isFound]
  split
  · exact .none rfl rfl
  · exact World.wrote_record status (Store.mem_list_of_find? isFound) rfl

/-- Whatever there is to record, it takes one write at most. -/
theorem exists_wrote_recordFailure (key : ObjectKey) (failure : PassFailure) (world : World) :
    ∃ stores, world.Wrote stores (recordFailure key failure world).2 ∧ stores.length ≤ 1 := by
  cases isFound : world.store.find? .deployment key with
  | none =>
      unfold recordFailure
      rw [World.readStore_bind, isFound]
      exact ⟨[], .none rfl rfl, Nat.zero_le 1⟩
  | some current =>
      exact ⟨_, wrote_recordFailure isFound failure, length_recordWrites _ _ _ _⟩

theorem runOn_settle_of_absent
    (absent : world.store.find? .target realised.spec.targetKey = none) :
    (settle settings deployment realised).runOn world =
      (.error ⟨.reconcile, .getTarget, .store (.notFound .target realised.spec.targetKey)⟩,
        world) := by
  unfold settle assignPlace
  rw [Pass.runOn_discard_bind, Pass.runOn_bind, TargetChange.runOn_absent absent]
  rfl

/-- What is left to do when the instance has its place. -/
theorem runOn_status (present : deployment ∈ world.store.list .deployment) :
    ((let status := deployment.settledStatus realised
      if status = deployment.status then return .converged
      else do
        discard <| (World.setStatus { deployment with status := status }).during
          .reconcile .updateStatus
        return .converged : Pass PassFailure Outcome)).runOn world =
      (.ok .converged, world.commitAll (statusWrites world.store deployment realised)) := by
  unfold statusWrites
  simp only
  split
  · rfl
  · rw [Pass.runOn_during_bind_of_ok (World.runOn_restate present rfl _)]
    rfl

theorem runOn_settle_of_hosted (present : deployment ∈ world.store.list .deployment)
    (targetFound : world.store.find? .target realised.spec.targetKey = some target)
    (hosted : target.hosts realised.key = true) :
    (settle settings deployment realised).runOn world =
      (.ok .converged, world.commitAll (statusWrites world.store deployment realised)) := by
  have idle : (TargetChange.placing realised.key).apply target = none := by
    rw [TargetChange.apply_placing, hosted, if_pos rfl]
  unfold settle assignPlace
  rw [Pass.runOn_discard_bind, Pass.runOn_bind, TargetChange.runOn_idle targetFound idle]
  exact runOn_status present

theorem runOn_settle_of_unhosted (present : deployment ∈ world.store.list .deployment)
    (targetFound : world.store.find? .target realised.spec.targetKey = some target)
    (unhosted : target.hosts realised.key = false) :
    (settle settings deployment realised).runOn world =
      (.ok .converged, (world.commit (placed world.store target realised)).commitAll
        (statusWrites (placed world.store target realised) deployment realised)) := by
  have applied : (TargetChange.placing realised.key).apply target =
      some (target.assigning realised.key) := by
    rw [TargetChange.apply_placing, unhosted]
    rfl
  have stillPresent : deployment ∈
      (world.commit (placed world.store target realised)).store.list .deployment := by
    rw [World.commit, placed, Store.list_write_of_ne _ _ _ (by decide)]
    exact present
  unfold settle assignPlace
  rw [Pass.runOn_discard_bind, Pass.runOn_bind,
    TargetChange.runOn_written (TargetChange.placing_keepsMetadata realised.key) targetFound
      applied]
  exact runOn_status stillPresent

/-- The deployment has its instance, and the instance is as it is to be. -/
structure IsSteady (store : Store) (key : ObjectKey) (deployment : Deployment)
    (realised : TenantInstance) : Prop where
  isFound : store.find? .deployment key = some deployment
  unmarked : deployment.isMarked = false
  isHeld : deployment.isHeld = true
  hasInstance : store.instanceOf? deployment = some realised
  lasting : realised.isMarked = false
  carried : (carriedInto deployment.withDefaults realised).spec = realised.spec

theorem runOn_reconcile_of_realise
    (isFound : world.store.find? .deployment key = some deployment)
    (unmarked : deployment.isMarked = false) (isHeld : deployment.isHeld = true)
    {middle : World} (goesOn : (realise settings deployment).runOn world =
      (settle settings deployment realised).runOn middle) :
    (reconcile settings key).runOn world =
      ((settle settings deployment realised).onFailure (recordFailure key)).runOn middle := by
  unfold reconcile
  rw [Pass.runOn_readStore_bind]
  simp only [isFound, unmarked, isHeld, Bool.false_eq_true, if_false, if_true]
  rw [Pass.runOn_onFailure, Pass.runOn_onFailure, goesOn]

/-- A pass that finds the instance as it is to be only settles it. -/
theorem IsSteady.runOn_reconcile (steady : IsSteady world.store key deployment realised) :
    (reconcile settings key).runOn world =
      ((settle settings deployment realised).onFailure (recordFailure key)).runOn world := by
  refine runOn_reconcile_of_realise steady.isFound steady.unmarked steady.isHeld ?_
  have unchanged : renewInstance deployment.withDefaults realised = pure realised := by
    unfold renewInstance
    simp only
    rw [if_pos steady.carried]
  unfold realise
  rw [Pass.runOn_readStore_bind]
  simp only [steady.hasInstance, steady.lasting, Bool.false_eq_true, if_false, unchanged]
  rfl

theorem IsSteady.placed (steady : IsSteady store key deployment realised) (target : Target) :
    IsSteady (Deployment.placed store target realised) key deployment realised := by
  have same : Store.SameBeside .target store (Deployment.placed store target realised) :=
    Store.sameBeside_write store _ _
  refine { steady with isFound := ?_, hasInstance := ?_ }
  · rw [same.find? (by decide), steady.isFound]
  · rw [Store.instanceOf?_congr same (by decide), steady.hasInstance]

theorem IsSteady.commitAll_of_hosted (steady : IsSteady store key deployment realised)
    (targetFound : store.find? .target realised.spec.targetKey = some target)
    (hosted : target.hosts realised.key = true) {world : World} (isStore : world.store = store) :
    ((reconcile settings key).runOn world).2 =
      world.commitAll (statusWrites store deployment realised) := by
  subst isStore
  rw [steady.runOn_reconcile, Pass.runOn_onFailure,
    runOn_settle_of_hosted (Store.mem_list_of_find? steady.isFound) targetFound hosted]

theorem hosts_placed (targetFound : store.find? .target realised.spec.targetKey = some target) :
    ∃ hosting : Target,
      (Deployment.placed store target realised).find? .target realised.spec.targetKey =
        some hosting ∧ hosting.hosts realised.key = true := by
  refine ⟨store.restated target (target.assigning realised.key).status, ?_, ?_⟩
  · exact Store.find?_restated targetFound _
  · simp [Target.hosts, Store.restated, Target.assigning, Target.published]

/-- Without the target the pass records its failure, at whatever time. -/
theorem IsSteady.remains_of_absent (steady : IsSteady store key deployment realised)
    (absent : store.find? .target realised.spec.targetKey = none) :
    (reconcile settings key).Remains (reconcile settings key) store := by
  let failure : PassFailure :=
    ⟨.reconcile, .getTarget, .store (.notFound .target realised.spec.targetKey)⟩
  have wrote (world : World) (isStore : world.store = store) :
      world.Wrote (recordWrites store deployment failure world.clock.next)
        ((reconcile settings key).runOn world).2 := by
    subst isStore
    rw [steady.runOn_reconcile, Pass.runOn_onFailure, runOn_settle_of_absent absent]
    exact wrote_recordFailure steady.isFound failure
  intro world isStore
  refine ⟨_, wrote world isStore, Pass.resumes_of_length_le_one _ (length_recordWrites _ _ _ _),
    fun begun isBegun => ?_, fun later laterMem => ?_⟩
  · exact ⟨_, wrote begun isBegun, timeless_recordWrites store deployment failure _ _⟩
  · rw [instanceKeys_of_mem_recordWrites laterMem]
    exact List.Subset.refl _

/-- From a steady store the pass resumes: giving the instance its place leads to another one. -/
theorem IsSteady.remains (steady : IsSteady store key deployment realised) :
    (reconcile settings key).Remains (reconcile settings key) store := by
  have sameKeys (base : Store) :
      ∀ later ∈ statusWrites base deployment realised, later.instanceKeys ⊆ base.instanceKeys := by
    intro later laterMem
    rw [instanceKeys_of_mem_statusWrites laterMem]
    exact List.Subset.refl _
  cases targetFound : store.find? .target realised.spec.targetKey with
  | none => exact steady.remains_of_absent targetFound
  | some target =>
      cases hosted : Target.hosts target realised.key with
      | true =>
          exact Pass.remains_of_commitAll
            (fun world isStore => steady.commitAll_of_hosted targetFound hosted isStore)
            (Pass.resumes_of_length_le_one _ (length_statusWrites _ _ _)) (sameKeys store)
      | false =>
          let hosting := Deployment.placed store target realised
          let settled := statusWrites hosting deployment realised
          have always : ∀ world : World, world.store = store →
              ((reconcile settings key).runOn world).2 = world.commitAll (hosting :: settled) := by
            rintro world rfl
            rw [steady.runOn_reconcile, Pass.runOn_onFailure, runOn_settle_of_unhosted
              (Store.mem_list_of_find? steady.isFound) targetFound hosted]
            rfl
          have fromHosting : (reconcile settings key).Trails hosting settled := by
            obtain ⟨host, hostFound, isHost⟩ := hosts_placed targetFound
            exact Pass.trails_of_commitAll
              (fun world isStore =>
                (steady.placed target).commitAll_of_hosted hostFound isHost isStore)
              (sameKeys hosting)
          have resumes : (reconcile settings key).Resumes (hosting :: settled) :=
            ⟨fun _ => fromHosting, Pass.resumes_of_length_le_one _ (length_statusWrites _ _ _)⟩
          refine Pass.remains_of_commitAll always resumes fun later laterMem => ?_
          rw [← instanceKeys_placed store target realised]
          rcases List.mem_cons.1 laterMem with rfl | inSettled
          · exact List.Subset.refl _
          · exact sameKeys hosting later inSettled

theorem instanceOf?_of_realises (coherent : store.IsCoherent)
    (isStored : deployment ∈ store.list .deployment)
    (realises : store.Realises deployment realised) :
    store.instanceOf? deployment = some realised := by
  have labelled := coherent.label_eq_of_realises isStored realises
  rw [coherent.instanceOf?_eq_head?_labelled isStored]
  change (store.labelled .tenantInstance deploymentLabel deployment.keyText).head? = _
  rw [coherent.labelled_eq_singleton realises.1 labelled]
  rfl

/-- A new instance asks for nothing but what its deployment asks for. -/
theorem isSteady_of_create (coherent : store.IsCoherent)
    (isFound : store.find? .deployment key = some deployment)
    (unmarked : deployment.isMarked = false) (isHeld : deployment.isHeld = true)
    (vacant : store.instanceOf? deployment = none)
    (isNew : IsNewInstance store deployment.withDefaults realised) :
    IsSteady (store.write none realised) key deployment realised := by
  have present := Store.mem_list_of_find? isFound
  have stillFound : (store.write none realised).find? .deployment key = some deployment := by
    rw [Store.find?_write_of_ne _ _ _ (by decide), isFound]
  have afterwards := isCoherent_of_create coherent present isHeld vacant isNew
  refine ⟨stillFound, unmarked, isHeld, ?_, isNew.isMarked_eq_false, ?_⟩
  · exact instanceOf?_of_realises afterwards (Store.mem_list_of_find? stillFound) isNew.realises
  · obtain ⟨rules, target, id, suffix, now, -, -, rfl, -⟩ := isNew
    rfl

theorem isSteady_of_renew (coherent : store.IsCoherent)
    (isFound : store.find? .deployment key = some deployment)
    (unmarked : deployment.isMarked = false) (isHeld : deployment.isHeld = true)
    {existing : TenantInstance} (realises : store.Realises deployment existing)
    (lasting : existing.isMarked = false) :
    let renewed := store.replacement existing (carriedInto deployment.withDefaults existing)
    IsSteady (store.write (some existing) renewed) key deployment renewed := by
  intro renewed
  have stillFound : (store.write (some existing) renewed).find? .deployment key =
      some deployment := by
    rw [Store.find?_write_of_ne _ _ _ (by decide), isFound]
  have afterwards : (store.write (some existing) renewed).IsCoherent :=
    Write.isCoherent (.renewed isFound realises lasting) coherent
  refine ⟨stillFound, unmarked, isHeld, ?_, lasting, rfl⟩
  exact instanceOf?_of_realises afterwards (Store.mem_list_of_find? stillFound)
    (realises.write rfl rfl)

theorem runOn_renewInstance_of_changed {desired : Deployment} {existing : TenantInstance}
    (present : existing ∈ world.store.list .tenantInstance) (lasting : existing.isMarked = false)
    (changed : (carriedInto desired existing).spec ≠ existing.spec) :
    let renewed := world.store.replacement existing (carriedInto desired existing)
    (renewInstance desired existing).runOn world =
      (.ok renewed, world.commit (world.store.write (some existing) renewed)) := by
  intro renewed
  unfold renewInstance
  simp only
  rw [if_neg changed, Pass.runOn_during, World.runOn_update_of_mem
    (carriedInto desired existing) present rfl rfl rfl, Store.supplant_of_unmarked lasting]
  rfl

theorem runOn_reconcile_of_failed
    (isFound : world.store.find? .deployment key = some deployment)
    (unmarked : deployment.isMarked = false) (isHeld : deployment.isHeld = true)
    {failure : PassFailure} {after : World}
    (failed : (realise settings deployment).runOn world = (.error failure, after)) :
    (reconcile settings key).runOn world =
      (.error failure, (recordFailure key failure after).2) := by
  unfold reconcile
  rw [Pass.runOn_readStore_bind]
  simp only [isFound, unmarked, isHeld, Bool.false_eq_true, if_false, if_true]
  rw [Pass.runOn_onFailure, failed]

/-- Whatever has written nothing and fails writes once at most. -/
theorem resumes_of_failure (isFound : world.store.find? .deployment key = some deployment)
    (unmarked : deployment.isMarked = false) (isHeld : deployment.isHeld = true)
    {failure : PassFailure} {after : World}
    (failed : (realise settings deployment).runOn world = (.error failure, after))
    (sameStore : after.store = world.store) (sameJournal : after.journal = world.journal) :
    (reconcile settings key).ResumesOn world := by
  obtain ⟨stores, wrote, few⟩ := exists_wrote_recordFailure key failure after
  refine Pass.resumesOn_of_length_le_one ?_ few
  rw [runOn_reconcile_of_failed isFound unmarked isHeld failed]
  exact wrote.of_same sameStore sameJournal

theorem runOn_realise_of_vacant (settings : Settings)
    (vacant : world.store.instanceOf? deployment = none) :
    (realise settings deployment).runOn world =
      (makeInstance settings deployment.withDefaults >>= settle settings deployment).runOn
        world := by
  unfold realise
  rw [Pass.runOn_readStore_bind]
  simp only [vacant]

theorem runOn_realise_of_lasting (settings : Settings) {existing : TenantInstance}
    (found : world.store.instanceOf? deployment = some existing)
    (lasting : existing.isMarked = false) :
    (realise settings deployment).runOn world =
      (renewInstance deployment.withDefaults existing >>= settle settings deployment).runOn
        world := by
  unfold realise
  rw [Pass.runOn_readStore_bind]
  simp only [found, lasting, Bool.false_eq_true, if_false]

theorem resumes_vacant (coherent : world.store.IsCoherent)
    (isFound : world.store.find? .deployment key = some deployment)
    (unmarked : deployment.isMarked = false) (isHeld : deployment.isHeld = true)
    (vacant : world.store.instanceOf? deployment = none) :
    (reconcile settings key).ResumesOn world := by
  have realising := runOn_realise_of_vacant settings vacant
  rw [Pass.runOn_bind] at realising
  rcases runOn_makeInstance settings deployment.withDefaults world with
    ⟨failure, after, ran, sameStore, sameJournal⟩ | ⟨made, after, ran, isNew, isAfter, noted⟩
  · rw [ran] at realising
    exact resumes_of_failure isFound unmarked isHeld realising sameStore sameJournal
  · rw [ran] at realising
    have steady : IsSteady after.store key deployment made := by
      rw [isAfter]
      exact isSteady_of_create coherent isFound unmarked isHeld vacant isNew
    refine steady.remains.after_write (fun begun _ => ⟨begun, rfl, rfl, rfl⟩) (.one rfl noted) ?_
    rw [steady.runOn_reconcile]
    exact congrArg Prod.snd (runOn_reconcile_of_realise isFound unmarked isHeld realising)

theorem resumes_settled (coherent : world.store.IsCoherent)
    (isFound : world.store.find? .deployment key = some deployment)
    (unmarked : deployment.isMarked = false) (isHeld : deployment.isHeld = true)
    {existing : TenantInstance} (found : world.store.instanceOf? deployment = some existing)
    (lasting : existing.isMarked = false) :
    (reconcile settings key).ResumesOn world := by
  have realises := Store.realises_of_instanceOf? found
  have realising := runOn_realise_of_lasting settings found lasting
  by_cases carried : (carriedInto deployment.withDefaults existing).spec = existing.spec
  · have steady : IsSteady world.store key deployment existing :=
      ⟨isFound, unmarked, isHeld, found, lasting, carried⟩
    have remains : (reconcile settings key).Remains (reconcile settings key) world.store :=
      steady.remains
    obtain ⟨stores, wrote, resumes, -⟩ := remains world rfl
    exact ⟨stores, wrote, resumes⟩
  · let renewed := world.store.replacement existing (carriedInto deployment.withDefaults existing)
    let middle := world.commit (world.store.write (some existing) renewed)
    have steady : IsSteady middle.store key deployment renewed :=
      isSteady_of_renew coherent isFound unmarked isHeld realises lasting
    have renewing : (renewInstance deployment.withDefaults existing).runOn world =
        (.ok renewed, middle) := runOn_renewInstance_of_changed realises.1 lasting carried
    rw [Pass.runOn_bind, renewing] at realising
    refine steady.remains.after_write (fun begun _ => ⟨begun, rfl, rfl, rfl⟩)
      (world.wrote_commit _) ?_
    have goesOn := runOn_reconcile_of_realise isFound unmarked isHeld realising
    rw [goesOn]
    exact congrArg Prod.snd steady.runOn_reconcile.symm

/-- The store once the status names no instance. -/
def cleared (store : Store) (deployment : Deployment) : Store :=
  store.write (some deployment)
    (store.restated deployment { deployment.status with instanceKey := none })

theorem runOn_reconcile_marked (isFound : world.store.find? .deployment key = some deployment)
    (marked : deployment.isMarked = true) :
    (reconcile settings key).runOn world =
      ((windDown settings deployment).onFailure (recordFailure key)).runOn world := by
  unfold reconcile
  rw [Pass.runOn_readStore_bind]
  simp only [isFound, marked, if_true]

theorem runOn_windDown_of_vacant (vacant : world.store.instanceOf? deployment = none) :
    (windDown settings deployment).runOn world = (dismiss deployment).runOn world := by
  unfold windDown
  rw [Pass.runOn_readStore_bind]
  simp only [vacant]

theorem runOn_dismiss_of_unnamed (present : deployment ∈ world.store.list .deployment)
    (unnamed : deployment.status.instanceKey = none) :
    (dismiss deployment).runOn world =
      (.ok .gone, world.commit (world.store.dismissed deployment)) := by
  unfold dismiss
  simp only [unnamed, Option.isSome_none, Bool.false_eq_true, if_false]
  exact Pass.runOn_dismissal present rfl

/-- A status that names an instance is cleared first. -/
theorem runOn_dismiss_of_named (present : deployment ∈ world.store.list .deployment)
    (named : deployment.status.instanceKey ≠ none) :
    (dismiss deployment).runOn world =
      (dismiss
        (world.store.restated deployment
          { deployment.status with instanceKey := none })).runOn
        (world.commit (cleared world.store deployment)) := by
  have isNamed : deployment.status.instanceKey.isSome = true :=
    Option.isSome_iff_ne_none.2 named
  unfold dismiss
  simp only [isNamed, if_true]
  rw [Pass.runOn_bind, Pass.runOn_during, World.runOn_restate present rfl]
  rfl

/-- A status that names no instance is not written again. -/
theorem runOn_reconcile_of_unnamed
    (isFound : world.store.find? .deployment key = some deployment)
    (marked : deployment.isMarked = true) (vacant : world.store.instanceOf? deployment = none)
    (unnamed : deployment.status.instanceKey = none) :
    ((reconcile settings key).runOn world).2 =
      world.commit (world.store.dismissed deployment) := by
  rw [runOn_reconcile_marked isFound marked, Pass.runOn_onFailure,
    runOn_windDown_of_vacant vacant,
    runOn_dismiss_of_unnamed (Store.mem_list_of_find? isFound) unnamed]

/-- A status that names one is cleared first, which leaves no instance to be found by it. -/
theorem resumes_named (isFound : world.store.find? .deployment key = some deployment)
    (marked : deployment.isMarked = true) (vacant : world.store.instanceOf? deployment = none)
    (named : deployment.status.instanceKey ≠ none) :
    (reconcile settings key).ResumesOn world := by
  let store := cleared world.store deployment
  let next := world.store.restated deployment { deployment.status with instanceKey := none }
  have same : Store.SameBeside .deployment world.store store := Store.sameBeside_write _ _ _
  have nextFound : store.find? .deployment key = some next :=
    Store.find?_restated isFound _
  have nextVacant : store.instanceOf? next = none := by
    rw [Store.instanceOf?_congr same (by decide)]
    have empty := Store.labelled_eq_nil_of_instanceOf? vacant
    exact Store.instanceOf?_of_unnamed rfl empty
  have anew : ∀ begun : World, begun.store = store →
      ((reconcile settings key).runOn begun).2 = begun.commit (store.dismissed next) := by
    intro begun isStore
    rw [← isStore] at nextFound nextVacant ⊢
    exact runOn_reconcile_of_unnamed nextFound marked nextVacant rfl
  have clearing : (dismiss deployment).runOn world =
      (dismiss next).runOn (world.commit store) :=
    runOn_dismiss_of_named (Store.mem_list_of_find? isFound) named
  have twice : ((reconcile settings key).runOn world).2 =
      (world.commit store).commit (store.dismissed next) := by
    have nextPresent : next ∈ (world.commit store).store.list .deployment :=
      Store.mem_list_of_find? nextFound
    rw [runOn_reconcile_marked isFound marked, Pass.runOn_onFailure,
      runOn_windDown_of_vacant vacant, clearing, runOn_dismiss_of_unnamed nextPresent rfl]
    rfl
  exact Pass.resumesOn_of_commit_commit twice anew
    (Store.instanceKeys_dismissed_subset (Store.mem_list_of_find? nextFound))

/-- The instance of a deployment on its way out is marked, by a single write. -/
theorem exists_wrote_windDown (coherent : world.store.IsCoherent) {existing : TenantInstance}
    (found : world.store.instanceOf? deployment = some existing) :
    ∃ outcome after stores, (windDown settings deployment).runOn world = (.ok outcome, after) ∧
      world.Wrote stores after ∧ stores.length ≤ 1 := by
  have present := (Store.realises_of_instanceOf? found).1
  unfold windDown
  rw [Pass.runOn_readStore_bind]
  simp only [found]
  cases lasting : Object.isMarked existing with
  | true => exact ⟨_, world, [], rfl, .none rfl rfl, Nat.zero_le 1⟩
  | false =>
      have isHeld := (coherent.sound_instance present).isHeld
      obtain ⟨removal, after, done⟩ :=
        Store.exists_of_delete existing.key world.clock.next present rfl rfl
      simp only [isHeld, Bool.not_true, Bool.false_eq_true, if_false]
      rw [Pass.runOn_bind, Pass.runOn_attempt, World.runOn_delete_of_ok done]
      cases removal with
      | pending => exact ⟨_, _, [], rfl, .none rfl rfl, Nat.zero_le 1⟩
      | purged | marked => exact ⟨_, _, [after], rfl, .one rfl rfl, Nat.le_refl 1⟩

theorem resumes_deleting (coherent : world.store.IsCoherent)
    (isFound : world.store.find? .deployment key = some deployment)
    (marked : deployment.isMarked = true) {existing : TenantInstance}
    (found : world.store.instanceOf? deployment = some existing) :
    (reconcile settings key).ResumesOn world := by
  obtain ⟨outcome, after, stores, ran, wrote, few⟩ := exists_wrote_windDown coherent found
  refine Pass.resumesOn_of_length_le_one ?_ few
  rw [runOn_reconcile_marked isFound marked, Pass.runOn_onFailure, ran]
  exact wrote

theorem resumes_reconcile (coherent : world.store.IsCoherent) (settings : Settings)
    (key : ObjectKey) :
    (reconcile settings key).ResumesOn world := by
  cases isFound : world.store.find? .deployment key with
  | none =>
      refine Pass.resumesOn_of_idle ?_
      rw [runOn_reconcile_of_absent isFound]
  | some deployment =>
      cases marked : Object.isMarked deployment with
      | true =>
          cases found : world.store.instanceOf? deployment with
          | none =>
              by_cases unnamed : deployment.status.instanceKey = none
              · exact Pass.resumesOn_of_commit
                  (runOn_reconcile_of_unnamed isFound marked found unnamed)
              · exact resumes_named isFound marked found unnamed
          | some existing => exact resumes_deleting coherent isFound marked found
      | false =>
          cases isHeld : Object.isHeld deployment with
          | false =>
              exact Pass.resumesOn_of_commit
                (congrArg Prod.snd (runOn_reconcile_of_unheld isFound marked isHeld))
          | true =>
              cases found : world.store.instanceOf? deployment with
              | none => exact resumes_vacant coherent isFound marked isHeld found
              | some existing =>
                  cases lasting : Object.isMarked existing with
                  | false => exact resumes_settled coherent isFound marked isHeld found lasting
                  | true =>
                      refine Pass.resumesOn_of_idle ?_
                      unfold reconcile realise
                      rw [Pass.runOn_readStore_bind]
                      simp only [isFound, marked, isHeld, Bool.false_eq_true, if_false, if_true]
                      rw [Pass.runOn_onFailure, Pass.runOn_readStore_bind]
                      simp only [found, lasting, if_true]
                      rfl

end Deployment

end TenantFleet
