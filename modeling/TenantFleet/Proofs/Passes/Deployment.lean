import TenantFleet.Proofs.Passes.Making

/-!
# What the pass on a deployment writes

Every write of the pass is of one of ten sorts, each given with what the pass
had found when it wrote.  The instance that it works on is the one that
`instanceOf?` yields, which the deployment's status names or which the index has
under the deployment's label; a new one is made only when there is none, and the
finalizer goes only when there is none.
-/

namespace TenantFleet

namespace Store

variable {store after : Store} {deployment : Deployment} {realised : TenantInstance} {kind : Kind}

/-- The instance is stored, and named by the status of the deployment or found by its label. -/
def Realises (store : Store) (deployment : Deployment) (realised : TenantInstance) : Prop :=
  realised ∈ store.list .tenantInstance ∧
    ((∃ key, deployment.status.instanceKey = some key ∧ key.text = realised.keyText) ∨
      realised ∈ store.labelled .tenantInstance deploymentLabel deployment.key.text)

theorem realises_of_instanceOf? (found : store.instanceOf? deployment = some realised) :
    store.Realises deployment realised := by
  unfold instanceOf? at found
  cases named : deployment.status.instanceKey.bind (store.find? .tenantInstance) with
  | some other =>
      rw [named] at found
      obtain rfl := Option.some.inj found
      obtain ⟨key, isKey, isFound⟩ := Option.bind_eq_some_iff.1 named
      exact ⟨mem_list_of_find? isFound, .inl ⟨key, isKey, (keyText_of_find? isFound).symm⟩⟩
  | none =>
      rw [named] at found
      have labelled := List.mem_of_mem_head? found
      exact ⟨(mem_labelled.1 labelled).1, .inr labelled⟩

theorem Realises.congr (realises : store.Realises deployment realised)
    (same : SameBeside kind store after) (different : kind ≠ .tenantInstance) :
    after.Realises deployment realised := by
  unfold Realises
  rw [same.list different.symm, same.labelled different.symm]
  exact realises

theorem instanceOf?_congr (same : SameBeside kind store after)
    (different : kind ≠ .tenantInstance) :
    after.instanceOf? deployment = store.instanceOf? deployment := by
  have sameFind : after.find? .tenantInstance = store.find? .tenantInstance :=
    funext fun key => same.find? different.symm key
  simp only [instanceOf?, sameFind, same.labelled different.symm]

theorem labelled_eq_nil_of_instanceOf? (vacant : store.instanceOf? deployment = none) :
    store.labelled .tenantInstance deploymentLabel deployment.key.text = [] := by
  unfold instanceOf? at vacant
  split at vacant
  · contradiction
  · exact List.head?_eq_none_iff.1 vacant

/-- The instance that the status names comes first. -/
theorem instanceOf?_of_named {key : ObjectKey} (named : deployment.status.instanceKey = some key)
    (isFound : store.find? .tenantInstance key = some realised) :
    store.instanceOf? deployment = some realised := by
  simp [instanceOf?, named, isFound]

/-- Without a reference in the status, only the index is asked. -/
theorem instanceOf?_of_unnamed (unnamed : deployment.status.instanceKey = none)
    (empty : store.labelled .tenantInstance deploymentLabel deployment.key.text = []) :
    store.instanceOf? deployment = none := by
  simp [instanceOf?, unnamed, empty]

/-- An instance that is written with the labels and the key of the one before takes its place. -/
theorem Realises.write (realises : store.Realises deployment realised) {next : TenantInstance}
    (sameText : next.keyText = realised.keyText)
    (sameLabels : next.metadata.labels = realised.metadata.labels) :
    (store.write (some realised) next).Realises deployment next := by
  have isListed := mem_list_write_self store (some realised) next
  refine ⟨isListed, realises.2.imp ?_ ?_⟩
  · rintro ⟨key, named, keyText⟩
    exact ⟨key, named, keyText.trans sameText.symm⟩
  · intro wasLabelled
    have sameEntries : indexEntries next = indexEntries realised := by
      simp only [indexEntries, sameText, sameLabels]
    refine mem_labelled.2 ⟨isListed, mem_reindexed.2 ?_⟩
    rw [sameText, Option.elim_some, Option.elim_some, sameEntries]
    by_cases isOwn : indexStem .tenantInstance deploymentLabel deployment.key.text ++
        realised.keyText ∈ indexEntries realised
    · exact .inl isOwn
    · exact .inr ⟨(mem_labelled.1 wasLabelled).2, isOwn⟩

end Store

namespace Deployment

/-- The label of a new instance leads to it at once. -/
theorem IsNewInstance.realises {store : Store} {deployment : Deployment} {made : TenantInstance}
    (isNew : IsNewInstance store deployment.withDefaults made) :
    (store.write none made).Realises deployment made := by
  have isListed := Store.mem_list_write_self store none made
  refine ⟨isListed, .inr (Store.mem_labelled.2 ⟨isListed, Store.mem_reindexed.2 (.inl ?_)⟩)⟩
  obtain ⟨rules, target, id, suffix, now, -, -, rfl, -⟩ := isNew
  refine Store.mem_indexEntries.2 ⟨_, _, ?_, rfl⟩
  exact Table.mem_insert.2 (.inl rfl)

theorem IsNewInstance.isMarked_eq_false {store : Store} {deployment : Deployment}
    {made : TenantInstance} (isNew : IsNewInstance store deployment made) :
    made.isMarked = false := by
  obtain ⟨rules, target, id, suffix, now, -, -, rfl, -⟩ := isNew
  rfl

/-- A write of the pass on the deployment under `key`. -/
inductive Write (key : ObjectKey) (store : Store) : Store → Prop
  | held {found : Deployment} (isFound : store.find? .deployment key = some found)
      (unmarked : found.isMarked = false) (unheld : found.isHeld = false) :
      Write key store (store.supplant found (store.replacement found found.hold))
  | created {deployment : Deployment} {made : TenantInstance}
      (isFound : store.find? .deployment key = some deployment)
      (unmarked : deployment.isMarked = false) (isHeld : deployment.isHeld = true)
      (vacant : store.instanceOf? deployment = none)
      (isNew : IsNewInstance store deployment.withDefaults made) :
      Write key store (store.write none made)
  | renewed {deployment : Deployment} {existing : TenantInstance}
      (isFound : store.find? .deployment key = some deployment)
      (realises : store.Realises deployment existing) (unmarked : existing.isMarked = false) :
      Write key store
        (store.write (some existing)
          (store.replacement existing (carriedInto deployment.withDefaults existing)))
  | placed {deployment : Deployment} {realised : TenantInstance} {target : Target}
      (isFound : store.find? .deployment key = some deployment)
      (realises : store.Realises deployment realised) (unmarked : realised.isMarked = false)
      (targetFound : store.find? .target realised.spec.targetKey = some target)
      (unhosted : target.hosts realised.key = false) :
      Write key store
        (store.write (some target)
          (store.restated target (target.assigning realised.key).status))
  | settled {deployment : Deployment} {realised : TenantInstance}
      (isFound : store.find? .deployment key = some deployment)
      (realises : store.Realises deployment realised) :
      Write key store
        (store.write (some deployment)
          (store.restated deployment (deployment.settledStatus realised)))
  | cleared {deployment : Deployment} (isFound : store.find? .deployment key = some deployment)
      (marked : deployment.isMarked = true) (vacant : store.instanceOf? deployment = none) :
      Write key store
        (store.write (some deployment)
          (store.restated deployment { deployment.status with instanceKey := none }))
  | letGo {deployment : Deployment} (isFound : store.find? .deployment key = some deployment)
      (marked : deployment.isMarked = true) (vacant : store.instanceOf? deployment = none) :
      Write key store
        (store.supplant deployment (store.replacement deployment deployment.letGo))
  | released {deployment : Deployment} {existing : TenantInstance} {target : Target}
      (isFound : store.find? .deployment key = some deployment)
      (realises : store.Realises deployment existing) (unheld : existing.isHeld = false)
      (targetFound : store.find? .target existing.spec.targetKey = some target)
      (hosts : target.hosts existing.key = true) :
      Write key store
        (store.write (some target)
          (store.restated target (target.releasing existing.key).status))
  | deleted {deployment : Deployment} {existing : TenantInstance} {after : Store}
      (isFound : store.find? .deployment key = some deployment)
      (marked : deployment.isMarked = true) (realises : store.Realises deployment existing)
      (unmarked : existing.isMarked = false) (deletion : store.Deletion existing after) :
      Write key store after
  | recorded {current : Deployment} (isFound : store.find? .deployment key = some current)
      (record : FailureRecord) :
      Write key store
        (store.write (some current)
          (store.restated current { current.status with lastError := some record }))

variable {settings : Settings} {key : ObjectKey} {world : World} {deployment : Deployment}

theorem through_settle {realised : TenantInstance}
    (isFound : world.store.find? .deployment key = some deployment)
    (realises : world.store.Realises deployment realised) (unmarked : realised.isMarked = false) :
    World.Through (Write key) world ((settle settings deployment realised).runOn world).2 := by
  unfold settle
  refine .bind_discard ?_ fun _ middle ran => ?_
  · exact through_assignPlace fun target => .placed isFound realises unmarked
  · have same := sameBeside_of_assignPlace ran
    have stillFound : middle.store.find? .deployment key = some deployment := by
      rw [same.find? (by decide), isFound]
    simp only
    split
    · exact .refl middle
    · rw [Pass.runOn_during_bind_of_ok
        (World.runOn_restate (Store.mem_list_of_find? stillFound) rfl _)]
      exact .of_commit (.settled stillFound (realises.congr same (by decide)))

/-- Carrying changes into an unmarked instance leaves it as it is, or writes it in its place. -/
theorem runOn_renewInstance (deployment : Deployment) {existing : TenantInstance}
    (present : existing ∈ world.store.list .tenantInstance) (unmarked : existing.isMarked = false) :
    (renewInstance deployment existing).runOn world = (.ok existing, world) ∨
      (renewInstance deployment existing).runOn world =
        (.ok (world.store.replacement existing (deployment.carriedInto existing)),
          world.commit (world.store.write (some existing)
            (world.store.replacement existing (deployment.carriedInto existing)))) := by
  unfold renewInstance
  simp only
  split
  · exact .inl rfl
  · rw [Pass.runOn_during,
      World.runOn_update_of_mem (deployment.carriedInto existing) present rfl rfl rfl,
      Store.supplant_of_unmarked unmarked]
    exact .inr rfl

theorem through_realise (isFound : world.store.find? .deployment key = some deployment)
    (unmarked : deployment.isMarked = false) (isHeld : deployment.isHeld = true) :
    World.Through (Write key) world ((realise settings deployment).runOn world).2 := by
  unfold realise
  rw [Pass.runOn_readStore_bind]
  cases found : world.store.instanceOf? deployment with
  | none =>
      simp only
      rw [Pass.runOn_bind]
      rcases runOn_makeInstance settings deployment.withDefaults world with
        ⟨failure, after, ran, sameStore, sameJournal⟩ | ⟨made, after, ran, isNew, isAfter, noted⟩
      · rw [ran]
        exact .idle sameStore sameJournal
      · rw [ran]
        have madeIt : World.Through (Write key) world after := by
          refine .write (.refl world) ?_ noted
          rw [isAfter]
          exact .created isFound unmarked isHeld found isNew
        refine madeIt.trans (through_settle ?_ ?_ isNew.isMarked_eq_false)
        · rw [isAfter, Store.find?_write_of_ne _ _ _ (by decide), isFound]
        · rw [isAfter]
          exact isNew.realises
  | some existing =>
      simp only
      split
      next => exact .refl world
      next unmarkedInstance =>
        have realises := Store.realises_of_instanceOf? found
        have isUnmarked : existing.isMarked = false := by simpa using unmarkedInstance
        rw [Pass.runOn_bind]
        rcases runOn_renewInstance deployment.withDefaults realises.1 isUnmarked
          with ran | ran
        · rw [ran]
          exact through_settle isFound realises isUnmarked
        · rw [ran]
          have renewed : World.Through (Write key) world (world.commit _) :=
            .of_commit (.renewed isFound realises isUnmarked)
          refine renewed.trans (through_settle ?_ (realises.write rfl rfl) isUnmarked)
          rw [World.commit, Store.find?_write_of_ne _ _ _ (by decide), isFound]

/-- Taking the finalizer off a deployment that has no instance. -/
theorem through_letGo (isFound : world.store.find? .deployment key = some deployment)
    (marked : deployment.isMarked = true) (vacant : world.store.instanceOf? deployment = none) :
    let after := ((do
      discard <| (World.update deployment.letGo).during .delete .removeFinalizer
      return .gone : Pass PassFailure Outcome).runOn world).2
    World.Through (Write key) world after ∧
      Store.SameBeside .deployment world.store after.store := by
  simp only
  rw [Pass.runOn_during_bind_of_ok (World.runOn_letGo (Store.mem_list_of_find? isFound) rfl)]
  exact ⟨.of_commit (.letGo isFound marked vacant), Store.sameBeside_supplant _ _ _⟩

/-- A deployment is dismissed by writes of it alone. -/
theorem through_dismiss (isFound : world.store.find? .deployment key = some deployment)
    (marked : deployment.isMarked = true) (vacant : world.store.instanceOf? deployment = none) :
    let after := ((dismiss deployment).runOn world).2
    World.Through (Write key) world after ∧
      Store.SameBeside .deployment world.store after.store := by
  unfold dismiss
  cases named : deployment.status.instanceKey.isSome with
  | false => exact through_letGo isFound marked vacant
  | true =>
      simp only [if_true]
      rw [Pass.runOn_bind, Pass.runOn_during,
        World.runOn_restate (Store.mem_list_of_find? isFound) rfl]
      let cleared := world.store.restated deployment { deployment.status with instanceKey := none }
      have first : World.Through (Write key) world
          (world.commit (world.store.write (some deployment) cleared)) :=
        .of_commit (.cleared isFound marked vacant)
      have same : Store.SameBeside .deployment world.store
          (world.store.write (some deployment) cleared) := Store.sameBeside_write _ _ _
      have clearedFound :
          (world.store.write (some deployment) cleared).find? .deployment key = some cleared :=
        Store.find?_restated isFound _
      have stillVacant :
          (world.store.write (some deployment) cleared).instanceOf? cleared = none := by
        rw [Store.instanceOf?_congr same (by decide)]
        have empty := Store.labelled_eq_nil_of_instanceOf? vacant
        exact Store.instanceOf?_of_unnamed rfl empty
      let middle := world.commit (world.store.write (some deployment) cleared)
      have middleFound : middle.store.find? .deployment key = some cleared := clearedFound
      have second := through_letGo middleFound marked stillVacant
      exact ⟨first.trans second.1, same.trans second.2⟩

/-- The deletion of a stored instance never fails, so the finalizer is not taken off here. -/
theorem through_deleteInstance {existing : TenantInstance}
    (isFound : world.store.find? .deployment key = some deployment)
    (marked : deployment.isMarked = true) (realises : world.store.Realises deployment existing)
    (unmarked : existing.isMarked = false) :
    World.Through (Write key) world
      ((do
        match ← (World.delete .tenantInstance existing.key).attempt with
        | .ok _ => return .deleteIssued
        | .error error =>
            if error.isAbsence then dismiss deployment
            else throw ⟨.delete, .deleteInstance, .store error⟩ :
          Pass PassFailure Outcome).runOn world).2 := by
  obtain ⟨removal, after, done⟩ :=
    Store.exists_of_delete existing.key world.clock.next realises.1 rfl rfl
  rw [Pass.runOn_bind, Pass.runOn_attempt, World.runOn_delete_of_ok done]
  refine .of_delete done fun notPending => ?_
  rcases Store.deletion_of_delete done with ⟨pending, -⟩ | ⟨-, stored, present, sameText, deletion⟩
  · exact absurd pending notPending
  · obtain rfl := Store.eq_of_keyText_eq present realises.1 sameText
    exact .deleted isFound marked realises unmarked deletion

theorem through_windDown (isFound : world.store.find? .deployment key = some deployment)
    (marked : deployment.isMarked = true) :
    World.Through (Write key) world ((windDown settings deployment).runOn world).2 := by
  unfold windDown
  rw [Pass.runOn_readStore_bind]
  cases found : world.store.instanceOf? deployment with
  | none => exact (through_dismiss isFound marked found).1
  | some existing =>
      have realises := Store.realises_of_instanceOf? found
      simp only
      split
      next => exact .refl world
      next unmarkedInstance =>
        have unmarked : existing.isMarked = false := by simpa using unmarkedInstance
        split
        next unheldInstance =>
          have unheld : existing.isHeld = false := by simpa using unheldInstance
          refine .bind_discard ?_ fun _ middle ran => ?_
          · exact through_releasePlace fun target => .released isFound realises unheld
          · have same := sameBeside_of_releasePlace ran
            refine through_deleteInstance ?_ marked (realises.congr same (by decide)) unmarked
            rw [same.find? (by decide), isFound]
        next => exact through_deleteInstance isFound marked realises unmarked

theorem through_recordFailure (key : ObjectKey) (failure : PassFailure) (world : World) :
    World.Through (Write key) world (recordFailure key failure world).2 := by
  unfold recordFailure
  rw [World.readStore_bind]
  cases isFound : world.store.find? .deployment key with
  | none => exact .refl world
  | some current =>
      simp only
      split
      · exact .refl world
      · exact World.through_record (Store.mem_list_of_find? isFound) rfl (.recorded isFound _)

theorem runOn_reconcile_of_absent (absent : world.store.find? .deployment key = none) :
    (reconcile settings key).runOn world = (.ok .notFound, world) := by
  unfold reconcile
  rw [Pass.runOn_readStore_bind, absent]
  rfl

theorem runOn_reconcile_of_unheld (isFound : world.store.find? .deployment key = some deployment)
    (unmarked : deployment.isMarked = false) (unheld : deployment.isHeld = false) :
    (reconcile settings key).runOn world =
      (.ok .finalizerAdded, world.commit (world.store.supplant deployment
        (world.store.replacement deployment deployment.hold))) := by
  unfold reconcile
  rw [Pass.runOn_readStore_bind]
  simp only [isFound, unmarked, unheld, Bool.false_eq_true, if_false]
  rw [Pass.runOn_during_bind_of_ok (World.runOn_hold (Store.mem_list_of_find? isFound) rfl)]
  rfl

/-- Whatever the pass does, and however it ends, it writes as said. -/
theorem through_reconcile (settings : Settings) (key : ObjectKey) (world : World) :
    World.Through (Write key) world ((reconcile settings key).runOn world).2 := by
  unfold reconcile
  rw [Pass.runOn_readStore_bind]
  cases isFound : world.store.find? .deployment key with
  | none => exact .refl world
  | some found =>
      cases marked : Object.isMarked found <;> cases held : Object.isHeld found <;>
        simp only [marked, held, if_true, Bool.false_eq_true, if_false]
      case false.false =>
        rw [Pass.runOn_during_bind_of_ok (World.runOn_hold (Store.mem_list_of_find? isFound) rfl)]
        exact .of_commit (.held isFound marked held)
      case false.true =>
        exact .onFailure (through_realise isFound marked held) (through_recordFailure key)
      all_goals exact .onFailure (through_windDown isFound marked) (through_recordFailure key)

theorem Write.sameBut {store after : Store} (written : Write key store after) :
    Store.SameBut [.deployment, .tenantInstance, .target] store after := by
  cases written with
  | held | letGo => exact (Store.sameBeside_supplant _ _ _).sameBut (by decide)
  | created | renewed | placed | settled | cleared | released | recorded =>
      exact (Store.sameBeside_write _ _ _).sameBut (by decide)
  | deleted isFound marked realises unmarked deletion =>
      exact deletion.sameBeside.sameBut (by decide)

/-- The pass on a deployment leaves the others as they are. -/
theorem Write.find?_of_ne {store after : Store} (written : Write key store after)
    {other : ObjectKey} (different : key.text ≠ other.text) :
    after.find? .deployment other = store.find? .deployment other := by
  cases written with
  | held isFound => exact Store.find?_updated_of_ne isFound (Object.key_hold _) different
  | letGo isFound => exact Store.find?_updated_of_ne isFound rfl different
  | settled isFound | cleared isFound | recorded isFound =>
      exact Store.find?_restated_of_ne isFound different _
  | created | renewed | placed | released =>
      exact (Store.sameBeside_write _ _ _).find? (by decide) other
  | deleted isFound marked realises unmarked deletion =>
      exact deletion.sameBeside.find? (by decide) other

theorem find?_reconcile_of_ne {other : ObjectKey} (different : key.text ≠ other.text) :
    ((reconcile settings key).runOn world).2.store.find? .deployment other =
      world.store.find? .deployment other :=
  (through_reconcile settings key world).preserves
    (fun store => store.find? .deployment other = world.store.find? .deployment other)
    (fun same written => (written.find?_of_ne different).trans same) rfl

end Deployment

end TenantFleet
