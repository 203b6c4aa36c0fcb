import TenantFleet.Proofs.Passes.InstanceIds
import TenantFleet.Proofs.Passes.Outcomes
import TenantFleet.Proofs.Runs.ImmutableFields

/-!
# Ids of instances in runs

Instances are created by the passes on deployments and by nothing else, so the
ids in a namespace are distinct in every run, and an instance keeps its id, its
tenant and its target for as long as it is there.  Nothing is asked of the
documents, nor of the ids that are drawn.  When those are used up, the pass
fails.
-/

namespace TenantFleet

/-- Every action carries the instances on, or creates one with an id of its own. -/
theorem Action.Write.grows {action : Action} {store after : Store}
    (written : action.Write store after) : store.Grows after := by
  cases written with
  | apply written =>
      cases written with
      | tenantSpace written | target written | deployment written | registration written
      | scheduling accepted written =>
          exact .carried (written.sameBeside.carriesInstances (by decide))
  | delete present sameText deletion => exact .carried (deletion.carriesInstances present)
  | report present sameText => exact .carried (Store.carriesInstances_restate present _)
  | forget => exact .carried ((Store.sameBeside_write _ _ _).carriesInstances (by decide))
  | reconcileRegistration written => exact (Resync.Write.registration written).grows
  | reconcileDeployment written => exact written.grows
  | reconcileInstance written => exact .carried written.carriesInstances
  | reconcileTarget written => exact (Resync.Write.target written).grows
  | syncStatus written => exact (Resync.Write.report written).grows
  | tick written => exact written.grows

namespace World

variable {world : World}

/-- In a stretch of stores with an instance under the key, each has a version of what the others
have. -/
theorem isVersionOf_of_isChain {stores : List Store} {key : ObjectKey}
    (chain : stores.IsChain Store.KeepsIdentities)
    (lives : ∀ store ∈ stores, (store.find? .tenantInstance key).isSome = true) :
    ∀ first ∈ stores, ∀ second ∈ stores, ∀ earlier later : TenantInstance,
      first.find? .tenantInstance key = some earlier →
        second.find? .tenantInstance key = some later → later.IsVersionOf earlier := by
  let identity (realised : TenantInstance) :=
    (realised.key, realised.spec.id, realised.spec.tenantId, realised.spec.targetKey)
  have stays : ∀ first ∈ stores, ∀ second ∈ stores,
      (second.find? .tenantInstance key).map identity =
        (first.find? .tenantInstance key).map identity :=
    eq_of_isChain (chain.imp fun {before after} keeps => ?kept) (by simpa using lives)
  case kept =>
    simp only [Option.mem_def, Option.map_eq_some_iff]
    rintro _ ⟨earlier, found, rfl⟩ _ ⟨later, foundLater, rfl⟩
    obtain ⟨sameKey, sameId, sameTenant, sameTarget⟩ := keeps key earlier later found foundLater
    simp only [identity, sameKey, sameId, sameTenant, sameTarget]
  intro first firstMem second secondMem earlier later found foundLater
  have same := stays first firstMem second secondMem
  rw [found, foundLater] at same
  obtain ⟨sameKey, sameId, sameTenant, sameTarget⟩ := by simpa [identity] using same
  exact ⟨sameKey, sameId, sameTenant, sameTarget⟩

/-- Whatever is done to an empty store, and whatever ids are drawn: in every state, no two instances
of a namespace have the same id; throughout every stretch of states with an instance under a key,
its id, its tenant and its target are the same; and when each of the ids that a pass may draw is
that of an instance in the namespace, the pass on a deployment that is to get an instance there
fails, for this reason if there is a place for it, and creates none. -/
theorem instance_ids_are_distinct (empty : world.store = {}) (unwritten : world.journal = [])
    (actions : List Action) :
    let last := actions.foldl Action.perform world
    (∀ store, last.Passed store → store.HasDistinctIds) ∧
    (∀ (stores : List Store) (key : ObjectKey), stores <:+: last.journal →
      (∀ store ∈ stores, (store.find? .tenantInstance key).isSome = true) →
      ∀ first ∈ stores, ∀ second ∈ stores, ∀ earlier later : TenantInstance,
        first.find? .tenantInstance key = some earlier →
          second.find? .tenantInstance key = some later → later.IsVersionOf earlier) ∧
    ∀ (settings : Settings) (key : ObjectKey) (deployment : Deployment),
      last.store.find? .deployment key = some deployment →
      deployment.isMarked = false → deployment.isHeld = true →
      last.store.instanceOf? deployment = none →
      Deployment.FindsNoId last deployment.key.scope →
      ∃ failure after, (Deployment.reconcile settings key).runOn last = (.error failure, after) ∧
        after.store.list .tenantInstance = last.store.list .tenantInstance ∧
        ∀ rules target, last.store.rulesFor settings = .ok rules →
          Deployment.chosenTarget? deployment.withDefaults rules (last.store.list .target) =
            some target →
          failure = ⟨.reconcile, .generateId, .idsExhausted idAttempts⟩ := by
  intro last
  have distinct := @invariant_of_performAll world Store.HasDistinctIds (fun _ => True)
    (fun _ written => written.grows.hasDistinctIds) actions (fun _ _ => trivial)
    (by simp [empty, unwritten, Store.hasDistinctIds_empty])
  have atStart : Traces Store.KeepsIdentities {} world :=
    ⟨by simp [unwritten], by simp [unwritten, empty]⟩
  have traces := @traces_performAll {} Store.KeepsIdentities (fun _ => True) (fun _ => True)
    (fun _ => True) (fun _ _ _ written => ⟨trivial, written.grows.keepsIdentities⟩) world actions
    (fun _ _ => trivial) (fun _ _ => trivial) trivial atStart
  refine ⟨fun store passed => ?_, fun stores key stretch => ?_, ?_⟩
  · rcases passed with rfl | noted
    · exact distinct.1
    · exact distinct.2 store noted
  · have chain : stores.IsChain Store.KeepsIdentities := traces.chain.tail.infix stretch
    exact isVersionOf_of_isChain chain
  · intro settings key deployment isFound unmarked isHeld vacant noId
    exact noId.runOn_reconcile isFound unmarked isHeld vacant

/-- An empty world in which all ids that are drawn are alike, too long as they are. -/
def monotonous : World :=
  { uniform with ids := .constant "0123456789" }

/-- There are two deployments in a namespace, and one has got its instance. -/
def crowding : List Action :=
  onboarding.take 1 ++
    [requested { name := "web", scope := "tenant02" },
      requested { name := "api", scope := "tenant02" },
      .reconcileDeployment {} ⟨"tenant02", "web"⟩, .reconcileDeployment {} ⟨"tenant02", "api"⟩,
      .reconcileDeployment {} ⟨"tenant02", "web"⟩]

/-- The first deployment keeps its instance, and the second gets none for want of an id. -/
theorem instance_ids_are_distinct_once_crowded :
    let last := crowding.foldl Action.perform monotonous
    let key : ObjectKey := ⟨"tenant02", "web-00000"⟩
    (∃ store, last.Passed store ∧ (store.list .tenantInstance).length = 1) ∧
    (∀ store, last.Passed store → store.HasDistinctIds) ∧
    (∃ stores, stores <:+: last.journal ∧ 1 < stores.length ∧
      (∀ store ∈ stores, (store.find? .tenantInstance key).isSome = true) ∧
      ∀ first ∈ stores, ∀ second ∈ stores, ∀ earlier later : TenantInstance,
        first.find? .tenantInstance key = some earlier →
          second.find? .tenantInstance key = some later → later.IsVersionOf earlier) ∧
    ∃ after, (Deployment.reconcile {} ⟨"tenant02", "api"⟩).runOn last =
        (.error ⟨.reconcile, .generateId, .idsExhausted idAttempts⟩, after) ∧
      after.store.list .tenantInstance = last.store.list .tenantInstance := by
  intro last key
  obtain ⟨distinct, stays, fails⟩ := @instance_ids_are_distinct monotonous rfl rfl crowding
  have one : (last.store.list .tenantInstance).length = 1 := by decide +kernel
  have stretch : last.journal.drop 5 <:+: last.journal := (List.drop_suffix _ _).isInfix
  have lives : ∀ store ∈ last.journal.drop 5,
      (store.find? .tenantInstance key).isSome = true := by decide +kernel
  obtain ⟨deployment, present, isKey, unmarked, isHeld, vacant, isPlaceable⟩ :
      ∃ deployment ∈ last.store.list .deployment, deployment.key = ⟨"tenant02", "api"⟩ ∧
        deployment.isMarked = false ∧ deployment.isHeld = true ∧
        last.store.instanceOf? deployment = none ∧
        (Deployment.chosenTarget? deployment.withDefaults []
          (last.store.list .target)).isSome = true := by
    decide +kernel
  have noId : Deployment.FindsNoId last deployment.key.scope := by
    rw [isKey]
    unfold Deployment.FindsNoId
    decide +kernel
  have isFound : last.store.find? .deployment ⟨"tenant02", "api"⟩ = some deployment :=
    isKey ▸ Store.find?_key_of_mem present
  obtain ⟨failure, after, ran, unchanged, cause⟩ :=
    fails {} _ deployment isFound unmarked isHeld vacant noId
  obtain ⟨target, chosen⟩ := Option.isSome_iff_exists.1 isPlaceable
  obtain rfl := cause [] target rfl chosen
  exact ⟨⟨last.store, .inl rfl, one⟩, distinct,
    ⟨_, stretch, by decide +kernel, lives, stays _ key stretch lives⟩, after, ran, unchanged⟩

end World

end TenantFleet
