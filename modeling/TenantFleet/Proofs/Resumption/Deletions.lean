import TenantFleet.Proofs.Coherence.Passes
import TenantFleet.Proofs.Resumption.Trail

/-!
# Deletions that are cut off

A registration on its way out has its deployments deleted one after the other.
The stores that the deletions leave are a function of the deployments and of the
times that are drawn, and the times show in nothing else.  After each deletion
the unmarked deployments with the registration's label are the ones that have
yet to be deleted, so a pass that is begun there deletes just these.
-/

namespace TenantFleet

namespace Registration

variable {store : Store} {key : ObjectKey} {registration : Registration} {world : World}

/-- The store once the deployment is deleted. -/
def deleted (store : Store) (deployment : Deployment) (now : Nat) : Store :=
  if deployment.metadata.finalizers.isEmpty then store.remove deployment
  else store.write (some deployment) (store.stamped deployment now)

/-- The stores that are left when deployments are deleted at the times. -/
def deletions (store : Store) (times : Nat → Nat) : List Deployment → List Store
  | [] => []
  | deployment :: rest =>
      let after := deleted store deployment (times 0)
      after :: deletions after (fun count => times (count + 1)) rest

theorem deletion_deleted {deployment : Deployment} (unmarked : deployment.isMarked = false)
    (now : Nat) : store.Deletion deployment (deleted store deployment now) := by
  unfold deleted
  split
  next free => exact .purged (by simpa using free)
  next kept => exact .marked (by simpa using kept) unmarked now

theorem mem_list_deleted {deployment other : Deployment} (now : Nat)
    (present : other ∈ store.list .deployment) (apart : other.keyText ≠ deployment.keyText) :
    other ∈ (deleted store deployment now).list .deployment := by
  unfold deleted
  split
  · exact Store.mem_list_remove.2 ⟨present, apart⟩
  · exact Store.mem_list_write.2 (.inr ⟨present, apart⟩)

/-- Deletions at other times leave the same stores but for the times. -/
theorem timeless_deleted {store store' : Store} (same : store.timeless = store'.timeless)
    (deployment : Deployment) (now now' : Nat) :
    (deleted store deployment now).timeless = (deleted store' deployment now').timeless := by
  have sameVersion := Store.lastVersion_eq_of_timeless_eq same
  unfold deleted
  split
  · rw [Store.timeless_remove, Store.timeless_remove, same]
  · have sameStamp : (store.stamped deployment now).timeless =
        (store'.stamped deployment now').timeless := by
      rw [Store.stamped, Store.stamped, sameVersion]
      rfl
    rw [Store.timeless_write, Store.timeless_write, same, sameStamp]

theorem timeless_deletions (deployments : List Deployment) {store store' : Store}
    (same : store.timeless = store'.timeless) (times times' : Nat → Nat) :
    (deletions store times deployments).map Store.timeless =
      (deletions store' times' deployments).map Store.timeless := by
  induction deployments generalizing store store' times times' with
  | nil => rfl
  | cons deployment rest ih =>
      have sameFirst := timeless_deleted same deployment (times 0) (times' 0)
      rw [deletions, deletions, List.map_cons, List.map_cons, sameFirst, ih sameFirst]

theorem instanceKeys_deleted (store : Store) (deployment : Deployment) (now : Nat) :
    (deleted store deployment now).instanceKeys = store.instanceKeys := by
  unfold deleted
  split
  · rw [Store.instanceKeys, Store.list_remove_of_ne _ _ (by decide), Store.instanceKeys]
  · exact store.instanceKeys_write_of_ne _ _ (by decide)

theorem instanceKeys_of_mem_deletions {deployments : List Deployment} {times : Nat → Nat}
    {later : Store} (laterMem : later ∈ deletions store times deployments) :
    later.instanceKeys = store.instanceKeys := by
  induction deployments generalizing store times with
  | nil => exact absurd laterMem List.not_mem_nil
  | cons deployment rest ih =>
      rw [deletions] at laterMem
      rcases List.mem_cons.1 laterMem with rfl | inRest
      · exact instanceKeys_deleted store deployment (times 0)
      · rw [ih inRest, instanceKeys_deleted]

/-- The times that the world will tell. -/
def times (world : World) (count : Nat) : Nat :=
  world.clock.ahead count

/-- The world once a deployment that was not marked is deleted. -/
def afterDeletion (world : World) (deployment : Deployment) : World :=
  { world.commit (deleted world.store deployment world.clock.next) with
    clock := world.clock.advance 1 }

theorem runOn_delete_deployment {deployment : Deployment}
    (present : deployment ∈ world.store.list .deployment)
    (unmarked : deployment.isMarked = false) :
    ∃ removal, (World.delete .deployment deployment.key).runOn world =
      (.ok removal, afterDeletion world deployment) := by
  have done := Store.delete_of_mem deployment.key world.clock.next present rfl rfl
  unfold afterDeletion deleted
  cases free : deployment.metadata.finalizers.isEmpty with
  | true =>
      rw [free, if_pos rfl] at done
      exact ⟨.purged, World.runOn_delete_of_ok done⟩
  | false =>
      rw [free, unmarked] at done
      exact ⟨.marked, World.runOn_delete_of_ok done⟩

theorem times_afterDeletion (world : World) (deployment : Deployment) :
    times (afterDeletion world deployment) = fun count => times world (count + 1) := by
  funext count
  simp only [times, afterDeletion, Supply.ahead, Supply.advance, Nat.add_assoc, Nat.add_comm 1]

theorem runOn_deleteDeployments (deployments : List Deployment) (world : World)
    (present : ∀ deployment ∈ deployments, deployment ∈ world.store.list .deployment)
    (unmarked : ∀ deployment ∈ deployments, deployment.isMarked = false)
    (ordered : Store.InKeyOrder deployments) :
    ∃ after, (deleteDeployments deployments).runOn world = (.ok (!deployments.isEmpty), after) ∧
      world.Wrote (deletions world.store (times world) deployments) after := by
  induction deployments generalizing world with
  | nil => exact ⟨world, rfl, .none rfl rfl⟩
  | cons deployment rest ih =>
      obtain ⟨before, restOrdered⟩ := List.pairwise_cons.1 ordered
      have isPresent := present deployment List.mem_cons_self
      let middle := afterDeletion world deployment
      obtain ⟨removal, deleting⟩ := runOn_delete_deployment isPresent
        (unmarked deployment List.mem_cons_self)
      have restPresent : ∀ other ∈ rest, other ∈ middle.store.list .deployment := by
        intro other otherMem
        have apart : other.keyText ≠ deployment.keyText := fun same =>
          String.lt_irrefl _ (same ▸ before other otherMem)
        exact mem_list_deleted _ (present other (List.mem_cons_of_mem _ otherMem)) apart
      obtain ⟨after, ran, wrote⟩ := ih middle restPresent
        (fun other otherMem => unmarked other (List.mem_cons_of_mem _ otherMem)) restOrdered
      refine ⟨after, ?_, ?_⟩
      · unfold deleteDeployments
        rw [Pass.runOn_bind, Pass.runOn_attempt, deleting]
        change (discard (deleteDeployments rest) >>= fun _ =>
          (pure true : Pass PassFailure Bool)).runOn middle = _
        rw [Pass.runOn_discard_bind, Pass.runOn_bind, ran]
        rfl
      · have first : world.Wrote [middle.store] middle := .one rfl rfl
        rw [times_afterDeletion] at wrote
        exact first.trans wrote

theorem not_mem_indexEntries_of_apart (plain : store.HasPlainKeys) {deployment other : Deployment}
    (present : deployment ∈ store.list .deployment) (otherPresent : other ∈ store.list .deployment)
    (apart : other.keyText ≠ deployment.keyText) (label value : String) :
    Store.indexStem .deployment label value ++ other.keyText ∉ Store.indexEntries deployment := by
  intro entryMem
  obtain ⟨label', value', -, sameEntry⟩ := Store.mem_indexEntries.1 entryMem
  exact apart (Store.rest_eq_of_entry_eq (plain.nulFree .deployment other otherPresent)
    (plain.nulFree .deployment deployment present) sameEntry)

theorem mem_list_deleted_iff {deployment other : Deployment} (now : Nat)
    (unmarked : other.isMarked = false) :
    other ∈ (deleted store deployment now).list .deployment ↔
      other ∈ store.list .deployment ∧ other.keyText ≠ deployment.keyText := by
  unfold deleted
  split
  · exact Store.mem_list_remove
  · rw [Store.mem_list_write]
    refine or_iff_right ?_
    rintro rfl
    exact Bool.noConfusion unmarked

theorem mem_labelled_deleted (plain : store.HasPlainKeys) {deployment other : Deployment}
    (present : deployment ∈ store.list .deployment) (now : Nat)
    (unmarked : other.isMarked = false) {label value : String} :
    other ∈ (deleted store deployment now).labelled .deployment label value ↔
      other ∈ store.labelled .deployment label value ∧ other.keyText ≠ deployment.keyText := by
  have sameEntry (otherPresent : other ∈ store.list .deployment)
      (apart : other.keyText ≠ deployment.keyText) :
      Store.indexStem .deployment label value ++ other.keyText ∈
          (deleted store deployment now).labelIndex.entries ↔
        Store.indexStem .deployment label value ++ other.keyText ∈ store.labelIndex.entries := by
    have foreign := not_mem_indexEntries_of_apart plain present otherPresent apart label value
    unfold deleted
    split
    · exact Store.mem_reindexed.trans (by simp [foreign])
    · have stampedForeign : Store.indexStem .deployment label value ++ other.keyText ∉
          Store.indexEntries (store.stamped deployment now) := foreign
      exact Store.mem_reindexed.trans (by simp [foreign, stampedForeign])
  rw [Store.mem_labelled, Store.mem_labelled, mem_list_deleted_iff now unmarked]
  constructor
  · rintro ⟨⟨otherPresent, apart⟩, entryMem⟩
    exact ⟨⟨otherPresent, (sameEntry otherPresent apart).1 entryMem⟩, apart⟩
  · rintro ⟨⟨otherPresent, entryMem⟩, apart⟩
    exact ⟨⟨otherPresent, apart⟩, (sameEntry otherPresent apart).2 entryMem⟩

/-- The deployments with the label that are not on their way out. -/
def lasting (store : Store) (registration : Registration) : List Deployment :=
  (store.labelled .deployment registrationLabel registration.key.text).filter fun deployment =>
    !deployment.isMarked

theorem mem_lasting {deployment : Deployment} :
    deployment ∈ lasting store registration ↔
      deployment ∈ store.labelled .deployment registrationLabel registration.key.text ∧
        deployment.isMarked = false := by
  simp [lasting]

theorem inKeyOrder_lasting (store : Store) (registration : Registration) :
    Store.InKeyOrder (lasting store registration) :=
  (store.ordered_labelled .deployment _ _).sublist List.filter_sublist

/-- A deletion takes its deployment off the ones that last, and no other. -/
theorem lasting_deleted (plain : store.HasPlainKeys) {deployment : Deployment}
    {rest : List Deployment} (now : Nat)
    (isLasting : lasting store registration = deployment :: rest) :
    lasting (deleted store deployment now) registration = rest := by
  have ordered := inKeyOrder_lasting store registration
  rw [isLasting] at ordered
  obtain ⟨before, restOrdered⟩ := List.pairwise_cons.1 ordered
  have member (other : Deployment) : other ∈ deployment :: rest ↔
      other ∈ store.labelled .deployment registrationLabel registration.key.text ∧
        other.isMarked = false := by
    rw [← isLasting, mem_lasting]
  have present : deployment ∈ store.list .deployment :=
    (Store.mem_labelled.1 ((member deployment).1 List.mem_cons_self).1).1
  refine (inKeyOrder_lasting _ registration).eq_of_mem_iff restOrdered fun other => ?_
  rw [mem_lasting]
  constructor
  · rintro ⟨isLabelled, unmarked⟩
    obtain ⟨wasLabelled, apart⟩ := (mem_labelled_deleted plain present now unmarked).1 isLabelled
    rcases List.mem_cons.1 ((member other).2 ⟨wasLabelled, unmarked⟩) with rfl | inRest
    · exact absurd rfl apart
    · exact inRest
  · intro inRest
    obtain ⟨wasLabelled, unmarked⟩ := (member other).1 (List.mem_cons_of_mem deployment inRest)
    have apart : other.keyText ≠ deployment.keyText := fun same =>
      String.lt_irrefl _ (same ▸ before other inRest)
    exact ⟨(mem_labelled_deleted plain present now unmarked).2 ⟨wasLabelled, apart⟩, unmarked⟩

/-- After all the deletions, nothing with the label lasts. -/
theorem lasting_deletions (deployments : List Deployment) {store : Store}
    (coherent : store.IsCoherent) (isLasting : lasting store registration = deployments)
    (times : Nat → Nat) :
    lasting ((deletions store times deployments).getLastD store) registration = [] := by
  induction deployments generalizing store times with
  | nil => exact isLasting
  | cons deployment rest ih =>
      obtain ⟨isLabelled, unmarked⟩ : _ ∧ deployment.isMarked = false :=
        mem_lasting.1 (isLasting ▸ List.mem_cons_self)
      have afterCoherent := coherent.delete (Store.mem_labelled.1 isLabelled).1
        (deletion_deleted unmarked (times 0))
      have afterLasting := lasting_deleted coherent.plain (times 0) isLasting
      rw [deletions, List.getLastD_cons]
      exact ih afterCoherent afterLasting _

theorem runOn_reconcile_marked (isFound : world.store.find? .registration key = some registration)
    (marked : registration.isMarked = true) :
    (reconcile key).runOn world =
      ((windDown registration).onFailure (recordFailure key)).runOn world := by
  unfold reconcile
  rw [Pass.runOn_readStore_bind]
  simp only [isFound, marked, if_true]

/-- Without a deployment to wait for, a registration on its way out is let go. -/
theorem runOn_reconcile_of_bare
    (isFound : world.store.find? .registration key = some registration)
    (marked : registration.isMarked = true) (isHeld : registration.isHeld = true)
    (bare : world.store.labelled .deployment registrationLabel registration.key.text = []) :
    (reconcile key).runOn world =
      (.ok .gone, world.commit (world.store.dismissed registration)) := by
  have dismissing : (windDown registration).runOn world =
      (.ok .gone, world.commit (world.store.dismissed registration)) := by
    unfold windDown
    rw [Pass.runOn_readStore_bind]
    simp only [bare, List.isEmpty_nil, Bool.not_true, Bool.false_eq_true, if_false, isHeld,
      if_true]
    exact Pass.runOn_dismissal (Store.mem_list_of_find? isFound) rfl
  rw [runOn_reconcile_marked isFound marked, Pass.runOn_onFailure, dismissing]

/-- A registration that others keep is left to them. -/
theorem runOn_reconcile_of_relieved {left : Registration}
    (isFound : world.store.find? .registration key = some left) (marked : left.isMarked = true)
    (unheld : left.isHeld = false)
    (empty : world.store.labelled .deployment registrationLabel left.key.text = []) :
    (reconcile key).runOn world = (.ok .waiting, world) := by
  rw [runOn_reconcile_marked isFound marked, Pass.runOn_onFailure]
  unfold windDown
  rw [Pass.runOn_readStore_bind]
  simp only [empty, List.isEmpty_nil, Bool.not_true, Bool.false_eq_true, if_false, unheld]
  rfl

/-- As long as there is a deployment with the label, those that last are deleted. -/
theorem exists_reconcile_of_owning
    (isFound : world.store.find? .registration key = some registration)
    (marked : registration.isMarked = true)
    (owning : world.store.labelled .deployment registrationLabel registration.key.text ≠ []) :
    ∃ after, (reconcile key).runOn world =
        (.ok (if (lasting world.store registration).isEmpty then .waiting else .deleteIssued),
          after) ∧
      world.Wrote (deletions world.store (times world) (lasting world.store registration))
        after := by
  have present : ∀ deployment ∈ lasting world.store registration,
      deployment ∈ world.store.list .deployment := fun deployment isLasting =>
    (Store.mem_labelled.1 (mem_lasting.1 isLasting).1).1
  obtain ⟨after, ran, wrote⟩ := runOn_deleteDeployments (lasting world.store registration)
    world present (fun deployment isLasting => (mem_lasting.1 isLasting).2)
    (inKeyOrder_lasting world.store registration)
  refine ⟨after, ?_, wrote⟩
  have isSome : (!(world.store.labelled .deployment registrationLabel
      registration.key.text).isEmpty) = true := by
    simpa using owning
  rw [runOn_reconcile_marked isFound marked, Pass.runOn_onFailure]
  unfold windDown
  rw [Pass.runOn_readStore_bind]
  simp only [isSome, if_true]
  rw [Pass.runOn_bind, ← lasting, ran]
  cases (lasting world.store registration).isEmpty <;> rfl

theorem wrote_windDown (isFound : world.store.find? .registration key = some registration)
    (marked : registration.isMarked = true)
    (owning : store.labelled .deployment registrationLabel registration.key.text ≠ [])
    (isStore : world.store = store) :
    world.Wrote (deletions store (times world) (lasting store registration))
      ((reconcile key).runOn world).2 := by
  subst isStore
  obtain ⟨after, ran, wrote⟩ := exists_reconcile_of_owning isFound marked owning
  rw [ran]
  exact wrote

/-- From the store that a deletion leaves the pass deletes the deployments that are left. -/
theorem resumes_deletions (key : ObjectKey) (deployments : List Deployment) {store : Store}
    (coherent : store.IsCoherent) (isFound : store.find? .registration key = some registration)
    (marked : registration.isMarked = true)
    (isLasting : lasting store registration = deployments) (times : Nat → Nat) :
    (reconcile key).Resumes (deletions store times deployments) := by
  -- coherence says that the index has the label of what is left and of nothing that has gone, so
  -- it is carried along with the registration and the list of those that last
  induction deployments generalizing store times with
  | nil => trivial
  | cons deployment rest ih =>
      obtain ⟨isLabelled, unmarked⟩ : _ ∧ deployment.isMarked = false :=
        mem_lasting.1 (isLasting ▸ List.mem_cons_self)
      have deletion : store.Deletion deployment (deleted store deployment (times 0)) :=
        deletion_deleted unmarked (times 0)
      have afterFound : (deleted store deployment (times 0)).find? .registration key =
          some registration := by
        rw [deletion.sameBeside.find? (by decide), isFound]
      have afterCoherent := coherent.delete (Store.mem_labelled.1 isLabelled).1 deletion
      have afterLasting := lasting_deleted coherent.plain (times 0) isLasting
      refine ⟨fun more => ⟨fun begun isStore => ?_, fun later laterMem => ?_⟩,
        ih afterCoherent afterFound afterLasting _⟩
      · have someLeft : (deleted store deployment (times 0)).labelled .deployment
            registrationLabel registration.key.text ≠ [] := by
          intro none
          rw [lasting, none] at afterLasting
          rw [← afterLasting] at more
          exact more rfl
        rw [← isStore] at afterFound
        refine ⟨_, wrote_windDown afterFound marked someLeft isStore, ?_⟩
        rw [afterLasting]
        exact timeless_deletions rest rfl _ _
      · rw [instanceKeys_of_mem_deletions laterMem]
        exact List.Subset.refl _

/-- On its way out a registration has its deployments deleted, or is let go. -/
theorem resumes_marked (coherent : world.store.IsCoherent)
    (isFound : world.store.find? .registration key = some registration)
    (marked : registration.isMarked = true) :
    (reconcile key).ResumesOn world := by
  by_cases none : world.store.labelled .deployment registrationLabel registration.key.text = []
  · cases isHeld : Object.isHeld registration with
    | true =>
        exact Pass.resumesOn_of_commit
          (congrArg Prod.snd (runOn_reconcile_of_bare isFound marked isHeld none))
    | false =>
        refine Pass.resumesOn_of_idle ?_
        rw [runOn_reconcile_of_relieved isFound marked isHeld none]
  · exact ⟨_, wrote_windDown isFound marked none rfl,
      resumes_deletions key _ coherent isFound marked rfl _⟩

end Registration

end TenantFleet
