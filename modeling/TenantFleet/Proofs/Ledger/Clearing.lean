import TenantFleet.Proofs.Ledger.Settling

/-!
# Places are given back and counted

Once all instances are settled, those that are marked go in the passes on
instances, each after its place, so every instance that is left has its place.
The passes on targets then publish what the lists of places come to.
-/

namespace TenantFleet

namespace Store

variable {store : Store}

/-- Instances without a place are marked, and the passes on them are still to come. -/
def Clears (store : Store) (pending : List ObjectKey) : Prop :=
  ∀ realised ∈ store.list .tenantInstance, store.Places realised ∨
    realised.isMarked = true ∧ ∃ key ∈ pending, realised.keyText = key.text

/-- Targets that publish another number of places than they have left have their passes still to
come. -/
def Publishes (store : Store) (pending : List ObjectKey) : Prop :=
  ∀ target ∈ store.list .target, target.status.capacity = some (Target.placesLeft target) ∨
    ∃ key ∈ pending, target.keyText = key.text

theorem Clears.tail {key : ObjectKey} {rest : List ObjectKey} (clears : store.Clears (key :: rest))
    (unmarked : ∀ realised ∈ store.list .tenantInstance, realised.keyText = key.text →
      realised.isMarked = false) : store.Clears rest := by
  intro realised present
  rcases clears realised present with placed | ⟨marked, own, ownMem, ownText⟩
  · exact .inl placed
  · rcases List.mem_cons.1 ownMem with rfl | inRest
    · exact absurd marked (by simp [unmarked realised present ownText])
    · exact .inr ⟨marked, own, inRest, ownText⟩

end Store

namespace TenantInstance

variable {store after : Store} {key : ObjectKey} {settings : Settings} {world last : World}
  {outcome : Outcome}

theorem Write.clears (written : TenantInstance.Write key store after)
    (coherent : store.IsCoherent) {pending : List ObjectKey} (isPending : key ∈ pending)
    (clears : store.Clears pending) : after.Clears pending := by
  cases written with
  | held isFound unmarked unheld =>
      have sound := coherent.sound_instance (Store.mem_list_of_find? isFound)
      exact absurd sound.isHeld (by simp [unheld])
  | @released retiring target isFound marked isHeld targetFound hosts =>
      intro realised present
      rw [Store.list_write_of_ne _ _ _ (by decide)] at present
      by_cases isRetiring : realised = retiring
      · subst isRetiring
        exact .inr ⟨marked, key, isPending, Store.keyText_of_find? isFound⟩
      · refine (clears realised present).imp_left fun placed =>
          placed.write_target (Store.mem_list_of_find? targetFound) rfl fun wasHosted => ?_
        have otherKey : realised.key ≠ retiring.key := fun same =>
          isRetiring (Store.eq_of_keyText_eq present (Store.mem_list_of_find? isFound)
            (congrArg ObjectKey.text same))
        simp only [Target.hosts, List.contains_iff_mem] at wasHosted ⊢
        exact List.mem_filter.2 ⟨wasHosted, by simpa using otherKey⟩
  | @letGo retiring isFound marked isHeld released =>
      intro realised present
      have same := Store.sameBeside_supplant store retiring
        (store.replacement retiring retiring.letGo)
      have own : retiring.metadata.HasOwnFinalizers :=
        .inr (coherent.sound_instance (Store.mem_list_of_find? isFound)).held
      rw [Store.supplant_of_spent (Store.isSpent_letGo marked own),
        Store.list_with_lastVersion] at present
      exact (clears realised (Store.mem_list_remove.1 present).1).imp_left fun placed =>
        placed.congr same (by decide)
  | @recorded current isFound record =>
      intro realised present
      have same := Store.sameBeside_write store (some current)
        (store.restated current { current.status with lastError := some record })
      rcases Store.mem_list_write.1 present with rfl | ⟨wasPresent, -⟩
      · exact (clears current (Store.mem_list_of_find? isFound)).imp_left fun placed =>
          Store.Places.congr placed same (by decide)
      · exact (clears realised wasPresent).imp_left fun placed => placed.congr same (by decide)

theorem gone_of_windDown {retiring : TenantInstance}
    (isFound : world.store.find? .tenantInstance key = some retiring)
    (marked : retiring.isMarked = true) (own : retiring.metadata.HasOwnFinalizers)
    (ran : (windDown settings retiring).runOn world = (.ok outcome, last)) :
    ∀ realised ∈ last.store.list .tenantInstance, realised.keyText ≠ retiring.keyText := by
  intro realised present
  unfold windDown at ran
  obtain ⟨released, middle, releasing, ran⟩ := Pass.exists_of_discard_bind_ok ran
  have stillStored : retiring ∈ middle.store.list .tenantInstance := by
    rw [(sameBeside_of_releasePlace releasing).list (by decide)]
    exact Store.mem_list_of_find? isFound
  rw [Pass.runOn_during_bind_of_ok (World.runOn_letGo stillStored rfl),
    Store.supplant_of_spent (Store.isSpent_letGo marked own)] at ran
  cases ran
  rw [World.commit, Store.list_with_lastVersion] at present
  exact (Store.mem_list_remove.1 present).2

/-- An instance that is marked is gone after the pass on it, unless the pass fails. -/
theorem unmarked_of_reconcile (coherent : world.store.IsCoherent)
    (ran : (reconcile settings key).runOn world = (.ok outcome, last)) :
    ∀ realised ∈ last.store.list .tenantInstance, realised.keyText = key.text →
      realised.isMarked = false := by
  intro realised present sameText
  unfold reconcile at ran
  rw [Pass.runOn_readStore_bind] at ran
  cases isFound : world.store.find? .tenantInstance key with
  | none =>
      simp only [isFound] at ran
      cases ran
      exact absurd sameText (Store.keyText_ne_of_find?_eq_none isFound present)
  | some found =>
      have isStored := Store.mem_list_of_find? isFound
      have sound := coherent.sound_instance isStored
      simp only [isFound, sound.isHeld, if_true] at ran
      cases marked : Object.isMarked found with
      | false =>
          simp only [marked, Bool.false_eq_true, if_false] at ran
          cases ran
          obtain rfl := Store.eq_of_keyText_eq present isStored
            (sameText.trans (Store.keyText_of_find? isFound).symm)
          exact marked
      | true =>
          simp only [marked, if_true] at ran
          have otherText := gone_of_windDown isFound marked (.inr sound.held)
            (Pass.runOn_of_onFailure_ok ran) realised present
          exact absurd (sameText.trans (Store.keyText_of_find? isFound).symm) otherText

end TenantInstance

namespace Target

variable {store after : Store} {key : ObjectKey} {settings : Settings} {world last : World}

theorem Write.publishes (written : Target.Write key store after) {pending : List ObjectKey}
    (publishes : store.Publishes pending) : after.Publishes pending := by
  cases written with
  | published isFound stale =>
      intro target present
      rcases Store.mem_list_write.1 present with rfl | ⟨wasPresent, -⟩
      · exact .inl rfl
      · exact publishes target wasPresent

theorem Write.places (written : Target.Write key store after)
    (placed : ∀ realised ∈ store.list .tenantInstance, store.Places realised) :
    ∀ realised ∈ after.list .tenantInstance, after.Places realised := by
  cases written with
  | published isFound stale =>
      intro realised present
      rw [Store.list_write_of_ne _ _ _ (by decide)] at present
      exact (placed realised present).write_target (Store.mem_list_of_find? isFound) rfl id

theorem published_of_reconcile {written : Bool}
    (ran : (reconcileTarget settings key).runOn world = (.ok written, last)) :
    ∀ target ∈ last.store.list .target, target.keyText = key.text →
      target.status.capacity = some (Target.placesLeft target) := by
  intro target present sameText
  have found := Store.find?_eq_some_of_mem present sameText
  unfold reconcileTarget at ran
  cases wasFound : world.store.find? .target key with
  | none =>
      rw [TargetChange.runOn_absent wasFound] at ran
      cases ran
      rw [wasFound] at found
      contradiction
  | some stored =>
      by_cases current : stored.status.capacity = some (Target.placesLeft stored)
      · rw [TargetChange.runOn_idle wasFound
          (by rw [TargetChange.apply_publishing, if_pos current])] at ran
        cases ran
        rw [wasFound] at found
        exact Option.some.inj found ▸ current
      · rw [TargetChange.runOn_written TargetChange.publishing_keepsMetadata wasFound
          (by rw [TargetChange.apply_publishing, if_neg current])] at ran
        cases ran
        rw [World.commit, Store.find?_restated wasFound] at found
        obtain rfl := Option.some.inj found
        rfl

end Target

end TenantFleet
