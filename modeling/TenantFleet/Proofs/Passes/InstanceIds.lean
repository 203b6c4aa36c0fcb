import TenantFleet.Proofs.Passes.Resync
import TenantFleet.Proofs.Quiet.Rest

/-!
# Ids of instances

A write either leaves every instance as what it is, under the same key with the
same id, tenant and target, or it creates one.  The id of the one that is
created is none of those in its namespace, so the ids in a namespace stay
distinct, whatever the supply yields.  The listing that taken ids are looked up
in goes by the texts of keys and may have instances of other namespaces in it;
it never misses one of the namespace itself.
-/

namespace TenantFleet

/-- The instance is what it was before: its key, its id, its tenant and its target are the same. -/
structure TenantInstance.IsVersionOf (later earlier : TenantInstance) : Prop where
  sameKey : later.key = earlier.key
  sameId : later.spec.id = earlier.spec.id
  sameTenant : later.spec.tenantId = earlier.spec.tenantId
  sameTarget : later.spec.targetKey = earlier.spec.targetKey

theorem TenantInstance.IsVersionOf.refl (realised : TenantInstance) :
    realised.IsVersionOf realised :=
  ⟨rfl, rfl, rfl, rfl⟩

namespace Store

variable {before store after : Store} {kind : Kind}

/-- No two instances of one namespace have the same id. -/
def HasDistinctIds (store : Store) : Prop :=
  ∀ first ∈ store.list .tenantInstance, ∀ second ∈ store.list .tenantInstance,
    first.key.scope = second.key.scope → first.spec.id = second.spec.id → first = second

/-- Every instance that is there now was there before. -/
def CarriesInstances (before after : Store) : Prop :=
  ∀ later ∈ after.list .tenantInstance, ∃ earlier ∈ before.list .tenantInstance,
    TenantInstance.IsVersionOf later earlier

/-- An instance that was there before and is there now is the same. -/
def KeepsIdentities (before after : Store) : Prop :=
  ∀ key (earlier later : TenantInstance), before.find? .tenantInstance key = some earlier →
    after.find? .tenantInstance key = some later → later.IsVersionOf earlier

theorem hasDistinctIds_empty : ({} : Store).HasDistinctIds := by
  intro first firstPresent
  simp at firstPresent

theorem carriesInstances_of_list_eq
    (same : after.list .tenantInstance = before.list .tenantInstance) :
    before.CarriesInstances after :=
  fun later present => ⟨later, same ▸ present, .refl later⟩

theorem carriesInstances_write {stored next : TenantInstance}
    (present : stored ∈ store.list .tenantInstance) (version : next.IsVersionOf stored) :
    store.CarriesInstances (store.write (some stored) next) := by
  intro later laterPresent
  rcases mem_list_write.1 laterPresent with rfl | ⟨wasPresent, -⟩
  · exact ⟨stored, present, version⟩
  · exact ⟨later, wasPresent, .refl later⟩

theorem carriesInstances_remove (store : Store) (current : Object kind) :
    store.CarriesInstances (store.remove current) :=
  fun later present => ⟨later, mem_list_of_mem_list_remove present, .refl later⟩

theorem carriesInstances_supplant {stored next : TenantInstance}
    (present : stored ∈ store.list .tenantInstance) (version : next.IsVersionOf stored) :
    store.CarriesInstances (store.supplant stored next) := by
  unfold supplant
  split
  · exact carriesInstances_remove store stored
  · exact carriesInstances_write present version

theorem carriesInstances_restate {stored : TenantInstance}
    (present : stored ∈ store.list .tenantInstance) (status : InstanceStatus) :
    store.CarriesInstances (store.write (some stored) (store.restated stored status)) :=
  carriesInstances_write present ⟨rfl, rfl, rfl, rfl⟩

theorem SameBut.carriesInstances {kinds : List Kind} (same : SameBut kinds before after)
    (unlisted : Kind.tenantInstance ∉ kinds) : before.CarriesInstances after :=
  carriesInstances_of_list_eq (same.list unlisted)

theorem SameBeside.carriesInstances (same : SameBeside kind before after)
    (other : Kind.tenantInstance ≠ kind) : before.CarriesInstances after :=
  carriesInstances_of_list_eq (same.list other)

theorem Deletion.carriesInstances {stored : Object kind} (deletion : store.Deletion stored after)
    (present : stored ∈ store.list kind) : store.CarriesInstances after := by
  by_cases isInstance : Kind.tenantInstance = kind
  · subst isInstance
    cases deletion with
    | purged => exact carriesInstances_remove store stored
    | marked => exact carriesInstances_write present ⟨rfl, rfl, rfl, rfl⟩
  · exact deletion.sameBeside.carriesInstances isInstance

theorem CarriesInstances.hasDistinctIds (carries : before.CarriesInstances after)
    (distinct : before.HasDistinctIds) : after.HasDistinctIds := by
  intro first firstPresent second secondPresent sameScope sameId
  obtain ⟨earlier, earlierPresent, firstVersion⟩ := carries first firstPresent
  obtain ⟨other, otherPresent, secondVersion⟩ := carries second secondPresent
  rw [firstVersion.sameKey, secondVersion.sameKey] at sameScope
  rw [firstVersion.sameId, secondVersion.sameId] at sameId
  have same := distinct earlier earlierPresent other otherPresent sameScope sameId
  refine eq_of_keyText_eq firstPresent secondPresent (congrArg ObjectKey.text ?_)
  rw [firstVersion.sameKey, secondVersion.sameKey, same]

theorem CarriesInstances.keepsIdentities (carries : before.CarriesInstances after) :
    before.KeepsIdentities after := by
  intro key earlier later found foundAfter
  obtain ⟨other, otherPresent, version⟩ := carries later (mem_list_of_find? foundAfter)
  have sameText : other.keyText = earlier.keyText := by
    rw [keyText_of_find? found, ← keyText_of_find? foundAfter, Object.keyText, Object.keyText,
      version.sameKey]
  exact eq_of_keyText_eq otherPresent (mem_list_of_find? found) sameText ▸ version

/-- The listing of a namespace has every object of it. -/
theorem mem_listIn_of_mem_list {object : Object kind} (present : object ∈ store.list kind) :
    object ∈ store.listIn kind object.key.scope :=
  Table.mem_scan.2 ⟨present, beginsWith_iff.2 ⟨object.key.name, rfl⟩⟩

end Store

namespace Deployment

variable {store : Store} {deployment : Deployment} {made : TenantInstance}

/-- The id of a new instance is none of those in its namespace. -/
theorem IsNewInstance.id_ne (isNew : IsNewInstance store deployment made) {other : TenantInstance}
    (present : other ∈ store.list .tenantInstance) (sameScope : other.key.scope = made.key.scope) :
    other.spec.id ≠ made.spec.id := by
  intro sameId
  obtain ⟨rules, target, id, suffix, now, -, unused, rfl, -⟩ := isNew
  have listed := Store.mem_listIn_of_mem_list present
  rw [sameScope] at listed
  exact unused (List.mem_map.2 ⟨other, listed, sameId⟩)

theorem IsNewInstance.hasDistinctIds (isNew : IsNewInstance store deployment made)
    (distinct : store.HasDistinctIds) : (store.write none made).HasDistinctIds := by
  intro first firstPresent second secondPresent sameScope sameId
  rcases Store.mem_list_write.1 firstPresent with rfl | ⟨firstStored, -⟩ <;>
    rcases Store.mem_list_write.1 secondPresent with rfl | ⟨secondStored, -⟩
  · rfl
  · exact absurd sameId.symm (isNew.id_ne secondStored sameScope.symm)
  · exact absurd sameId (isNew.id_ne firstStored sameScope)
  · exact distinct first firstStored second secondStored sameScope sameId

theorem IsNewInstance.keepsIdentities (isNew : IsNewInstance store deployment made) :
    store.KeepsIdentities (store.write none made) := by
  intro key earlier later found foundAfter
  obtain ⟨rules, target, id, suffix, now, -, -, -, free⟩ := isNew
  rcases Store.find?_of_write foundAfter with ⟨sameText, rfl⟩ | wasFound
  · exact absurd ((Store.keyText_of_find? found).trans sameText.symm)
      (Store.keyText_ne_of_find?_eq_none free (Store.mem_list_of_find? found))
  · obtain rfl := Option.some.inj (found.symm.trans wasFound)
    exact .refl earlier

end Deployment

/-- A write either carries the instances on or creates one. -/
inductive Store.Grows (before : Store) : Store → Prop
  | carried {after : Store} (carries : before.CarriesInstances after) : Grows before after
  | created {deployment : Deployment} {made : TenantInstance}
      (isNew : deployment.IsNewInstance before made) : Grows before (before.write none made)

theorem Store.Grows.hasDistinctIds {before after : Store} (grows : before.Grows after)
    (distinct : before.HasDistinctIds) : after.HasDistinctIds := by
  cases grows with
  | carried carries => exact carries.hasDistinctIds distinct
  | created isNew => exact isNew.hasDistinctIds distinct

theorem Store.Grows.keepsIdentities {before after : Store} (grows : before.Grows after) :
    before.KeepsIdentities after := by
  cases grows with
  | carried carries => exact carries.keepsIdentities
  | created isNew => exact isNew.keepsIdentities

section Writes

variable {store after : Store} {key : ObjectKey}

theorem TenantInstance.Write.carriesInstances (written : TenantInstance.Write key store after) :
    store.CarriesInstances after := by
  cases written with
  | @held found isFound =>
      exact Store.carriesInstances_supplant (Store.mem_list_of_find? isFound)
        ⟨found.key_hold, rfl, rfl, rfl⟩
  | released => exact (Store.sameBeside_write _ _ _).carriesInstances (by decide)
  | letGo isFound =>
      exact Store.carriesInstances_supplant (Store.mem_list_of_find? isFound) ⟨rfl, rfl, rfl, rfl⟩
  | recorded isFound => exact Store.carriesInstances_restate (Store.mem_list_of_find? isFound) _

theorem Deployment.Write.grows (written : Deployment.Write key store after) :
    store.Grows after := by
  cases written with
  | created isFound unmarked isHeld vacant isNew => exact .created isNew
  | renewed isFound realises =>
      exact .carried (Store.carriesInstances_write realises.1 ⟨rfl, rfl, rfl, rfl⟩)
  | deleted isFound marked realises unmarked deletion =>
      exact .carried (deletion.carriesInstances realises.1)
  | held | letGo =>
      exact .carried ((Store.sameBeside_supplant _ _ _).carriesInstances (by decide))
  | placed | settled | cleared | released | recorded =>
      exact .carried ((Store.sameBeside_write _ _ _).carriesInstances (by decide))

theorem Resync.Write.grows (written : Resync.Write store after) : store.Grows after := by
  cases written with
  | registration written => exact .carried (written.sameBut.carriesInstances (by decide))
  | deployment written => exact written.grows
  | report written => exact .carried (written.sameBeside.carriesInstances (by decide))
  | tenantInstance written => exact .carried written.carriesInstances
  | target written => exact .carried (written.sameBeside.carriesInstances (by decide))

end Writes

/-- When every id that is drawn is taken, the attempts are used up. -/
theorem runOn_freshIdWithin_of_taken {taken : List String} (attempts : Nat) {world : World}
    (exhausted : ∀ index < attempts, cutId (world.ids.ahead index) ∈ taken) :
    (freshIdWithin taken attempts).runOn world =
      (.error ⟨.reconcile, .generateId, .idsExhausted idAttempts⟩,
        { world with ids := world.ids.advance attempts }) := by
  induction attempts generalizing world with
  | zero => rfl
  | succ attempts ih =>
      have nextTaken : cutId world.ids.next ∈ taken := exhausted 0 (Nat.zero_lt_succ attempts)
      have laterTaken : ∀ index < attempts,
          cutId ((World.drawId world).2.ids.ahead index) ∈ taken := by
        intro index within
        have together : world.ids.drawn + 1 + index = world.ids.drawn + (index + 1) := by omega
        have isTaken := exhausted (index + 1) (Nat.succ_lt_succ within)
        simpa [World.drawId, Supply.ahead, Supply.advance, together] using isTaken
      unfold freshIdWithin
      rw [Pass.runOn_lift_bind]
      change (if taken.contains (cutId world.ids.next) then _ else _ : Pass _ _).runOn _ = _
      rw [if_pos (List.contains_iff_mem.2 nextTaken), ih laterTaken]
      have together : world.ids.drawn + 1 + attempts = world.ids.drawn + (attempts + 1) := by omega
      simp [World.drawId, Supply.advance, together]

namespace Deployment

variable {settings : Settings} {key : ObjectKey} {world : World} {deployment : Deployment}

/-- Each of the ids that are drawn next is that of an instance in the namespace. -/
def FindsNoId (world : World) (scope : String) : Prop :=
  ∀ index < idAttempts, ∃ other ∈ world.store.list .tenantInstance,
    other.key.scope = scope ∧ other.spec.id = cutId (world.ids.ahead index)

theorem FindsNoId.taken (noId : FindsNoId world deployment.key.scope) :
    ∀ index < idAttempts, cutId (world.ids.ahead index) ∈
      (world.store.listIn .tenantInstance deployment.key.scope).map
        (fun other => other.spec.id) := by
  intro index within
  obtain ⟨other, present, sameScope, sameId⟩ := noId index within
  exact List.mem_map.2 ⟨other, sameScope ▸ Store.mem_listIn_of_mem_list present, sameId⟩

/-- Without a free id no instance is made: it fails for that, unless there is no place anyway. -/
theorem FindsNoId.runOn_makeInstance (settings : Settings)
    (noId : FindsNoId world deployment.key.scope) :
    ∃ failure after, (makeInstance settings deployment).runOn world = (.error failure, after) ∧
      after.store = world.store ∧
      ∀ rules target, world.store.rulesFor settings = .ok rules →
        deployment.chosenTarget? rules (world.store.list .target) = some target →
          failure = ⟨.reconcile, .generateId, .idsExhausted idAttempts⟩ := by
  cases ruled : world.store.rulesFor settings with
  | error error =>
      exact ⟨_, world, (Unplaceable.unruled ruled).runOn_makeInstance, rfl, by simp⟩
  | ok rules =>
      cases chosen : deployment.chosenTarget? rules (world.store.list .target) with
      | none =>
          refine ⟨_, world, (Unplaceable.unhoused ruled chosen).runOn_makeInstance, rfl, ?_⟩
          rintro other target same isChosen
          obtain rfl := Except.ok.inj same
          simp [chosen] at isChosen
      | some target =>
          refine ⟨_, { world with ids := world.ids.advance idAttempts }, ?_, rfl,
            fun _ _ _ _ => rfl⟩
          unfold makeInstance
          rw [Pass.runOn_bind, Pass.runOn_during, World.runOn_reading, ruled, Pass.mapError_ok]
          simp only
          rw [Pass.runOn_readStore_bind, chosen]
          simp only
          rw [Pass.runOn_bind]
          unfold freshId
          rw [runOn_freshIdWithin_of_taken idAttempts noId.taken]

/-- Without a free id the pass on a deployment that has no instance fails, and creates none. -/
theorem FindsNoId.runOn_reconcile (noId : FindsNoId world deployment.key.scope)
    (isFound : world.store.find? .deployment key = some deployment)
    (unmarked : deployment.isMarked = false) (isHeld : deployment.isHeld = true)
    (vacant : world.store.instanceOf? deployment = none) :
    ∃ failure after, (reconcile settings key).runOn world = (.error failure, after) ∧
      after.store.list .tenantInstance = world.store.list .tenantInstance ∧
      ∀ rules target, world.store.rulesFor settings = .ok rules →
        chosenTarget? deployment.withDefaults rules (world.store.list .target) = some target →
          failure = ⟨.reconcile, .generateId, .idsExhausted idAttempts⟩ := by
  have noIdEither : FindsNoId world deployment.withDefaults.key.scope := noId
  obtain ⟨failure, middle, ran, sameStore, cause⟩ :=
    noIdEither.runOn_makeInstance settings
  have failed := runOn_realise_of_vacant settings vacant
  rw [Pass.runOn_bind, ran] at failed
  refine ⟨failure, _, runOn_reconcile_of_failed isFound unmarked isHeld failed, ?_, cause⟩
  rw [← sameStore] at isFound ⊢
  rcases store_of_recordFailure isFound failure with ⟨-, same⟩ | ⟨record, -, same⟩
  · rw [same]
  · rw [same]
    exact (sameBeside_retold _ _ _).list (by decide)

end Deployment

end TenantFleet
