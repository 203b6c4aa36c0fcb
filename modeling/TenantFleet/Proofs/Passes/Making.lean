import TenantFleet.Lifecycle.Deployment
import TenantFleet.Proofs.Passes.Place
import TenantFleet.Proofs.Store.Frame

/-!
# Making the instance of a deployment

An instance is made on one of the stored targets, with an id that no instance
of the namespace has, under a free name that the store completes.  Whatever
fails before that has written nothing.
-/

namespace TenantFleet

namespace Deployment

theorem mem_pool_of_candidates {deployment : Deployment} {rules : List SchedulingRule}
    {pool : List Target} {target : Target}
    (isCandidate : target ∈ deployment.candidates rules pool) : target ∈ pool := by
  unfold candidates at isCandidate
  split at isCandidate
  · exact (List.mem_filter.1 isCandidate).1
  · obtain ⟨key, -, found⟩ := List.mem_filterMap.1 isCandidate
    exact List.mem_of_find?_eq_some found

theorem mem_pool_of_chosenTarget? {deployment : Deployment} {rules : List SchedulingRule}
    {pool : List Target} {target : Target}
    (chosen : deployment.chosenTarget? rules pool = some target) : target ∈ pool := by
  have isRanked : target ∈ ranked ((deployment.candidates rules pool).filter deployment.fits) :=
    List.mem_of_mem_head? chosen
  have isFitting := List.mem_mergeSort.1 isRanked
  exact mem_pool_of_candidates (List.mem_filter.1 isFitting |>.1)

end Deployment

/-- Drawing an id uses up ids only, and yields one that is not taken. -/
theorem runOn_freshIdWithin (taken : List String) (attempts : Nat) (world : World) :
    ∃ outcome drawn, (freshIdWithin taken attempts).runOn world =
      (outcome, { world with ids := world.ids.advance drawn }) ∧
        ∀ id, outcome = .ok id → id ∉ taken := by
  induction attempts generalizing world with
  | zero => exact ⟨_, 0, rfl, by simp⟩
  | succ attempts ih =>
      unfold freshIdWithin
      rw [Pass.runOn_lift_bind]
      by_cases isTaken : taken.contains (cutId world.ids.next)
      · obtain ⟨outcome, drawn, ran, fresh⟩ := ih (World.drawId world).2
        refine ⟨outcome, drawn + 1, ?_, fresh⟩
        change (if taken.contains (cutId world.ids.next) then _ else _ : Pass _ _).runOn _ = _
        rw [if_pos isTaken, ran]
        have together : world.ids.drawn + 1 + drawn = world.ids.drawn + (drawn + 1) := by omega
        simp [World.drawId, Supply.advance, together]
      · refine ⟨.ok (cutId world.ids.next), 1, ?_, ?_⟩
        · change (if taken.contains (cutId world.ids.next) then _ else _ : Pass _ _).runOn _ = _
          rw [if_neg isTaken]
          rfl
        · rintro id same
          obtain rfl := Except.ok.inj same
          simpa using isTaken

namespace Deployment

/-- A new instance of the deployment, as it is made from the store. -/
def IsNewInstance (store : Store) (deployment : Deployment) (created : TenantInstance) : Prop :=
  ∃ rules target id suffix now,
    deployment.chosenTarget? rules (store.list .target) = some target ∧
    id ∉ (store.listIn .tenantInstance deployment.key.scope).map (fun other => other.spec.id) ∧
    created = store.initialObject (deployment.newInstance target.key id)
      (deployment.key.name ++ "-" ++ NameSuffix.text suffix) now ∧
    store.find? .tenantInstance created.key = none

theorem isNewInstance_of_create {store after : Store} {deployment : Deployment}
    {rules : List SchedulingRule} {target : Target} {id : String} {now : Nat}
    {suffix : Nat → NameSuffix} {created : TenantInstance}
    (chosen : deployment.chosenTarget? rules (store.list .target) = some target)
    (fresh : id ∉ (store.listIn .tenantInstance deployment.key.scope).map
      (fun other => other.spec.id))
    (done : store.create (deployment.newInstance target.key id) now suffix =
      .ok (created, after)) :
    deployment.IsNewInstance store created ∧ after = store.write none created := by
  obtain ⟨name, named, isCreated, free, isAfter⟩ := Store.stored_of_create done
  rcases Store.nameFor_eq_ok named with ⟨own, -⟩ | ⟨-, -, attempt, rfl⟩
  · exact absurd rfl own
  · exact ⟨⟨rules, target, id, suffix attempt, now, chosen, fresh, isCreated, free⟩, isAfter⟩

theorem runOn_create_newInstance {deployment : Deployment} {rules : List SchedulingRule}
    {target : Target} {id : String} (world : World) {middle : World}
    (chosen : deployment.chosenTarget? rules (world.store.list .target) = some target)
    (fresh : id ∉ (world.store.listIn .tenantInstance deployment.key.scope).map
      (fun other => other.spec.id))
    (sameStore : middle.store = world.store) (sameJournal : middle.journal = world.journal) :
    let making := (World.create (deployment.newInstance target.key id)).during
      .reconcile .createInstance
    (∃ failure after, making.runOn middle = (.error failure, after) ∧
      after.store = world.store ∧ after.journal = world.journal) ∨
    ∃ created after, making.runOn middle = (.ok created, after) ∧
      deployment.IsNewInstance world.store created ∧
      after.store = world.store.write none created ∧
      after.journal = world.journal ++ [after.store] := by
  simp only [Pass.runOn_during]
  cases done : middle.store.create (deployment.newInstance target.key id) middle.clock.next
      middle.suffixes.ahead with
  | error error =>
      rw [World.runOn_create_of_error done]
      exact .inl ⟨_, _, rfl, sameStore, sameJournal⟩
  | ok result =>
      obtain ⟨created, after⟩ := result
      rw [World.runOn_create_of_ok done]
      rw [sameStore] at done
      obtain ⟨isNew, rfl⟩ := isNewInstance_of_create chosen fresh done
      exact .inr ⟨created, _, rfl, isNew, rfl, congrArg (· ++ _) sameJournal⟩

/-- Making the instance of a deployment writes it, or fails and writes nothing. -/
theorem runOn_makeInstance (settings : Settings) (deployment : Deployment) (world : World) :
    (∃ failure after, (makeInstance settings deployment).runOn world = (.error failure, after) ∧
      after.store = world.store ∧ after.journal = world.journal) ∨
    ∃ created after, (makeInstance settings deployment).runOn world = (.ok created, after) ∧
      deployment.IsNewInstance world.store created ∧
      after.store = world.store.write none created ∧
      after.journal = world.journal ++ [after.store] := by
  unfold makeInstance
  rw [Pass.runOn_bind, Pass.runOn_during, World.runOn_reading]
  cases world.store.rulesFor settings with
  | error error => exact .inl ⟨_, world, rfl, rfl, rfl⟩
  | ok rules =>
      rw [Pass.mapError_ok]
      simp only
      rw [Pass.runOn_readStore_bind]
      cases chosen : deployment.chosenTarget? rules (world.store.list .target) with
      | none => exact .inl ⟨_, world, rfl, rfl, rfl⟩
      | some target =>
          simp only
          rw [Pass.runOn_bind]
          unfold freshId
          obtain ⟨outcome, drawn, drew, fresh⟩ := runOn_freshIdWithin
            ((world.store.listIn .tenantInstance deployment.key.scope).map
              fun neighbour => neighbour.spec.id) idAttempts world
          rw [drew]
          cases outcome with
          | error failure => exact .inl ⟨_, _, rfl, rfl, rfl⟩
          | ok id => exact runOn_create_newInstance _ chosen (fresh id rfl) rfl rfl

end Deployment

end TenantFleet
