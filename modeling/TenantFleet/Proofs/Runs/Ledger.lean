import TenantFleet.Proofs.Ledger.Tick

/-!
# The ledger of places

What the targets list is a ledger of where the instances are.  In every state of
a run each of its entries stands for a stored instance; after a tick without
failures no instance is missing from it either.
-/

namespace TenantFleet

namespace Store.IsCoherent

variable {store : Store}

/-- What a target lists is stored, and was made for it. -/
theorem exists_of_assigned (coherent : store.IsCoherent) {target : Target}
    (present : target ∈ store.list .target) {key : ObjectKey}
    (listed : key ∈ target.status.assigned) :
    ∃ realised, store.find? .tenantInstance key = some realised ∧ realised.key = key ∧
      realised.spec.targetKey = target.key := by
  obtain ⟨realised, isStored, isRealised, onTarget⟩ := coherent.places target present key listed
  exact ⟨realised, isRealised ▸ Store.find?_key_of_mem isStored, isRealised, onTarget⟩

theorem nodup_keys_instancesOn (store : Store) (targetKey : ObjectKey) :
    ((store.instancesOn targetKey).map Object.key).Nodup :=
  (store.inKeyOrder_filter _).nodup_keys

/-- When every instance has its place, the list of a target is that of the instances that were made
for it. -/
theorem assigned_perm (coherent : store.IsCoherent)
    (placed : ∀ realised ∈ store.list .tenantInstance, store.Places realised) {target : Target}
    (present : target ∈ store.list .target) :
    target.status.assigned.Perm ((store.instancesOn target.key).map Object.key) := by
  have sound : Target.IsSound target := coherent.sound .target target present
  refine (List.perm_ext_iff_of_nodup sound (nodup_keys_instancesOn store target.key)).2
    fun key => ?_
  simp only [instancesOn, List.mem_map, List.mem_filter, decide_eq_true_eq]
  constructor
  · intro listed
    obtain ⟨realised, isStored, isRealised, onTarget⟩ := coherent.places target present key listed
    exact ⟨realised, ⟨isStored, onTarget⟩, isRealised⟩
  · rintro ⟨realised, ⟨isStored, onTarget⟩, rfl⟩
    obtain ⟨host, hostFound, hosts⟩ := placed realised isStored
    rw [onTarget, find?_key_of_mem present] at hostFound
    obtain rfl := Option.some.inj hostFound
    simpa [Target.hosts] using hosts

end Store.IsCoherent

namespace World

variable {world : World}

/-- In every state of a run, every entry of a target's list occurs once and names a stored instance
that was made for the target.  So no instance goes while a target still lists it. -/
theorem ledger_never_leaks (reached : world.Reachable) {store : Store}
    (passed : world.Passed store) {target : Target} (present : target ∈ store.list .target) :
    target.status.assigned.Nodup ∧
      (∀ key ∈ target.status.assigned, ∃ realised,
        store.find? .tenantInstance key = some realised ∧ realised.key = key ∧
          realised.spec.targetKey = target.key) ∧
      ∀ key, store.find? .tenantInstance key = none → target.hosts key = false := by
  have coherent := reached.isCoherent_of_passed passed
  refine ⟨coherent.sound .target target present,
    fun key listed => coherent.exists_of_assigned present listed, fun key absent => ?_⟩
  cases hosted : Target.hosts target key with
  | false => rfl
  | true =>
      have listed : key ∈ target.status.assigned := by simpa [Target.hosts] using hosted
      obtain ⟨realised, found, -⟩ := coherent.exists_of_assigned present listed
      rw [absent] at found
      contradiction

theorem ledger_never_leaks_once_onboarded :
    ∃ target ∈ (Action.perform onboarded (.tick {} [])).store.list .target,
      target.status.assigned = [⟨"tenant01", "web-0358f"⟩] ∧ target.status.assigned.Nodup ∧
        ∃ realised, (Action.perform onboarded (.tick {} [])).store.find? .tenantInstance
          ⟨"tenant01", "web-0358f"⟩ = some realised ∧ realised.spec.targetKey = target.key := by
  have populated : ∃ target ∈ (Action.perform onboarded (.tick {} [])).store.list .target,
      target.status.assigned = [⟨"tenant01", "web-0358f"⟩] := by decide +kernel
  obtain ⟨target, present, assigned⟩ := populated
  have holds :=
    ledger_never_leaks (reachable_onboarded.act (.tick {} []) trivial) (.inl rfl) present
  obtain ⟨realised, found, -, onTarget⟩ := holds.2.1 ⟨"tenant01", "web-0358f"⟩ (by simp [assigned])
  exact ⟨target, present, assigned, holds.1, realised, found, onTarget⟩

/-- After a tick of a run that had no failures, a target lists exactly the instances that were made
for it, each once, and publishes how many of its ten places they leave. -/
theorem ledger_is_exact_after_tick (reached : world.Reachable) {settings : Settings}
    {seen current : Seen} {tally : TickTally} {after : World}
    (ticked : (Resync.tick settings seen).run world = ((tally, current), after))
    (faultless : tally.failed = 0) {target : Target}
    (present : target ∈ after.store.list .target) :
    target.status.assigned.Nodup ∧
      target.status.assigned.Perm ((after.store.instancesOn target.key).map Object.key) ∧
      target.status.capacity = some (10 - ((after.store.instancesOn target.key).length : Int)) := by
  have ran : ((Resync.tick settings seen).run world).1.1.failed = 0 := by
    rw [ticked]
    exact faultless
  have holds := Resync.places_and_publishes_of_tick reached.isCoherent.1 ran
  rw [ticked] at holds
  obtain ⟨coherent, publishes, placed⟩ := holds
  have perm := coherent.assigned_perm placed present
  refine ⟨coherent.sound .target target present, perm, ?_⟩
  rcases publishes target present with published | ⟨key, keyMem, -⟩
  · have sameLength : target.status.assigned.length =
        (after.store.instancesOn target.key).length := by
      rw [perm.length_eq, List.length_map]
    rw [published, Target.placesLeft, Target.hostedCount, sameLength, nominalPlaces]
  · exact absurd keyMem List.not_mem_nil

theorem ledger_is_exact_once_onboarded :
    ((Resync.tick {} []).run onboarded).1.1.failed = 0 ∧
      ∃ target ∈ ((Resync.tick {} []).run onboarded).2.store.list .target,
        target.status.capacity = some 9 ∧
          target.status.assigned.Perm
            ((((Resync.tick {} []).run onboarded).2.store.instancesOn target.key).map
              Object.key) := by
  have faultless : ((Resync.tick {} []).run onboarded).1.1.failed = 0 := by decide +kernel
  have published : ∃ target ∈ ((Resync.tick {} []).run onboarded).2.store.list .target,
      target.status.capacity = some 9 := by decide +kernel
  cases ticked : (Resync.tick {} []).run onboarded with
  | mk outcome after =>
      obtain ⟨tally, current⟩ := outcome
      rw [ticked] at faultless published
      obtain ⟨target, present, capacity⟩ := published
      have holds := ledger_is_exact_after_tick reachable_onboarded ticked faultless present
      exact ⟨faultless, target, present, capacity, holds.2.1⟩

end World

end TenantFleet
