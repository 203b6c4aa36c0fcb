import TenantFleet.Proofs.Teardown.Phases

/-!
# Teardown

Once every registration and every deployment of a run is deleted, three ticks
clear the store of them.  The first has the instances marked and lets them go,
the second lets the deployments go, the third the registrations.
-/

namespace TenantFleet

namespace Resync

variable {settings : Settings} {seen : Seen} {world : World}

/-- After the passes on deployments in a closing store, every instance is marked. -/
theorem marked_visitAll (closing : world.store.IsClosing) (report : TickTally) :
    ∀ realised ∈ ((visitAll .deployment (Deployment.reconcile settings) report).run
      world).2.store.list .tenantInstance, realised.isMarked = true := by
  -- an instance that is not marked was named after a deployment whose turn is still to come
  have visited := run_visitAll_induction .deployment (Deployment.reconcile settings)
    (fun pending world => world.store.IsClosing ∧
      ∀ realised ∈ world.store.list .tenantInstance,
        realised.isMarked = true ∨ ∃ owner ∈ pending, realised.key.IsNamedAfter owner)
    (fun key rest world holds => ?_) report world ⟨closing, fun realised present => ?_⟩
  · exact fun realised present => (visited.2 realised present).elim id
      fun ⟨owner, ownerMem, _⟩ => absurd ownerMem List.not_mem_nil
  · have through :=
      (Deployment.through_reconcile settings key world).mono Resync.Write.deployment
    obtain ⟨stillClosing, narrows⟩ := through.closing holds.1
    refine ⟨stillClosing, fun realised present => ?_⟩
    obtain ⟨earlier, earlierPresent, sameKey, stillMarked⟩ :=
      narrows .tenantInstance (by decide) realised present
    rcases holds.2 earlier earlierPresent with marked | ⟨owner, ownerMem, named⟩
    · exact .inl (stillMarked marked)
    · rw [sameKey] at named
      rcases List.mem_cons.1 ownerMem with rfl | inRest
      · exact .inl (Deployment.marked_of_reconcile holds.1.coherent
          (fun _ isFound => holds.1.deployment_marked isFound) realised present
          (stillClosing.coherent.label_eq_of_isNamedAfter present named))
      · exact .inr ⟨owner, inRest, named⟩
  · obtain ⟨owner, isStored, -, -, named⟩ := closing.coherent.exists_owner present
    exact .inr ⟨owner.key, List.mem_map_of_mem isStored, named⟩

/-- The first tick leaves no instances. -/
theorem instances_eq_nil_of_tick (settings : Settings) (seen : Seen)
    (closing : world.store.IsClosing) :
    ((tick settings seen).run world).2.store.list .tenantInstance = [] := by
  have first := (through_afterRegistrations world).closing closing
  have second := (through_afterDeployments settings world).closing first.1
  have third := (through_afterReports settings seen world).closing second.1
  have fourth := (through_afterInstances settings seen world).closing third.1
  have fifth := (through_afterTargets settings seen world).closing fourth.1
  have marked : ∀ realised ∈ (afterDeployments settings world).2.store.list .tenantInstance,
      realised.isMarked = true := by
    rw [afterDeployments]
    exact marked_visitAll first.1 _
  have cleared : (afterInstances settings seen world).2.store.list .tenantInstance = [] := by
    rw [afterInstances]
    refine list_eq_nil_visitAll
      (fun store => store.IsClosing ∧
        ∀ realised ∈ store.list .tenantInstance, realised.isMarked = true)
      (by decide) (fun key world holds => ?_) _ _
      ⟨third.1, third.2.all_marked (by decide) marked⟩
    have through :=
      (TenantInstance.through_reconcile settings key world).mono Resync.Write.tenantInstance
    obtain ⟨stillClosing, narrows⟩ := through.closing holds.1
    exact ⟨⟨stillClosing, narrows.all_marked (by decide) holds.2⟩, narrows,
      TenantInstance.find?_of_reconcile holds.1.coherent
        fun retiring isFound => holds.2 retiring (Store.mem_list_of_find? isFound)⟩
  simp only [run_tick]
  exact fifth.2.list_eq_nil (by decide) cleared

/-- Without instances, a tick leaves no deployments. -/
theorem deployments_eq_nil_of_tick (settings : Settings) (seen : Seen)
    (closing : world.store.IsClosing)
    (empty : world.store.list .tenantInstance = []) :
    ((tick settings seen).run world).2.store.list .deployment = [] := by
  have first := (through_afterRegistrations world).closing closing
  have second := (through_afterDeployments settings world).closing first.1
  have later := ((through_afterReports settings seen world).trans
    (through_afterInstances settings seen world)).trans
      (through_afterTargets settings seen world)
  have cleared : (afterDeployments settings world).2.store.list .deployment = [] := by
    rw [afterDeployments]
    refine list_eq_nil_visitAll
      (fun store => store.IsClosing ∧ store.list .tenantInstance = [])
      (by decide) (fun key world holds => ?_) _ _
      ⟨first.1, first.2.list_eq_nil (by decide) empty⟩
    have through :=
      (Deployment.through_reconcile settings key world).mono Resync.Write.deployment
    obtain ⟨stillClosing, narrows⟩ := through.closing holds.1
    exact ⟨⟨stillClosing, narrows.list_eq_nil (by decide) holds.2⟩, narrows,
      Deployment.find?_of_reconcile holds.1.coherent fun deployment isFound =>
        ⟨holds.1.deployment_marked isFound, Store.instanceOf?_of_nil holds.2 deployment⟩⟩
  simp only [run_tick]
  exact (later.closing second.1).2.list_eq_nil (by decide) cleared

/-- Without deployments, a tick leaves no registrations. -/
theorem registrations_eq_nil_of_tick (settings : Settings) (seen : Seen)
    (closing : world.store.IsClosing)
    (empty : world.store.list .deployment = []) :
    ((tick settings seen).run world).2.store.list .registration = [] := by
  have first := (through_afterRegistrations world).closing closing
  have later := (((through_afterDeployments settings world).trans
    (through_afterReports settings seen world)).trans
      (through_afterInstances settings seen world)).trans
        (through_afterTargets settings seen world)
  have cleared : (afterRegistrations world).2.store.list .registration = [] := by
    rw [afterRegistrations]
    refine list_eq_nil_visitAll
      (fun store => store.IsClosing ∧ store.list .deployment = [])
      (by decide) (fun key world holds => ?_) _ _ ⟨closing, empty⟩
    have through :=
      (Registration.through_reconcile key world).mono Resync.Write.registration
    obtain ⟨stillClosing, narrows⟩ := through.closing holds.1
    exact ⟨⟨stillClosing, narrows.list_eq_nil (by decide) holds.2⟩, narrows,
      Registration.find?_of_reconcile holds.1.coherent holds.1.unspent fun registration isFound =>
        ⟨holds.1.registration_marked isFound, Store.labelled_of_nil holds.2 _ _⟩⟩
  simp only [run_tick]
  exact (later.closing first.1).2.list_eq_nil (by decide) cleared

theorem exists_ok_reconcileTarget (settings : Settings) (key : ObjectKey) (world : World) :
    ∃ written last, (reconcileTarget settings key).runOn world = (.ok written, last) := by
  unfold reconcileTarget
  cases found : world.store.find? .target key with
  | none => exact ⟨_, _, TargetChange.runOn_absent found⟩
  | some target =>
      cases applied : TargetChange.publishing.apply target with
      | none => exact ⟨_, _, TargetChange.runOn_idle found applied⟩
      | some changed =>
          exact ⟨_, _, TargetChange.runOn_written TargetChange.publishing_keepsMetadata found
            applied⟩

/-- After any tick, also one with failures, the targets publish what they have left. -/
theorem publishes_of_tick (settings : Settings) (seen : Seen) (world : World) :
    ((tick settings seen).run world).2.store.Publishes [] := by
  simp only [run_tick]
  rw [afterTargets]
  refine run_visitAll_induction .target (reconcileTarget settings)
    (fun pending world => world.store.Publishes pending)
    (fun key rest world publishes target present => ?_) _ _
    fun target present => .inr ⟨target.key, List.mem_map_of_mem present, rfl⟩
  have kept := (Target.through_reconcile settings key world).preserves
    (fun store => store.Publishes (key :: rest)) (fun holds written => written.publishes holds)
    publishes
  rcases kept target present with published | ⟨own, ownMem, ownText⟩
  · exact .inl published
  · rcases List.mem_cons.1 ownMem with rfl | inRest
    · obtain ⟨written, last, ran⟩ := exists_ok_reconcileTarget settings own world
      rw [ran] at present
      exact .inl (Target.published_of_reconcile ran target present ownText)
    · exact .inr ⟨own, inRest, ownText⟩

theorem run_ticks_succ (settings : Settings) (count : Nat) (seen : Seen) (world : World) :
    (ticks settings (count + 1) seen).run world =
      (ticks settings count ((tick settings seen).run world).1.2).run
        ((tick settings seen).run world).2 := by
  change (tick settings seen >>= fun ticked => ticks settings count ticked.2).run world = _
  rw [run_bind]

/-- Three ticks clear a closing store, and give all places back. -/
theorem cleared_of_ticks (closing : world.store.IsClosing) :
    let last := ((ticks settings 3 seen).run world).2.store
    last.list .registration = [] ∧ last.list .deployment = [] ∧ last.list .tenantInstance = [] ∧
      ∀ target ∈ last.list .target,
        target.status.assigned = [] ∧ target.status.capacity = some nominalPlaces := by
  have first := (through_tick settings seen world).closing closing
  have instances := instances_eq_nil_of_tick settings seen closing
  rw [run_ticks_succ]
  generalize (tick settings seen).run world = one at first instances ⊢
  have second := (through_tick settings one.1.2 one.2).closing first.1
  have deployments := deployments_eq_nil_of_tick settings one.1.2 first.1 instances
  rw [run_ticks_succ]
  generalize (tick settings one.1.2).run one.2 = two at second deployments ⊢
  have third := (through_tick settings two.1.2 two.2).closing second.1
  have registrations := registrations_eq_nil_of_tick settings two.1.2 second.1 deployments
  have publishes := publishes_of_tick settings two.1.2 two.2
  rw [run_ticks_succ]
  generalize (tick settings two.1.2).run two.2 = three at third registrations publishes ⊢
  change three.2.store.list .registration = [] ∧ three.2.store.list .deployment = [] ∧
    three.2.store.list .tenantInstance = [] ∧ ∀ target ∈ three.2.store.list .target,
      target.status.assigned = [] ∧ target.status.capacity = some nominalPlaces
  have noInstances : three.2.store.list .tenantInstance = [] :=
    (second.2.trans third.2).list_eq_nil (by decide) instances
  refine ⟨registrations, third.2.list_eq_nil (by decide) deployments, noInstances,
    fun target present => ?_⟩
  have unassigned : target.status.assigned = [] := by
    refine List.eq_nil_iff_forall_not_mem.2 fun key listed => ?_
    obtain ⟨realised, isStored, -⟩ := third.1.coherent.places target present key listed
    rw [noInstances] at isStored
    exact List.not_mem_nil isStored
  refine ⟨unassigned, ?_⟩
  rcases publishes target present with published | ⟨_, isNil, -⟩
  · rw [published, Target.placesLeft, Target.hostedCount, unassigned]
    rfl
  · exact absurd isNil List.not_mem_nil

end Resync

namespace World

variable {world : World}

/-- The world after the deletion of objects by their kinds and keys, one after the other. -/
def withDeleted (world : World) (removals : List (Kind × ObjectKey)) : World :=
  removals.foldl (fun world removal => Action.perform world (.delete removal.1 removal.2)) world

theorem marked_of_delete {kind : Kind} (legible : kind ≠ .scheduling) (key : ObjectKey)
    (world : World) :
    ∀ object ∈ (Action.perform world (.delete kind key)).store.list kind, object.key = key →
      object.isMarked = true := by
  change ∀ object ∈ ((World.delete kind key).runOn world).2.store.list kind, _
  rintro object present rfl
  cases isFound : world.store.find? kind object.key with
  | none =>
      have absent : world.store.delete kind object.key world.clock.next =
          .error (.notFound kind object.key) := by
        simp [Store.delete, Store.read, isFound, bind, Except.bind]
      rw [runOn_delete_of_error absent] at present
      exact absurd rfl (Store.keyText_ne_of_find?_eq_none isFound present)
  | some stored =>
      have isStored := Store.mem_list_of_find? isFound
      have sameText := Store.keyText_of_find? isFound
      have deletes := Store.delete_of_mem object.key world.clock.next isStored
        (stored.isLegible_of_ne legible) sameText
      split at deletes
      next =>
        rw [runOn_delete_of_ok deletes] at present
        exact absurd sameText.symm (Store.mem_list_remove.1 present).2
      next =>
        split at deletes
        next marked =>
          rw [runOn_delete_of_ok deletes] at present
          exact Store.eq_of_keyText_eq isStored present sameText ▸ marked
        next =>
          rw [runOn_delete_of_ok deletes] at present
          rcases Store.mem_list_write.1 present with rfl | ⟨-, otherText⟩
          · rfl
          · exact absurd sameText.symm otherText

theorem narrows_of_delete (kind : Kind) (key : ObjectKey) (world : World) :
    world.store.Narrows (Action.perform world (.delete kind key)).store :=
  (Action.through_delete kind key world).preserves (fun store => world.store.Narrows store)
    (fun holds written => by
      cases written with
      | delete present sameText deletion => exact holds.trans (deletion.narrows present))
    (.refl world.store)

/-- A store is closing once all its registrations and deployments are deleted. -/
theorem isClosing_withDeleted (removals : List (Kind × ObjectKey))
    (coherent : world.store.IsCoherent) (unspent : world.store.IsUnspent)
    (complete : ∀ kind, kind = .registration ∨ kind = .deployment →
      ∀ object ∈ world.store.list kind,
        object.isMarked = true ∨ (kind, object.key) ∈ removals) :
    (world.withDeleted removals).store.IsClosing := by
  induction removals generalizing world with
  | nil =>
      have marked (kind : Kind) (isOne : kind = .registration ∨ kind = .deployment) :
          ∀ object ∈ world.store.list kind, object.isMarked = true := fun object present =>
        (complete kind isOne object present).resolve_right List.not_mem_nil
      exact ⟨coherent, unspent, marked _ (.inl rfl), marked _ (.inr rfl)⟩
  | cons removal rest ih =>
      obtain ⟨removed, key⟩ := removal
      have through := Action.through_perform (.delete removed key) world
      have kept := through.preserves (fun store => store.IsCoherent ∧ store.IsUnspent)
        (fun holds written =>
          ⟨written.isCoherent holds.1 trivial, written.edit.isUnspent holds.2⟩)
        ⟨coherent, unspent⟩
      refine ih kept.1 kept.2 fun kind isOne object present => ?_
      have other : kind ≠ .tenantSpace ∧ kind ≠ .scheduling := by
        rcases isOne with rfl | rfl <;> decide
      obtain ⟨earlier, earlierPresent, sameKey, stillMarked⟩ :=
        narrows_of_delete removed key world kind other.1 object present
      rcases complete kind isOne earlier earlierPresent with marked | isRemoved
      · exact .inl (stillMarked marked)
      · rw [sameKey] at isRemoved
        rcases List.mem_cons.1 isRemoved with isThis | inRest
        · obtain ⟨rfl, rfl⟩ := Prod.mk.inj isThis
          exact .inl (marked_of_delete other.2 object.key world object present rfl)
        · exact .inr inRest

/-- In any state of a run, delete every registration and every deployment, and whatever else, in
any order: three ticks later none of them is left, no instance is left, and every target that is
left hosts nothing and publishes all of its places. -/
theorem teardown_is_complete {origin : World} (reached : origin.Reachable)
    (passed : origin.Passed world.store) (removals : List (Kind × ObjectKey))
    (complete : ∀ kind, kind = .registration ∨ kind = .deployment →
      ∀ object ∈ world.store.list kind, (kind, object.key) ∈ removals)
    (settings : Settings) (seen : Seen) :
    let last := ((Resync.ticks settings 3 seen).run (world.withDeleted removals)).2.store
    last.list .registration = [] ∧ last.list .deployment = [] ∧ last.list .tenantInstance = [] ∧
      ∀ target ∈ last.list .target,
        target.status.assigned = [] ∧ target.status.capacity = some 10 :=
  Resync.cleared_of_ticks
    (isClosing_withDeleted removals (reached.isCoherent_of_passed passed)
      (reached.isUnspent_of_passed passed)
      fun kind isOne object present => .inr (complete kind isOne object present))

theorem teardown_is_complete_once_onboarded :
    let populated := Action.perform onboarded (.tick {} [])
    let removals : List (Kind × ObjectKey) :=
      [(.registration, ⟨"tenant01", "web"⟩), (.deployment, ⟨"tenant01", "web"⟩)]
    let last := ((Resync.ticks {} 3 []).run (populated.withDeleted removals)).2.store
    (populated.store.list .tenantInstance ≠ [] ∧ populated.store.list .registration ≠ []) ∧
      last.list .registration = [] ∧ last.list .deployment = [] ∧
        last.list .tenantInstance = [] ∧
          ∀ target ∈ last.list .target,
            target.status.assigned = [] ∧ target.status.capacity = some 10 := by
  intro populated removals last
  have inhabited : populated.store.list .tenantInstance ≠ [] ∧
      populated.store.list .registration ≠ [] := by
    decide +kernel
  have complete : ∀ kind, kind = .registration ∨ kind = .deployment →
      ∀ object ∈ populated.store.list kind, (kind, object.key) ∈ removals := by
    rintro kind (rfl | rfl)
    · decide +kernel
    · decide +kernel
  have reached : populated.Reachable := reachable_onboarded.act (.tick {} []) trivial
  have holds := teardown_is_complete reached (.inl rfl) removals complete {} []
  exact ⟨inhabited, holds⟩

end World

end TenantFleet
