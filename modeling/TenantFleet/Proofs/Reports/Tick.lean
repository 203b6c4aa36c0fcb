import TenantFleet.Proofs.Reports.Filter

/-!
# What a tick makes of what was seen

The passes on registrations leave what a registration shows, unless the
registration was due when the tick began.  The passes on deployments, instances
and targets leave it altogether.  So only registrations that were due can make a
difference to what may be left out of the reports.
-/

namespace TenantFleet

theorem World.Through.shows {before after : World}
    (through : World.Through (Store.Inherits fun _ => False) before after)
    {key : ObjectKey} {basis : ReportBasis} (shown : before.store.Shows key basis) :
    after.store.Shows key basis :=
  through.preserves (fun store => store.Shows key basis)
    (fun shows inherits => inherits.shows id shows) shown

variable {world : World} {key : ObjectKey} {seen : Seen}

namespace Registration

/-- The pass on a registration leaves what is shown under a key, unless it is its own and the
registration is due. -/
theorem shows_reconcile {other : ObjectKey} {basis : ReportBasis}
    (free : other.text = key.text → ∀ registration, ¬ IsDue world.store key registration)
    (shown : world.store.Shows other basis) :
    ((reconcile key).runOn world).2.store.Shows other basis := by
  by_cases ownKey : other.text = key.text
  · refine (through_reconcile_of_idle (free ownKey)).preserves
      (fun store => store.Shows other basis)
      (fun shows written => written.1.inherits.shows ?_ shows) shown
    rintro ⟨-, registration, due⟩
    exact written.2 registration due
  · exact (through_reconcile key world).preserves (fun store => store.Shows other basis)
      (fun shows written => written.inherits.shows (fun own => ownKey own.1) shows) shown

theorem IsDue.of_text_eq {store : Store} {other : ObjectKey} {registration : Registration}
    (due : IsDue store key registration) (sameText : other.text = key.text) :
    IsDue store other registration :=
  { due with isFound := by rw [Store.find?, sameText]; exact due.isFound }

instance (store : Store) (key : ObjectKey) :
    Decidable (∃ registration, IsDue store key registration) :=
  decidable_of_iff
    (∃ registration ∈ store.find? .registration key,
      registration.isMarked = false ∧ registration.isHeld = true ∧
        registration.status.observedGeneration ≠ registration.metadata.generation)
    ⟨fun ⟨registration, isFound, unmarked, isHeld, unseen⟩ =>
      ⟨registration, isFound, unmarked, isHeld, unseen⟩,
     fun ⟨registration, due⟩ =>
      ⟨registration, due.isFound, due.unmarked, due.isHeld, due.unseen⟩⟩

end Registration

namespace Resync

/-- The registrations whose turn is still to come are as they were, and what was seen is shown but
by registrations that were due. -/
structure IsUnderway (seen : Seen) (origin : Store) (pending : List ObjectKey) (store : Store) :
    Prop where
  distinct : pending.Pairwise fun first second => first.text ≠ second.text
  untouched : ∀ key ∈ pending, store.find? .registration key = origin.find? .registration key
  shown : ∀ entry ∈ seen, store.Shows entry.1 entry.2 ∨
    ∃ registration, Registration.IsDue origin entry.1 registration

theorem IsUnderway.reconcile {origin : Store} {rest : List ObjectKey}
    (underway : IsUnderway seen origin (key :: rest) world.store) :
    IsUnderway seen origin rest ((Registration.reconcile key).runOn world).2.store := by
  obtain ⟨different, distinct⟩ := List.pairwise_cons.1 underway.distinct
  refine ⟨distinct, fun other otherMem => ?_, fun entry entryMem => ?_⟩
  · rw [Registration.find?_reconcile_of_ne (different other otherMem)]
    exact underway.untouched other (List.mem_cons_of_mem _ otherMem)
  · rcases underway.shown entry entryMem with shown | due
    · by_cases isDue : entry.1.text = key.text ∧
          ∃ registration, Registration.IsDue world.store key registration
      · -- no pass before this one has come to the registration, so it was due at the start
        obtain ⟨sameText, registration, due⟩ := isDue
        have wasDue : Registration.IsDue origin key registration :=
          { due with isFound := (underway.untouched key List.mem_cons_self) ▸ due.isFound }
        exact .inr ⟨registration, wasDue.of_text_eq sameText⟩
      · exact .inl (Registration.shows_reconcile
          (fun sameText registration due => isDue ⟨sameText, registration, due⟩) shown)
    · exact .inr due

theorem isUnderway_afterRegistrations
    (shown : ∀ entry ∈ seen, world.store.Shows entry.1 entry.2) :
    IsUnderway seen world.store [] (afterRegistrations world).2.store := by
  rw [afterRegistrations]
  refine run_visitAll_induction .registration Registration.reconcile
    (fun pending now => IsUnderway seen world.store pending now.store)
    (fun key rest now underway => underway.reconcile) {} world
    ⟨?_, fun _ _ => rfl, fun entry entryMem => .inl (shown entry entryMem)⟩
  exact List.pairwise_map.2
    ((world.store.table .registration).ordered.imp fun before => String.ne_of_lt before)

/-- Report on every deployment that is stored in a tick, and else do what a tick does. -/
def tickInFull (settings : Settings) : StateM World TickTally := do
  let report ← visitAll .registration Registration.reconcile {}
  let report ← visitAll .deployment (Deployment.reconcile settings) report
  let report ← reportAll report ((← World.readStore).list .deployment)
  let report ← visitAll .tenantInstance (TenantInstance.reconcile settings) report
  visitAll .target (reconcileTarget settings) report

section Phases

variable (settings : Settings) (seen : Seen) (world : World)

/-- Where the tick finds a registration due, and changes on its account what a report turns on
beside the statuses, the statuses have changed as well since they were seen. -/
def IsNoticed : Prop :=
  let store := (afterDeployments settings world).2.store
  ∀ deployment ∈ store.list .deployment,
    (∃ registration, Registration.IsDue world.store deployment.key registration) →
      store.footing deployment.key ≠ world.store.footing deployment.key →
        deployment.metadata.label? registrationLabel = some deployment.keyText →
          (observe store deployment).realised ≠ none →
            seen.lookup deployment.key ≠ some (observe store deployment)

instance : Decidable (IsNoticed settings seen world) :=
  inferInstanceAs (Decidable (∀ deployment ∈ _, _))

def afterAllReports : TickTally × World :=
  (reportAll (afterDeployments settings world).1
    ((afterDeployments settings world).2.store.list .deployment)).run
      (afterDeployments settings world).2

def afterAllInstances : TickTally × World :=
  (visitAll .tenantInstance (TenantInstance.reconcile settings)
    (afterAllReports settings world).1).run (afterAllReports settings world).2

theorem run_tickInFull :
    (tickInFull settings).run world =
      (visitAll .target (reconcileTarget settings) (afterAllInstances settings world).1).run
        (afterAllInstances settings world).2 := by
  unfold tickInFull
  simp only [run_bind]
  rfl

theorem inherits_afterDeployments :
    World.Through (Store.Inherits fun _ => False) (afterRegistrations world).2
      (afterDeployments settings world).2 := by
  rw [afterDeployments]
  refine through_visitAll (fun key world => ?_) _ _ _
  exact (Deployment.through_reconcile settings key world).mono Deployment.Write.inherits

theorem inherits_afterTargets :
    World.Through (Store.Inherits fun _ => False) (afterReports settings seen world).2
      (afterTargets settings seen world).2 := by
  have instances : World.Through (Store.Inherits fun _ => False)
      (afterReports settings seen world).2 (afterInstances settings seen world).2 := by
    rw [afterInstances]
    refine through_visitAll (fun key world => ?_) _ _ _
    exact (TenantInstance.through_reconcile settings key world).mono TenantInstance.Write.inherits
  have targets : World.Through (Store.Inherits fun _ => False)
      (afterInstances settings seen world).2 (afterTargets settings seen world).2 := by
    rw [afterTargets]
    refine through_visitAll (fun key world => ?_) _ _ _
    exact (Target.through_reconcile settings key world).mono Target.Write.inherits
  exact instances.trans targets

variable {settings seen world}

theorem isReportable_afterDeployments (anchored : world.store.IsAnchored)
    (shown : ∀ entry ∈ seen, world.store.Shows entry.1 entry.2)
    (noticed : IsNoticed settings seen world) :
    IsReportable seen (afterDeployments settings world).2.store
      ((afterDeployments settings world).2.store.list .deployment) := by
  have through := inherits_afterDeployments settings world
  have underway := isUnderway_afterRegistrations shown
  have stillAnchored : (afterDeployments settings world).2.store.IsAnchored :=
    ((through_afterRegistrations world).trans (through_afterDeployments settings world)).preserves
      Store.IsAnchored (fun holds written => written.isAnchored holds) anchored
  refine ⟨stillAnchored.labelsOwn, fun _ => id,
    ((afterDeployments settings world).2.store.table .deployment).ordered.imp
      fun before => (String.ne_of_lt before).symm, fun deployment present isSeen => ?_⟩
  obtain ⟨front, back, isSplit, -⟩ := List.lookup_eq_some_iff.1 isSeen
  have entryMem : (deployment.key, observe _ deployment) ∈ seen :=
    isSplit ▸ List.mem_append_right _ List.mem_cons_self
  rcases underway.shown _ entryMem with shows | due
  · exact through.shows shows
  by_cases same : (afterDeployments settings world).2.store.footing deployment.key =
      world.store.footing deployment.key
  · exact Store.shows_of_footing_eq (shown _ entryMem) same
  · -- what has changed with a registration that was due has been noticed
    intro other registration otherFound labelled _ status isRealised
    rw [Store.find?_key_of_mem present] at otherFound
    obtain rfl := Option.some.inj otherFound
    exact absurd isSeen (noticed deployment present due same labelled (by rw [isRealised]; simp))

theorem world_visit {α : Type} (pass : ObjectKey → Pass PassFailure α)
    (report again : TickTally) (keys : List ObjectKey) (world : World) :
    ((visit pass report keys).run world).2 = ((visit pass again keys).run world).2 := by
  induction keys generalizing report again world with
  | nil => rfl
  | cons key rest ih =>
      rw [run_visit_cons, run_visit_cons]
      exact ih _ _ _

theorem world_visitAll {α : Type} (kind : Kind) (pass : ObjectKey → Pass PassFailure α)
    (report again : TickTally) (world : World) :
    ((visitAll kind pass report).run world).2 = ((visitAll kind pass again).run world).2 :=
  world_visit pass report again ((world.store.list kind).map Object.key) world

/-- A tick leaves the world that it would leave if it reported on every deployment. -/
theorem world_tick (anchored : world.store.IsAnchored)
    (shown : ∀ entry ∈ seen, world.store.Shows entry.1 entry.2)
    (noticed : IsNoticed settings seen world) :
    ((tick settings seen).run world).2 = ((tickInFull settings).run world).2 := by
  have sameReports : (afterReports settings seen world).2 = (afterAllReports settings world).2 := by
    rw [afterReports, afterAllReports]
    exact world_reportChanges _ _ _ _ _
      (isReportable_afterDeployments anchored shown noticed)
  -- from here on the two ticks differ in their tallies only
  have sameInstances : (afterInstances settings seen world).2 =
      (afterAllInstances settings world).2 := by
    rw [afterInstances, afterAllInstances, sameReports]
    exact world_visitAll _ _ _ _ _
  simp only [run_tick, run_tickInFull]
  rw [afterTargets, sameInstances]
  exact world_visitAll _ _ _ _ _

/-- What a tick has seen is shown when it is over. -/
theorem shows_tick (anchored : world.store.IsAnchored)
    (shown : ∀ entry ∈ seen, world.store.Shows entry.1 entry.2)
    (noticed : IsNoticed settings seen world) :
    ∀ entry ∈ ((tick settings seen).run world).1.2,
      ((tick settings seen).run world).2.store.Shows entry.1 entry.2 := by
  have reportable := isReportable_afterDeployments anchored shown noticed
  have reported := shows_reportChanges _ [] (afterDeployments settings world).1
    (afterDeployments settings world).2 reportable fun _ isNone => absurd isNone List.not_mem_nil
  simp only [run_tick]
  exact fun entry entryMem => (inherits_afterTargets settings seen world).shows
    (reported entry entryMem)

end Phases

end Resync

end TenantFleet
