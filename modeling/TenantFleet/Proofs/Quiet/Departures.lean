import TenantFleet.Proofs.Quiet.Tended
import TenantFleet.Proofs.Resumption.Registration

/-!
# What is on its way out goes

In a tended store the passes on registrations mark no deployment, so no instance
comes to belong to a marked one, and the passes on deployments let the marked
ones go.  Once there are none, the passes on registrations let the marked ones go
and carry out what the others ask for.
-/

namespace TenantFleet

variable {store after : Store} {key : ObjectKey} {world : World} {settings : Settings}
  {seen : Seen}

namespace Registration

variable {registration : Registration}

/-- What the index has under the label of a registration that has handed its mark down is marked. -/
theorem isMarked_of_labelled (coherent : store.IsCoherent)
    (derived : store.HandsDown .registration .deployment registrationLabel)
    (present : registration ∈ store.list .registration) (marked : registration.isMarked = true)
    {deployment : Deployment}
    (listed : deployment ∈
      store.labelled .deployment registrationLabel registration.key.text) :
    deployment.isMarked = true := by
  have keys := coherent.plain.nulFree
  have labelled := coherent.indexed.hasLabel_of_mem_labelled keys (by decide)
    (keys .registration registration present) listed
  exact derived registration present marked deployment (Store.mem_labelled.1 listed).1
    (beq_iff_eq.1 labelled)

/-- The pass on a registration that is there to stay marks no deployment. -/
theorem Write.marksNone_deployment (written : Registration.Write key store after)
    (lasting : ∀ registration : Registration,
      store.find? .registration key = some registration → registration.isMarked = false) :
    Store.MarksNone .deployment store after := by
  cases written with
  | derived => exact Store.marksNone_write none fun marked => nomatch marked
  | @carried registration existing due deploymentFound lasting =>
      refine Store.marksNone_write _ fun marked => ?_
      exact absurd marked (by simp [lasting])
  | deleted isFound marked present deletion =>
      exact absurd marked (by simp [lasting _ isFound])
  | held | letGo =>
      exact Store.marksNone_of_list_eq ((Store.sameBeside_supplant _ _ _).list (by decide))
  | spaced | synced | recorded =>
      exact Store.marksNone_of_list_eq ((Store.sameBeside_write _ _ _).list (by decide))

/-- No pass marks a registration, so it stays unmarked while its pass is at work. -/
theorem marksNone_deployment_of_lasting
    (lasting : ∀ registration : Registration,
      world.store.find? .registration key = some registration → registration.isMarked = false) :
    Store.MarksNone .deployment world.store ((reconcile key).runOn world).2.store := by
  have within := (through_reconcile key world).within
    (fun store => ∀ registration : Registration,
      store.find? .registration key = some registration → registration.isMarked = false)
    (fun lasting written registration isFound => ?_) lasting
  · exact .of_through within fun holds => holds.2.marksNone_deployment holds.1
  · refine Bool.eq_false_iff.2 fun marked => ?_
    obtain ⟨earlier, wasFound, wasMarked⟩ := written.marksNone.exists_found isFound marked
    exact absurd wasMarked (by simp [lasting earlier wasFound])

/-- The pass on a registration on its way out has no deployment left to mark. -/
theorem list_reconcile_of_marked (orderly : world.store.IsOrderly)
    (derived : world.store.HandsDown .registration .deployment registrationLabel)
    (isFound : world.store.find? .registration key = some registration)
    (marked : registration.isMarked = true) :
    ((reconcile key).runOn world).2.store.list .deployment = world.store.list .deployment := by
  have present := Store.mem_list_of_find? isFound
  by_cases bare : world.store.labelled .deployment registrationLabel registration.key.text = []
  · have isHeld := orderly.unspent.isHeld_of_marked present marked
      (orderly.coherent.sound .registration registration present)
    rw [runOn_reconcile_of_bare isFound marked isHeld bare]
    exact (Store.sameBeside_supplant _ _ _).list (by decide)
  · have noneLasts : lasting world.store registration = [] := by
      refine List.eq_nil_iff_forall_not_mem.2 fun deployment isLasting => ?_
      obtain ⟨listed, unmarked⟩ := mem_lasting.1 isLasting
      have isEnding := isMarked_of_labelled orderly.coherent derived present marked listed
      exact absurd isEnding (by simp [unmarked])
    have wrote := wrote_windDown isFound marked bare rfl
    rw [noneLasts] at wrote
    rw [wrote.isLast]
    rfl

/-- Where registrations have handed their marks down, no pass on them marks a deployment. -/
theorem marksNone_deployment_reconcile (orderly : world.store.IsOrderly)
    (derived : world.store.HandsDown .registration .deployment registrationLabel)
    (key : ObjectKey) :
    Store.MarksNone .deployment world.store ((reconcile key).runOn world).2.store := by
  by_cases lasting : ∀ registration : Registration,
      world.store.find? .registration key = some registration → registration.isMarked = false
  · exact marksNone_deployment_of_lasting lasting
  · simp only [Classical.not_forall, Bool.not_eq_false] at lasting
    obtain ⟨registration, isFound, marked⟩ := lasting
    exact Store.marksNone_of_list_eq (list_reconcile_of_marked orderly derived isFound marked)

theorem exists_provided (due : IsDue world.store key registration)
    (named : registration.key.name ≠ "")
    (remains : ∀ existing : Deployment,
      world.store.find? .deployment registration.key = some existing →
        existing.isMarked = false) :
    ∃ deployment middle,
      (provideDeployment registration).runOn world = (.ok (some deployment), middle) ∧
        Store.SameBeside .deployment world.store middle.store := by
  obtain ⟨outcome, middle, ran, provides⟩ := through_provideDeployment due
  suffices given : ∃ deployment, outcome = .ok (some deployment) by
    obtain ⟨deployment, rfl⟩ := given
    exact ⟨deployment, middle, ran, provides.same⟩
  cases isThere : world.store.find? .deployment registration.key with
  | none =>
      rw [runOn_provideDeployment_of_absent isThere named] at ran
      exact ⟨_, (congrArg Prod.fst ran).symm⟩
  | some existing =>
      have lasting := remains existing isThere
      by_cases fits : existing.spec = registration.derivedSpec ∧
          existing.metadata.hasLabel registrationLabel registration.key.text = true
      · have fitting : IsFitting registration existing :=
          ⟨Store.keyText_of_find? isThere, lasting, fits.1, fits.2⟩
        rw [runOn_provideDeployment_of_fitting isThere fitting] at ran
        exact ⟨_, (congrArg Prod.fst ran).symm⟩
      · rw [runOn_provideDeployment_of_unfit isThere lasting fits] at ran
        exact ⟨_, (congrArg Prod.fst ran).symm⟩

/-- The status tells of the generation that was carried out. -/
theorem find?_of_completion (due : IsDue world.store key registration)
    (named : registration.key.name ≠ "")
    (remains : ∀ existing : Deployment,
      world.store.find? .deployment registration.key = some existing →
        existing.isMarked = false) :
    ∃ synced : Registration,
      ((completion key registration).runOn world).2.store.find? .registration key = some synced ∧
        synced.status.observedGeneration = synced.metadata.generation := by
  obtain ⟨deployment, middle, provided, same⟩ := exists_provided due named remains
  have stillDue := due.of_sameBeside same (by decide)
  rw [runOn_completion_of_provided stillDue.isFound provided]
  refine ⟨middle.store.restated registration (registration.syncedStatus deployment), ?_, rfl⟩
  exact Store.find?_restated stillDue.isFound _

/-- With no deployment on its way out, what the registration asks for is carried out at once. -/
theorem IsDue.find?_of_reconcile (due : IsDue world.store key registration)
    (reviewed : registration.key.IsReviewed)
    (remains : world.store.LacksMarks .deployment) :
    ∃ synced : Registration,
      ((reconcile key).runOn world).2.store.find? .registration key = some synced ∧
        synced.status.observedGeneration = synced.metadata.generation := by
  cases isThere : world.store.find? .tenantSpace ⟨"", registration.key.scope⟩ with
  | some space =>
      have ready : IsReady world.store key registration := ⟨due, reviewed.hasScope, space, isThere⟩
      have drawnDue : IsDue world.afterDraws.store key registration := due
      rw [ready.runOn_reconcile]
      exact find?_of_completion drawnDue reviewed.hasName fun existing found =>
        remains existing (Store.mem_list_of_find? found)
  | none =>
      let middle := world.afterDraws.commit (spaced world.store registration world.clock.next)
      have same : Store.SameBeside .tenantSpace world.store middle.store :=
        Store.sameBeside_write _ _ _
      have middleDue : IsDue middle.store key registration := due.of_sameBeside same (by decide)
      have ran : (reconcile key).runOn world = (completion key registration).runOn middle := by
        rw [due.runOn_reconcile, completion, Pass.runOn_onFailure, Pass.runOn_onFailure,
          carryOut_eq, Pass.runOn_bind,
          runOn_provideTenantSpace_of_absent reviewed.hasScope isThere]
      rw [ran]
      refine find?_of_completion middleDue reviewed.hasName fun existing found => ?_
      rw [same.find? (by decide)] at found
      exact remains existing (Store.mem_list_of_find? found)

/-- Where no deployment is on its way out, nor is one that belongs to a registration on its way out,
and that is let go. -/
theorem find?_of_marked (orderly : world.store.IsOrderly)
    (derived : world.store.HandsDown .registration .deployment registrationLabel)
    (remains : world.store.LacksMarks .deployment)
    (isFound : world.store.find? .registration key = some registration)
    (marked : registration.isMarked = true) :
    ((reconcile key).runOn world).2.store.find? .registration key = none := by
  refine find?_of_reconcile orderly.coherent orderly.unspent fun other isOther => ?_
  obtain rfl := Option.some.inj (isFound.symm.trans isOther)
  refine ⟨marked, List.eq_nil_iff_forall_not_mem.2 fun deployment listed => ?_⟩
  have isEnding := isMarked_of_labelled orderly.coherent derived
    (Store.mem_list_of_find? isFound) marked listed
  exact absurd isEnding (by simp [remains deployment (Store.mem_labelled.1 listed).1])

/-- A registration that stays is carried out by its pass, unless it was before. -/
theorem exists_seen_of_reconcile (orderly : world.store.IsOrderly)
    (remains : world.store.LacksMarks .deployment)
    (isFound : world.store.find? .registration key = some registration)
    (unmarked : registration.isMarked = false) (isHeld : registration.isHeld = true) :
    ∃ later : Registration,
      ((reconcile key).runOn world).2.store.find? .registration key = some later ∧
        later.status.observedGeneration = later.metadata.generation := by
  by_cases seen : registration.status.observedGeneration = registration.metadata.generation
  · have carriedOut : IsCarriedOut registration := ⟨unmarked, isHeld, seen⟩
    rw [carriedOut.runOn_reconcile isFound]
    exact ⟨registration, isFound, seen⟩
  · have due : IsDue world.store key registration := ⟨isFound, unmarked, isHeld, seen⟩
    exact due.find?_of_reconcile
      (orderly.reviewed registration (Store.mem_list_of_find? isFound)) remains

/-- With no deployment on its way out, the pass on a registration leaves it carried out. -/
theorem improves_of_lacksMarks (orderly : world.store.IsOrderly)
    (held : world.store.Holds .registration fun _ => True)
    (derived : world.store.HandsDown .registration .deployment registrationLabel)
    (remains : world.store.LacksMarks .deployment) (key : ObjectKey) :
    Resync.Improves .registration (fun _ registration => IsCarriedOut registration) key
      world.store ((reconcile key).runOn world).2.store where
  untouched other different := find?_reconcile_of_ne different
  spared _ _ _ carriedOut := carriedOut
  reached later present isOwn := by
    have stillHeld := stillHolds_reconcile orderly.coherent held key later present trivial
    have laterFound := Store.find?_eq_some_of_mem present isOwn
    cases isFound : world.store.find? .registration key with
    | none =>
        rw [runOn_reconcile_of_absent isFound, isFound] at laterFound
        contradiction
    | some registration =>
        cases marked : Object.isMarked registration with
        | true =>
            rw [find?_of_marked orderly derived remains isFound marked] at laterFound
            contradiction
        | false =>
            have stillUnmarked := (marksNone_reconcile key world).unmarked_of_find? isFound marked
              laterFound
            obtain ⟨synced, syncedFound, seen⟩ := exists_seen_of_reconcile orderly remains isFound
              marked (held registration (Store.mem_list_of_find? isFound) trivial)
            obtain rfl := Option.some.inj (laterFound.symm.trans syncedFound)
            exact ⟨stillUnmarked, stillHeld, seen⟩

end Registration

/-- Every registration is there to stay, and what it asks for is carried out. -/
def Store.CarriesOut (store : Store) : Prop :=
  ∀ registration ∈ store.list .registration, Registration.IsCarriedOut registration

/-- A report leaves the generations alone. -/
theorem Deployment.Report.carriesOut (written : Deployment.Report key store after)
    (carriesOut : store.CarriesOut) : after.CarriesOut := by
  cases written with
  | @reported deployment realised label _ registration isFound _ _ _ registrationFound =>
      intro later present
      have before := carriesOut registration (Store.mem_list_of_find? registrationFound)
      rcases Store.mem_list_write.1 present with rfl | ⟨wasPresent, -⟩
      · exact ⟨before.unmarked, before.isHeld, before.isSeen⟩
      · exact carriesOut later wasPresent

/-- The pass on a deployment that has handed its mark down lets it go. -/
theorem Deployment.improves_of_lacksMarks (coherent : world.store.IsCoherent)
    (made : world.store.HandsDown .deployment .tenantInstance deploymentLabel)
    (instances : world.store.LacksMarks .tenantInstance) (settings : Settings) (key : ObjectKey) :
    Resync.Improves .deployment (fun _ deployment => deployment.isMarked = false) key world.store
      ((reconcile settings key).runOn world).2.store where
  untouched other different := find?_reconcile_of_ne different
  spared _ _ _ unmarked := unmarked
  reached later present isOwn := by
    refine Bool.eq_false_iff.2 fun laterMarked => ?_
    obtain ⟨earlier, wasFound, wasMarked⟩ := (marksNone_reconcile settings key world).exists_found
      (Store.find?_eq_some_of_mem present isOwn) laterMarked
    have wasPresent := Store.mem_list_of_find? wasFound
    have gone : ((reconcile settings key).runOn world).2.store.find? .deployment key = none := by
      refine find?_of_reconcile coherent fun other isOther => ?_
      obtain rfl := Option.some.inj (wasFound.symm.trans isOther)
      refine ⟨wasMarked, ?_⟩
      cases found : world.store.instanceOf? earlier with
      | none => rfl
      | some realised =>
          have realises := Store.realises_of_instanceOf? found
          have isEnding := made earlier wasPresent wasMarked realised realises.1
            (coherent.label_eq_of_realises wasPresent realises)
          exact absurd isEnding (by simp [instances realised realises.1])
    exact absurd isOwn (Store.keyText_ne_of_find?_eq_none gone present)

namespace Resync

variable (settings : Settings) (seen : Seen)

theorem marksNone_afterRegistrations (orderly : world.store.IsOrderly)
    (derived : world.store.HandsDown .registration .deployment registrationLabel) :
    Store.MarksNone .deployment world.store (afterRegistrations world).2.store := by
  have visited := run_visitAll_induction .registration Registration.reconcile
    (fun _ now => now.store.IsOrderly ∧
      now.store.HandsDown .registration .deployment registrationLabel ∧
        Store.MarksNone .deployment world.store now.store)
    (fun key rest now ⟨nowOrderly, nowDerived, marksNone⟩ => ?_) {} world
    ⟨orderly, derived, .refl world.store⟩
  · rw [afterRegistrations]
    exact visited.2.2
  · have through := (Registration.through_reconcile key now).mono Resync.Write.registration
    exact ⟨through.isOrderly nowOrderly,
      through.preserves (fun store => store.HandsDown .registration .deployment registrationLabel)
        (fun holds written => written.handsDown holds) nowDerived,
      marksNone.trans (Registration.marksNone_deployment_reconcile nowOrderly nowDerived key)⟩

/-- After registrations, deployments still have their marks handed down. -/
theorem made_afterRegistrations (orderly : world.store.IsOrderly)
    (tended : world.store.IsTended) :
    (afterRegistrations world).2.store.HandsDown .deployment .tenantInstance deploymentLabel ∧
      (afterRegistrations world).2.store.LacksMarks .tenantInstance := by
  have same : (afterRegistrations world).2.store.list .tenantInstance =
      world.store.list .tenantInstance := (sameBut_afterRegistrations world).list (by decide)
  refine ⟨tended.made.of_marksNone (marksNone_afterRegistrations orderly tended.derived)
    fun _ _ _ ends => ends.congr same, ?_⟩
  exact (Store.marksNone_of_list_eq same).lacksMarks tended.instances

/-- From a tended store, a tick lets all deployments go that are on their way out. -/
theorem lacksMarks_tick (orderly : world.store.IsOrderly) (tended : world.store.IsTended) :
    ((tick settings seen).run world).2.store.LacksMarks .deployment := by
  have first := (through_afterRegistrations world).isOrderly orderly
  obtain ⟨made, instances⟩ := made_afterRegistrations orderly tended
  have visited := forall_visitAll
    (fun _ now => now.store.IsCoherent ∧
      now.store.HandsDown .deployment .tenantInstance deploymentLabel ∧
        now.store.LacksMarks .tenantInstance) _
    (fun key rest now ⟨coherent, made, instances⟩ =>
      ⟨(Deployment.through_reconcile settings key now).preserves
          (fun store => store.IsCoherent ∧
            store.HandsDown .deployment .tenantInstance deploymentLabel ∧
              store.LacksMarks .tenantInstance)
          (fun ⟨coherent, made, instances⟩ written => ⟨written.isCoherent coherent,
            written.handsDown made, written.lacksMarks coherent made instances⟩)
          ⟨coherent, made, instances⟩,
        Deployment.improves_of_lacksMarks coherent made instances settings key⟩)
    (afterRegistrations world).1 (afterRegistrations world).2 ⟨first.coherent, made, instances⟩
  intro deployment present
  rw [sameDeployments_tick] at present
  exact visited.2 deployment present

/-- When all registrations are carried out, the rest of the tick leaves them so. -/
theorem carriesOut_of_afterRegistrations
    (carriesOut : (afterRegistrations world).2.store.CarriesOut) :
    ((tick settings seen).run world).2.store.CarriesOut := by
  have deployments := sameBut_afterDeployments settings world
  have instances := sameBut_afterInstances settings seen world
  have targets := sameBeside_afterTargets settings seen world
  have reported : (afterReports settings seen world).2.store.CarriesOut := by
    refine (writes_afterReports settings seen world).preserves Store.CarriesOut
      (fun holds ⟨_, written⟩ => written.carriesOut holds) ?_
    intro registration present
    rw [deployments.list (by decide)] at present
    exact carriesOut registration present
  simp only [run_tick]
  intro registration present
  rw [targets.list (by decide), instances.list (by decide)] at present
  exact reported registration present

/-- Then another carries out what the registrations ask for. -/
theorem carriesOut_tick (orderly : world.store.IsOrderly) (tended : world.store.IsTended)
    (remains : world.store.LacksMarks .deployment) :
    ((tick settings seen).run world).2.store.CarriesOut := by
  refine carriesOut_of_afterRegistrations settings seen ?_
  let invariant (store : Store) : Prop := store.IsOrderly ∧
    (store.Holds .registration fun _ => True) ∧
      store.HandsDown .registration .deployment registrationLabel ∧ store.LacksMarks .deployment
  have step (key : ObjectKey) (now : World) (holds : invariant now.store) :
      invariant ((Registration.reconcile key).runOn now).2.store ∧
        Improves .registration (fun _ registration => Registration.IsCarriedOut registration) key
          now.store ((Registration.reconcile key).runOn now).2.store := by
    obtain ⟨nowOrderly, held, derived, nowRemains⟩ := holds
    have through := (Registration.through_reconcile key now).mono Resync.Write.registration
    have kept := through.preserves
      (fun store => store.IsOrderly ∧ (store.Holds .registration fun _ => True) ∧
        store.HandsDown .registration .deployment registrationLabel)
      (fun ⟨orderly, held, derived⟩ written => ⟨written.isOrderly orderly,
        written.holds orderly.coherent held, written.handsDown derived⟩)
      ⟨nowOrderly, held, derived⟩
    have stillRemains :=
      (Registration.marksNone_deployment_reconcile nowOrderly derived key).lacksMarks nowRemains
    exact ⟨⟨kept.1, kept.2.1, kept.2.2, stillRemains⟩,
      Registration.improves_of_lacksMarks nowOrderly held derived nowRemains key⟩
  have visited := forall_visitAll (fun _ now => invariant now.store) _
    (fun key rest now holds => step key now holds) {} world
    ⟨orderly, tended.registrations, tended.derived, remains⟩
  exact visited.2

end Resync

end TenantFleet
