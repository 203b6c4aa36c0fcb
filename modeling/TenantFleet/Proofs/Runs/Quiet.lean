import TenantFleet.Proofs.Quiet.Departures
import TenantFleet.Proofs.Quiet.Memory
import TenantFleet.Proofs.Quiet.Undisturbed

/-!
# An undisturbed store becomes quiet

Of four ticks the first has all marks handed down, the second lets go what is on
its way out, the third carries out what the registrations ask for, and the
fourth brings the deployments to rest.  From then on a tick has nothing to do
and nothing to report.
-/

namespace TenantFleet

variable {world : World} {settings : Settings} {seen : Seen}

/-- All deployments are at rest. -/
def Store.RestsAll (settings : Settings) (store : Store) : Prop :=
  ∀ deployment ∈ store.list .deployment, Deployment.IsAtRest settings store deployment

theorem Store.RestsAll.of_undisturbed {before after : Store} (atRest : before.RestsAll settings)
    (coherent : before.IsCoherent) (coherentAfter : after.IsCoherent)
    (sameDeployments : after.list .deployment = before.list .deployment)
    (undisturbed : ∀ key, before.Undisturbed key after) : after.RestsAll settings := by
  intro deployment present
  rw [sameDeployments] at present
  exact (atRest deployment present).of_undisturbed coherent coherentAfter (undisturbed _)

/-- Nothing is left to be done. -/
structure Store.IsQuiet (settings : Settings) (store : Store) : Prop where
  coherent : store.IsCoherent
  registrations : store.CarriesOut
  deployments : store.RestsAll settings
  instances : store.LacksMarks .tenantInstance
  targets : store.Publishes []

/-- Whether the pass on the deployment finds free what it draws, an id and a suffix, if it draws
them at all. -/
def Deployment.findsFree (settings : Settings) (key : ObjectKey) (world : World) : Bool :=
  match ((reconcile settings key).runOn world).1 with
  | .ok _ => true
  | .error failure => !failure.isExhaustion

namespace Resync

/-- Whether the passes on the deployments under the keys do, one after the other. -/
def allFindFree (settings : Settings) : List ObjectKey → World → Bool
  | [], _ => true
  | key :: rest, world =>
      Deployment.findsFree settings key world &&
        allFindFree settings rest ((Deployment.reconcile settings key).runOn world).2

/-- Whether a tick finds free all that it draws; only its passes on deployments draw any. -/
def findsFree (settings : Settings) (world : World) : Bool :=
  let ready := (afterRegistrations world).2
  allFindFree settings ((ready.store.list .deployment).map Object.key) ready

/-- The memory has every deployment. -/
def RemembersAll (seen : Seen) (store : Store) : Prop :=
  ∀ deployment ∈ store.list .deployment, Remembers seen store deployment

theorem afterRegistrations_of_carriesOut (carriesOut : world.store.CarriesOut) :
    (afterRegistrations world).2 = world := by
  rw [afterRegistrations]
  refine run_visitAll_of_idle (fun registration present => ?_) {}
  rw [(carriesOut registration present).runOn_reconcile (Store.find?_key_of_mem present)]

theorem afterInstances_of_lacksMarks
    (coherent : (afterReports settings seen world).2.store.IsCoherent)
    (unmarked : (afterReports settings seen world).2.store.LacksMarks .tenantInstance) :
    (afterInstances settings seen world).2 = (afterReports settings seen world).2 := by
  rw [afterInstances]
  refine run_visitAll_of_idle (fun realised present => ?_) _
  rw [TenantInstance.runOn_reconcile_of_lasting (Store.find?_key_of_mem present)
    (unmarked realised present) (coherent.sound_instance present).isHeld]

theorem afterTargets_of_publishes
    (publishes : (afterInstances settings seen world).2.store.Publishes []) :
    (afterTargets settings seen world).2 = (afterInstances settings seen world).2 := by
  rw [afterTargets]
  refine run_visitAll_of_idle (fun target present => ?_) _
  have published : target.status.capacity = some (Target.placesLeft target) := by
    refine (publishes target present).resolve_right ?_
    rintro ⟨key, isNil, -⟩
    exact List.not_mem_nil isNil
  unfold reconcileTarget
  rw [TargetChange.runOn_idle (Store.find?_key_of_mem present)
    (by rw [TargetChange.apply_publishing, if_pos published])]

theorem remembers_afterReports (settings : Settings) (seen : Seen) (world : World) :
    RemembersAll (afterReports settings seen world).1.1
      (afterDeployments settings world).2.store := by
  rw [afterReports]
  exact (remembers_reportChanges (fun _ present => present) (Store.nodup_keys _ .deployment) [] _
    fun _ _ => rfl).2

/-- In a quiet store a tick that remembers everything writes nothing, and remembers everything. -/
theorem run_tick_of_quiet (quiet : world.store.IsQuiet settings)
    (remembered : RemembersAll seen world.store) :
    let ran := (tick settings seen).run world
    ran.2 = world ∧ ran.1.1.statusSynced = 0 ∧ RemembersAll ran.1.2 world.store := by
  have registrations := afterRegistrations_of_carriesOut quiet.registrations
  have deployments : (afterDeployments settings world).2 = world := by
    rw [afterDeployments, registrations]
    exact run_visitAll_of_idle
      (fun deployment present => (quiet.deployments deployment present).runOn_reconcile) _
  have reported := run_reportChanges_of_remembered
    (fun deployment present => ⟨present, remembered deployment present⟩) []
    (afterDeployments settings world).1
  have reports : (afterReports settings seen world).2 = world := by
    rw [afterReports, deployments]
    exact reported.1
  have instances : (afterInstances settings seen world).2 = world := by
    rw [← reports] at quiet
    exact (afterInstances_of_lacksMarks quiet.coherent quiet.instances).trans reports
  have targets : (afterTargets settings seen world).2 = world :=
    (afterTargets_of_publishes (by rw [instances]; exact quiet.targets)).trans instances
  obtain ⟨noneBefore, noneAfter⟩ := statusSynced_tick settings seen world
  have counted : (afterReports settings seen world).1.2.statusSynced = 0 := by
    rw [afterReports, deployments]
    exact reported.2.trans noneBefore
  have remembers := remembers_afterReports settings seen world
  rw [deployments] at remembers
  simp only [run_tick] at noneAfter ⊢
  exact ⟨targets, noneAfter.trans counted, remembers⟩

theorem run_ticks_of_quiet (quiet : world.store.IsQuiet settings)
    (remembered : RemembersAll seen world.store) (count : Nat) :
    ((ticks settings count seen).run world).2 = world ∧
      RemembersAll ((ticks settings count seen).run world).1 world.store := by
  induction count generalizing seen with
  | zero => exact ⟨rfl, remembered⟩
  | succ count ih =>
      obtain ⟨same, -, stillRemembered⟩ := run_tick_of_quiet quiet remembered
      rw [run_ticks_succ, same]
      exact ih stillRemembered

end Resync

/-- The deployments and the instances are there to stay. -/
structure Store.IsLasting (store : Store) : Prop where
  coherent : store.IsCoherent
  held : store.Holds .deployment fun _ => True
  deployments : store.LacksMarks .deployment
  instances : store.LacksMarks .tenantInstance

namespace Deployment

variable {store after : Store} {key : ObjectKey}

theorem Write.isLasting (written : Deployment.Write key store after)
    (lasting : store.IsLasting) : after.IsLasting where
  coherent := written.isCoherent lasting.coherent
  held := written.holds lasting.coherent lasting.held
  deployments := written.marksNone.lacksMarks lasting.deployments
  instances := by
    refine written.lacksMarks lasting.coherent (fun owner present marked => ?_) lasting.instances
    exact absurd marked (by simp [lasting.deployments owner present])

/-- Where all are there to stay, the pass brings its deployment to rest and leaves the others so. -/
theorem improves_of_findsFree (lasting : world.store.IsLasting)
    (free : findsFree settings key world = true) :
    Resync.Improves .deployment (IsAtRest settings) key world.store
      ((reconcile settings key).runOn world).2.store where
  untouched other different := find?_reconcile_of_ne different
  spared deployment present apart atRest := by
    refine ((through_reconcile settings key world).preserves
      (fun store => store.IsCoherent ∧ IsAtRest settings store deployment)
      (fun ⟨coherent, atRest⟩ written => ?_) ⟨lasting.coherent, atRest⟩).2
    have coherentAfter := written.isCoherent coherent
    exact ⟨coherentAfter, atRest.of_undisturbed coherent coherentAfter
      (written.undisturbed coherent (Ne.symm apart))⟩
  reached later present isOwn := by
    have laterFound := Store.find?_eq_some_of_mem present isOwn
    cases isFound : world.store.find? .deployment key with
    | none =>
        rw [runOn_reconcile_of_absent isFound, isFound] at laterFound
        contradiction
    | some deployment =>
        have isStored := Store.mem_list_of_find? isFound
        obtain ⟨last, lastFound, atRest⟩ := rests_of_reconcile settings lasting.coherent isFound
          (lasting.deployments deployment isStored) (lasting.held deployment isStored trivial)
          lasting.instances fun failure failed => by simpa [findsFree, failed] using free
        obtain rfl := Option.some.inj (laterFound.symm.trans lastFound)
        exact atRest

end Deployment

namespace Resync

theorem atRest_afterDeployments (lasting : (afterRegistrations world).2.store.IsLasting)
    (free : findsFree settings world = true) :
    (afterDeployments settings world).2.store.IsLasting ∧
      (afterDeployments settings world).2.store.RestsAll settings := by
  have visited := forall_visitAll
    (fun pending now => now.store.IsLasting ∧ allFindFree settings pending now = true) _
    (fun key rest now ⟨nowLasting, nowFree⟩ => by
      obtain ⟨isFree, restFree⟩ := Bool.and_eq_true_iff.1 nowFree
      exact ⟨⟨(Deployment.through_reconcile settings key now).preserves Store.IsLasting
        (fun holds written => written.isLasting holds) nowLasting, restFree⟩,
        Deployment.improves_of_findsFree nowLasting isFree⟩)
    (afterRegistrations world).1 (afterRegistrations world).2 ⟨lasting, free⟩
  rw [afterDeployments]
  exact ⟨visited.1.1, visited.2⟩

/-- Neither the reports nor the passes on instances and targets take the deployments from rest. -/
theorem atRest_afterTargets (seen : Seen)
    (lasting : (afterDeployments settings world).2.store.IsLasting)
    (atRest : (afterDeployments settings world).2.store.RestsAll settings) :
    (afterInstances settings seen world).2 = (afterReports settings seen world).2 ∧
      (afterTargets settings seen world).2.store.RestsAll settings := by
  have coherent := (through_afterReports settings seen world).isCoherent lasting.coherent
  have reports := sameBeside_afterReports settings seen world
  have unmarked : (afterReports settings seen world).2.store.LacksMarks .tenantInstance :=
    (Store.marksNone_of_list_eq (reports.list (by decide))).lacksMarks lasting.instances
  have instances := afterInstances_of_lacksMarks coherent unmarked
  have stillAtRest : (afterReports settings seen world).2.store.RestsAll settings :=
    atRest.of_undisturbed lasting.coherent coherent (reports.list (by decide))
      fun _ => .of_sameBut (reports.sameBut (by decide))
  refine ⟨instances, ?_⟩
  rw [← instances] at coherent stillAtRest
  refine ((writes_afterTargets settings seen world).preserves
    (fun store => store.IsCoherent ∧ store.RestsAll settings)
    (fun ⟨coherent, atRest⟩ ⟨key, written⟩ => ?_) ⟨coherent, stillAtRest⟩).2
  have coherentAfter := written.isCoherent coherent
  exact ⟨coherentAfter, atRest.of_undisturbed coherent coherentAfter
    (written.sameBeside.list (by decide)) fun _ => written.undisturbed⟩

/-- When all that is left is to realise the deployments, a tick leaves the store quiet and
remembers everything. -/
theorem isQuiet_tick (seen : Seen) (lasting : world.store.IsLasting)
    (carriesOut : world.store.CarriesOut) (free : findsFree settings world = true) :
    let ran := (tick settings seen).run world
    ran.2.store.IsQuiet settings ∧ RemembersAll ran.1.2 ran.2.store := by
  have registrations := afterRegistrations_of_carriesOut carriesOut
  rw [← registrations] at lasting carriesOut
  obtain ⟨stillLasting, atRest⟩ := atRest_afterDeployments lasting free
  obtain ⟨instances, stillAtRest⟩ := atRest_afterTargets seen stillLasting atRest
  have coherent := (through_tick settings seen world).isCoherent
    (registrations ▸ lasting.coherent)
  have allCarriedOut := carriesOut_of_afterRegistrations settings seen carriesOut
  have publishes := publishes_of_tick settings seen world
  have remembers := remembers_afterReports settings seen world
  have reports := sameBeside_afterReports settings seen world
  have targets := sameBeside_afterTargets settings seen world
  have sameDeployments := sameDeployments_tick settings seen world
  simp only [run_tick] at coherent allCarriedOut publishes sameDeployments ⊢
  rw [instances] at targets
  refine ⟨⟨coherent, allCarriedOut, stillAtRest, ?_, publishes⟩, ?_⟩
  · refine (Store.marksNone_of_list_eq ?_).lacksMarks stillLasting.instances
    exact (targets.list (by decide)).trans (reports.list (by decide))
  · intro deployment present
    rw [sameDeployments] at present
    exact (remembers deployment present).congr fun key =>
      (targets.find? (by decide) key).trans (reports.find? (by decide) key)

/-- Four ticks make an orderly store quiet, and it stays so. -/
theorem isQuiet_ticks (seen : Seen) (orderly : world.store.IsOrderly)
    (free : findsFree settings ((ticks settings 3 seen).run world).2 = true) (later : Nat) :
    let ran := (ticks settings (4 + later) seen).run world
    ran.2.store.IsQuiet settings ∧ RemembersAll ran.1 ran.2.store := by
  have first := (through_tick settings seen world).isOrderly orderly
  have tended := isTended_tick settings seen orderly
  rw [run_ticks_succ] at free
  have sum : 4 + later = later + 1 + 1 + 1 + 1 := by omega
  rw [sum, run_ticks_succ]
  generalize (tick settings seen).run world = one at first tended free ⊢
  have second := (through_tick settings one.1.2 one.2).isOrderly first
  have stillTended := isTended_tick settings one.1.2 first
  have remains := lacksMarks_tick settings one.1.2 first tended
  rw [run_ticks_succ] at free ⊢
  generalize (tick settings one.1.2).run one.2 = two at second stillTended remains free ⊢
  have third := (through_tick settings two.1.2 two.2).isOrderly second
  have tendedLast := isTended_tick settings two.1.2 second
  have lasting : ((tick settings two.1.2).run two.2).2.store.IsLasting :=
    ⟨third.coherent, tendedLast.deployments, lacksMarks_tick settings two.1.2 second stillTended,
      tendedLast.instances⟩
  have carriesOut := carriesOut_tick settings two.1.2 second stillTended remains
  rw [run_ticks_succ] at free ⊢
  generalize (tick settings two.1.2).run two.2 = three at lasting carriesOut free ⊢
  have quiet := isQuiet_tick three.1.2 lasting carriesOut free
  rw [run_ticks_succ]
  generalize (tick settings three.1.2).run three.2 = four at quiet ⊢
  obtain ⟨same, remembered⟩ := run_ticks_of_quiet quiet.1 quiet.2 later
  simp only [same]
  exact ⟨quiet.1, remembered⟩

end Resync

theorem Action.IsOrdinary.namesRegistrations {action : Action} (ordinary : action.IsOrdinary) :
    action.NamesRegistrations := by
  cases action with
  | apply manifest =>
      cases manifest with
      | registration object => exact ordinary.header.named
      | tenantSpace | target | deployment | scheduling => trivial
  | _ => trivial

namespace World

theorem Reachable.isOrderly_of_passed {origin : World} (reached : origin.Reachable)
    {store : Store} (passed : origin.Passed store) : store.IsOrderly := by
  have reviewed := reached.invariant Store.reviewsRegistrations_empty
    fun ordinary written reviewed => written.reviewsRegistrations reviewed
      (Action.IsOrdinary.namesRegistrations ordinary)
  refine ⟨reached.isCoherent_of_passed passed, reached.isUnspent_of_passed passed, ?_⟩
  rcases passed with rfl | noted
  · exact reviewed.1
  · exact reviewed.2 store noted

/-- In any state of a run, let ticks follow each other undisturbed: if the fourth finds free the
ids and the suffixes that it draws, no later one writes anything or counts a status report. -/
theorem undisturbed_store_becomes_quiet {origin world : World} (reached : origin.Reachable)
    (passed : origin.Passed world.store) (settings : Settings) (seen : Seen)
    (free : Resync.findsFree settings ((Resync.ticks settings 3 seen).run world).2 = true)
    (later : Nat) :
    let ran := (Resync.ticks settings (4 + later) seen).run world
    let next := (Resync.tick settings ran.1).run ran.2
    next.2 = ran.2 ∧ next.1.1.statusSynced = 0 := by
  have quiet := Resync.isQuiet_ticks seen (reached.isOrderly_of_passed passed) free later
  generalize (Resync.ticks settings (4 + later) seen).run world = ran at quiet ⊢
  obtain ⟨same, silent, -⟩ := Resync.run_tick_of_quiet quiet.1 quiet.2
  exact ⟨same, silent⟩

/-- The only target goes when it hosts an instance, and a deployment comes for which there is none
left. -/
def unhosted : List Action :=
  [.tick {} [], .delete .target ⟨"fleet", "east"⟩,
    .apply (.deployment
      { metadata := { name := "late", scope := "tenant01" }
        spec := { tenantId := "tenant01", purpose := "demo" }
        status := {} })]

/-- Four ticks later one deployment tells that there is no target for it, the other that its own is
missing, and the next tick has nothing to write. -/
theorem undisturbed_store_becomes_quiet_once_unhosted :
    let world := unhosted.foldl Action.perform onboarded
    let ran := (Resync.ticks {} 4 []).run world
    let next := (Resync.tick {} ran.1).run ran.2
    ((ran.2.store.list .deployment).map fun deployment =>
      deployment.status.lastError.map FailureRecord.reason) =
        [some "FindTarget", some "GetTarget"] ∧
      next.2 = ran.2 ∧ next.1.1.statusSynced = 0 := by
  intro world
  have ordinary : ∀ action ∈ unhosted, action.IsOrdinary := by
    intro action actionMem
    simp only [unhosted, List.mem_cons, List.not_mem_nil, or_false] at actionMem
    rcases actionMem with rfl | rfl | rfl
    · trivial
    · trivial
    · exact ⟨⟨by decide, by decide, rfl, rfl, by decide⟩, rfl⟩
  have reached : world.Reachable := reachable_onboarded.perform_all unhosted ordinary
  have free : Resync.findsFree {} ((Resync.ticks {} 3 []).run world).2 = true := by
    decide +kernel
  have told : ((((Resync.ticks {} 4 []).run world).2.store.list .deployment).map
      fun deployment => (DeploymentStatus.lastError deployment.status).map FailureRecord.reason) =
        [some "FindTarget", some "GetTarget"] := by
    decide +kernel
  have quiet := undisturbed_store_becomes_quiet reached (.inl rfl) {} [] free 0
  rw [Nat.add_zero] at quiet
  generalize (Resync.ticks {} 4 []).run world = ran at told quiet ⊢
  exact ⟨told, quiet⟩

end World

end TenantFleet
