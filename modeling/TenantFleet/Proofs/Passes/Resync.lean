import TenantFleet.Proofs.Passes.Deployment
import TenantFleet.Proofs.Passes.Registration
import TenantFleet.Proofs.Passes.StatusReport
import TenantFleet.Proofs.Passes.TenantInstance
import TenantFleet.Resync

/-!
# What a tick writes

A tick runs one pass after the other, so each of its writes is one of a pass.
When none of its passes fails, what every pass in turn achieves for its own key
has been achieved for all keys at the end.
-/

namespace TenantFleet

namespace Resync

/-- A write of the pass on some object. -/
inductive Write (store : Store) : Store → Prop
  | registration {key : ObjectKey} {after : Store}
      (written : Registration.Write key store after) : Write store after
  | deployment {key : ObjectKey} {after : Store}
      (written : Deployment.Write key store after) : Write store after
  | report {key : ObjectKey} {after : Store}
      (written : Deployment.Report key store after) : Write store after
  | tenantInstance {key : ObjectKey} {after : Store}
      (written : TenantInstance.Write key store after) : Write store after
  | target {key : ObjectKey} {after : Store}
      (written : Target.Write key store after) : Write store after

variable {α : Type} {sort : Store → Store → Prop}

theorem run_bind {β : Type} (first : StateM World α) (next : α → StateM World β) (world : World) :
    (first >>= next).run world = (next (first.run world).1).run (first.run world).2 := rfl

theorem run_visit_cons (pass : ObjectKey → Pass PassFailure α) (report : TickTally)
    (key : ObjectKey) (rest : List ObjectKey) (world : World) :
    (visit pass report (key :: rest)).run world =
      (visit pass (report.countPass ((pass key).runOn world).1) rest).run
        ((pass key).runOn world).2 := rfl

theorem through_visit {pass : ObjectKey → Pass PassFailure α}
    (allowed : ∀ key world, World.Through sort world ((pass key).runOn world).2)
    (report : TickTally) (keys : List ObjectKey) (world : World) :
    World.Through sort world ((visit pass report keys).run world).2 := by
  induction keys generalizing report world with
  | nil => exact .refl world
  | cons key rest ih =>
      rw [run_visit_cons]
      exact (allowed key world).trans (ih _ _)

theorem through_visitAll {pass : ObjectKey → Pass PassFailure α}
    (allowed : ∀ key world, World.Through sort world ((pass key).runOn world).2) (kind : Kind)
    (report : TickTally) (world : World) :
    World.Through sort world ((visitAll kind pass report).run world).2 :=
  through_visit allowed report ((world.store.list kind).map Object.key) world

theorem run_reportChanges_cons (seen current : Seen) (report : TickTally)
    (deployment : Deployment) (rest : List Deployment) (world : World) :
    (reportChanges seen current report (deployment :: rest)).run world =
      let observed := observe world.store deployment
      if seen.lookup deployment.key = some observed then
        (reportChanges seen (current ++ [(deployment.key, observed)]) report rest).run world
      else
        let ran := (Deployment.reportStatus deployment.key).runOn world
        let noted := match ran.1 with
          | .ok _ => current ++ [(deployment.key, observed)]
          | .error _ => current
        (reportChanges seen noted (report.countReport ran.1) rest).run ran.2 := by
  change StateT.run (if _ then _ else _) world = _
  by_cases known : seen.lookup deployment.key = some (observe world.store deployment)
  · simp only [if_pos known]
  · simp only [if_neg known]
    rfl

theorem through_reportChanges
    (allowed : ∀ key world, World.Through sort world ((Deployment.reportStatus key).runOn world).2)
    (seen current : Seen) (report : TickTally) (deployments : List Deployment) (world : World) :
    World.Through sort world ((reportChanges seen current report deployments).run world).2 := by
  induction deployments generalizing current report world with
  | nil => exact .refl world
  | cons deployment rest ih =>
      rw [run_reportChanges_cons]
      simp only
      split
      · exact ih _ _ _
      · exact (allowed deployment.key world).trans (ih _ _ _)

theorem failed_le_countPass (report : TickTally) (outcome : Except PassFailure α) :
    report.failed ≤ (report.countPass outcome).failed := by
  cases outcome <;> simp [TickTally.countPass]

theorem failed_le_countReport (report : TickTally) (outcome : Except PassFailure Bool) :
    report.failed ≤ (report.countReport outcome).failed := by
  rcases outcome with failure | _ | _ <;> simp [TickTally.countReport]

theorem failed_le_visit (pass : ObjectKey → Pass PassFailure α) (report : TickTally)
    (keys : List ObjectKey) (world : World) :
    report.failed ≤ ((visit pass report keys).run world).1.failed := by
  induction keys generalizing report world with
  | nil => exact Nat.le_refl _
  | cons key rest ih =>
      rw [run_visit_cons]
      exact Nat.le_trans (failed_le_countPass report _) (ih _ _)

theorem failed_le_visitAll (kind : Kind) (pass : ObjectKey → Pass PassFailure α)
    (report : TickTally) (world : World) :
    report.failed ≤ ((visitAll kind pass report).run world).1.failed :=
  failed_le_visit pass report ((world.store.list kind).map Object.key) world

theorem failed_le_reportChanges (seen current : Seen) (report : TickTally)
    (deployments : List Deployment) (world : World) :
    report.failed ≤ ((reportChanges seen current report deployments).run world).1.2.failed := by
  induction deployments generalizing current report world with
  | nil => exact Nat.le_refl _
  | cons deployment rest ih =>
      rw [run_reportChanges_cons]
      simp only
      split
      · exact ih _ _ _
      · exact Nat.le_trans (failed_le_countReport report _) (ih _ _ _)

theorem statusSynced_countPass (report : TickTally) (outcome : Except PassFailure α) :
    (report.countPass outcome).statusSynced = report.statusSynced := by
  cases outcome <;> rfl

/-- Only status reports count as such. -/
theorem statusSynced_visitAll (kind : Kind) (pass : ObjectKey → Pass PassFailure α)
    (report : TickTally) (world : World) :
    ((visitAll kind pass report).run world).1.statusSynced = report.statusSynced := by
  suffices visits : ∀ (keys : List ObjectKey) (report : TickTally) (world : World),
      ((visit pass report keys).run world).1.statusSynced = report.statusSynced from
    visits ((world.store.list kind).map Object.key) report world
  intro keys
  induction keys with
  | nil => exact fun _ _ => rfl
  | cons key rest ih =>
      intro report world
      rw [run_visit_cons, ih, statusSynced_countPass]

/-- When no pass does anything, all of them together do nothing. -/
theorem run_visitAll_of_idle {kind : Kind} {pass : ObjectKey → Pass PassFailure α} {world : World}
    (idle : ∀ object ∈ world.store.list kind, ((pass object.key).runOn world).2 = world)
    (report : TickTally) : ((visitAll kind pass report).run world).2 = world := by
  suffices visits : ∀ (keys : List ObjectKey) (report : TickTally),
      (∀ key ∈ keys, ((pass key).runOn world).2 = world) →
        ((visit pass report keys).run world).2 = world by
    refine visits ((world.store.list kind).map Object.key) report fun key keyMem => ?_
    obtain ⟨object, present, rfl⟩ := List.mem_map.1 keyMem
    exact idle object present
  intro keys
  induction keys with
  | nil => exact fun _ _ => rfl
  | cons key rest ih =>
      intro report allIdle
      rw [run_visit_cons, allIdle key List.mem_cons_self]
      exact ih _ fun other otherMem => allIdle other (List.mem_cons_of_mem key otherMem)

/-- Each pass may take its key off the keys whose turn is still to come. -/
theorem run_visit_induction (pass : ObjectKey → Pass PassFailure α)
    (property : List ObjectKey → World → Prop)
    (achieved : ∀ key rest world, property (key :: rest) world →
      property rest ((pass key).runOn world).2)
    (report : TickTally) (keys : List ObjectKey) (world : World) (atStart : property keys world) :
    property [] ((visit pass report keys).run world).2 := by
  induction keys generalizing report world with
  | nil => exact atStart
  | cons key rest ih =>
      rw [run_visit_cons]
      exact ih _ _ (achieved key rest world atStart)

/-- When no pass fails, what a pass achieves only when it succeeds is enough. -/
theorem visit_induction {pass : ObjectKey → Pass PassFailure α}
    (property : List ObjectKey → World → Prop)
    (achieved : ∀ key rest world value after, property (key :: rest) world →
      (pass key).runOn world = (.ok value, after) → property rest after)
    (report : TickTally) (keys : List ObjectKey) (world : World)
    (faultless : ((visit pass report keys).run world).1.failed = 0)
    (atStart : property keys world) : property [] ((visit pass report keys).run world).2 := by
  induction keys generalizing report world with
  | nil => exact atStart
  | cons key rest ih =>
      rw [run_visit_cons] at faultless ⊢
      cases ran : (pass key).runOn world with
      | mk outcome after =>
          rw [ran] at faultless
          cases outcome with
          | ok value => exact ih _ _ faultless (achieved key rest world value after atStart ran)
          | error failure =>
              have counted : report.failed + 1 ≤ 0 := by
                rw [← faultless]
                exact failed_le_visit pass { report with failed := report.failed + 1 } rest after
              omega

theorem run_visitAll_induction (kind : Kind) (pass : ObjectKey → Pass PassFailure α)
    (property : List ObjectKey → World → Prop)
    (achieved : ∀ key rest world, property (key :: rest) world →
      property rest ((pass key).runOn world).2)
    (report : TickTally) (world : World)
    (atStart : property ((world.store.list kind).map Object.key) world) :
    property [] ((visitAll kind pass report).run world).2 :=
  run_visit_induction pass property achieved report _ world atStart

/-- The object under `key`, if it is still there, is as wanted afterwards; the others of its kind
are the same, and none of them has ceased to be as wanted. -/
structure Improves (kind : Kind) (wanted : Store → Object kind → Prop) (key : ObjectKey)
    (before after : Store) : Prop where
  reached : ∀ object ∈ after.list kind, object.keyText = key.text → wanted after object
  untouched : ∀ other : ObjectKey, key.text ≠ other.text →
    after.find? kind other = before.find? kind other
  spared : ∀ object ∈ before.list kind, object.keyText ≠ key.text →
    wanted before object → wanted after object

/-- When each pass improves on its own object, all objects are as wanted in the end. -/
theorem forall_visitAll {kind : Kind} {pass : ObjectKey → Pass PassFailure α}
    (invariant : List ObjectKey → World → Prop) (wanted : Store → Object kind → Prop)
    (improves : ∀ key rest world, invariant (key :: rest) world →
      invariant rest ((pass key).runOn world).2 ∧
        Improves kind wanted key world.store ((pass key).runOn world).2.store)
    (report : TickTally) (world : World)
    (atStart : invariant ((world.store.list kind).map Object.key) world) :
    let last := ((visitAll kind pass report).run world).2
    invariant [] last ∧ ∀ object ∈ last.store.list kind, wanted last.store object := by
  -- what is not as wanted is under a key whose turn is still to come
  have visited := run_visitAll_induction kind pass
    (fun pending now => invariant pending now ∧ ∀ object ∈ now.store.list kind,
      wanted now.store object ∨ ∃ key ∈ pending, object.keyText = key.text)
    (fun key rest now holds => ?_) report world
    ⟨atStart, fun object present => .inr ⟨object.key, List.mem_map_of_mem present, rfl⟩⟩
  · exact ⟨visited.1, fun object present => (visited.2 object present).resolve_right
      fun ⟨key, keyMem, _⟩ => List.not_mem_nil keyMem⟩
  · obtain ⟨kept, improved⟩ := improves key rest now holds.1
    refine ⟨kept, fun object present => ?_⟩
    by_cases isOwn : object.keyText = key.text
    · exact .inl (improved.reached object present isOwn)
    · have same := improved.untouched object.key (Ne.symm isOwn)
      have wasPresent := Store.mem_list_of_find? (same ▸ Store.find?_key_of_mem present)
      rcases holds.2 object wasPresent with wanted | ⟨owner, ownerMem, sameText⟩
      · exact .inl (improved.spared object wasPresent isOwn wanted)
      · rcases List.mem_cons.1 ownerMem with rfl | inRest
        · exact absurd sameText isOwn
        · exact .inr ⟨owner, inRest, sameText⟩

theorem visitAll_induction {pass : ObjectKey → Pass PassFailure α}
    (property : List ObjectKey → World → Prop)
    (achieved : ∀ key rest world value after, property (key :: rest) world →
      (pass key).runOn world = (.ok value, after) → property rest after)
    (kind : Kind) (report : TickTally) (world : World)
    (faultless : ((visitAll kind pass report).run world).1.failed = 0)
    (atStart : property ((world.store.list kind).map Object.key) world) :
    property [] ((visitAll kind pass report).run world).2 :=
  visit_induction property achieved report _ world faultless atStart

section Phases

variable (settings : Settings) (seen : Seen) (world : World)

/-- What the registrations have come to in a tick. -/
def afterRegistrations : TickTally × World :=
  (visitAll .registration Registration.reconcile {}).run world

/-- What the deployments have come to after them. -/
def afterDeployments : TickTally × World :=
  (visitAll .deployment (Deployment.reconcile settings) (afterRegistrations world).1).run
    (afterRegistrations world).2

/-- What the status reports have come to after them. -/
def afterReports : (Seen × TickTally) × World :=
  (reportChanges seen [] (afterDeployments settings world).1
    ((afterDeployments settings world).2.store.list .deployment)).run
      (afterDeployments settings world).2

/-- What the instances have come to after them. -/
def afterInstances : TickTally × World :=
  (visitAll .tenantInstance (TenantInstance.reconcile settings)
    (afterReports settings seen world).1.2).run (afterReports settings seen world).2

/-- What the targets have come to at last. -/
def afterTargets : TickTally × World :=
  (visitAll .target (reconcileTarget settings) (afterInstances settings seen world).1).run
    (afterInstances settings seen world).2

theorem run_tick :
    (tick settings seen).run world =
      (((afterTargets settings seen world).1, (afterReports settings seen world).1.1),
        (afterTargets settings seen world).2) := by
  unfold tick
  simp only [run_bind]
  rfl

theorem writes_afterRegistrations :
    World.Through (fun before after => ∃ key, Registration.Write key before after) world
      (afterRegistrations world).2 := by
  rw [afterRegistrations]
  exact through_visitAll
    (fun key world => (Registration.through_reconcile key world).mono fun written => ⟨key, written⟩)
    _ _ _

theorem writes_afterDeployments :
    World.Through (fun before after => ∃ key, Deployment.Write key before after)
      (afterRegistrations world).2 (afterDeployments settings world).2 := by
  rw [afterDeployments]
  exact through_visitAll
    (fun key world => (Deployment.through_reconcile settings key world).mono
      fun written => ⟨key, written⟩) _ _ _

theorem writes_afterReports :
    World.Through (fun before after => ∃ key, Deployment.Report key before after)
      (afterDeployments settings world).2 (afterReports settings seen world).2 := by
  rw [afterReports]
  exact through_reportChanges
    (fun key world => (Deployment.through_reportStatus key world).mono
      fun written => ⟨key, written⟩) _ _ _ _ _

theorem writes_afterInstances :
    World.Through (fun before after => ∃ key, TenantInstance.Write key before after)
      (afterReports settings seen world).2 (afterInstances settings seen world).2 := by
  rw [afterInstances]
  exact through_visitAll
    (fun key world => (TenantInstance.through_reconcile settings key world).mono
      fun written => ⟨key, written⟩) _ _ _

theorem writes_afterTargets :
    World.Through (fun before after => ∃ key, Target.Write key before after)
      (afterInstances settings seen world).2 (afterTargets settings seen world).2 := by
  rw [afterTargets]
  exact through_visitAll
    (fun key world => (Target.through_reconcile settings key world).mono
      fun written => ⟨key, written⟩) _ _ _

theorem through_afterRegistrations :
    World.Through Write world (afterRegistrations world).2 :=
  (writes_afterRegistrations world).mono fun ⟨_, written⟩ => .registration written

theorem through_afterDeployments :
    World.Through Write (afterRegistrations world).2 (afterDeployments settings world).2 :=
  (writes_afterDeployments settings world).mono fun ⟨_, written⟩ => .deployment written

theorem through_afterReports :
    World.Through Write (afterDeployments settings world).2
      (afterReports settings seen world).2 :=
  (writes_afterReports settings seen world).mono fun ⟨_, written⟩ => .report written

theorem through_afterInstances :
    World.Through Write (afterReports settings seen world).2
      (afterInstances settings seen world).2 :=
  (writes_afterInstances settings seen world).mono fun ⟨_, written⟩ => .tenantInstance written

theorem through_afterTargets :
    World.Through Write (afterInstances settings seen world).2
      (afterTargets settings seen world).2 :=
  (writes_afterTargets settings seen world).mono fun ⟨_, written⟩ => .target written

theorem through_tick : World.Through Write world ((tick settings seen).run world).2 := by
  have toDeployments := (through_afterRegistrations world).trans
    (through_afterDeployments settings world)
  have toReports := toDeployments.trans (through_afterReports settings seen world)
  have toInstances := toReports.trans (through_afterInstances settings seen world)
  simp only [run_tick]
  exact toInstances.trans (through_afterTargets settings seen world)

theorem sameBut_afterRegistrations :
    Store.SameBut [.tenantSpace, .deployment, .registration] world.store
      (afterRegistrations world).2.store :=
  (writes_afterRegistrations world).preserves (Store.SameBut _ world.store)
    (fun same ⟨_, written⟩ => same.trans written.sameBut) (.refl world.store)

theorem sameBut_afterDeployments :
    Store.SameBut [.deployment, .tenantInstance, .target] (afterRegistrations world).2.store
      (afterDeployments settings world).2.store :=
  (writes_afterDeployments settings world).preserves (Store.SameBut _ _)
    (fun same ⟨_, written⟩ => same.trans written.sameBut) (.refl _)

theorem sameBeside_afterReports :
    Store.SameBeside .registration (afterDeployments settings world).2.store
      (afterReports settings seen world).2.store :=
  (writes_afterReports settings seen world).preserves (Store.SameBeside _ _)
    (fun same ⟨_, written⟩ => same.trans written.sameBeside) (.refl _)

theorem sameBut_afterInstances :
    Store.SameBut [.tenantInstance, .target] (afterReports settings seen world).2.store
      (afterInstances settings seen world).2.store :=
  (writes_afterInstances settings seen world).preserves (Store.SameBut _ _)
    (fun same ⟨_, written⟩ => same.trans written.sameBut) (.refl _)

theorem sameBeside_afterTargets :
    Store.SameBeside .target (afterInstances settings seen world).2.store
      (afterTargets settings seen world).2.store :=
  (writes_afterTargets settings seen world).preserves (Store.SameBeside _ _)
    (fun same ⟨_, written⟩ => same.trans written.sameBeside) (.refl _)

/-- Deployments are not touched once their own passes have run. -/
theorem sameDeployments_tick :
    ((tick settings seen).run world).2.store.list .deployment =
      (afterDeployments settings world).2.store.list .deployment := by
  have reports := sameBeside_afterReports settings seen world
  have instances := sameBut_afterInstances settings seen world
  have targets := sameBeside_afterTargets settings seen world
  simp only [run_tick]
  exact (targets.list (by decide)).trans
    ((instances.list (by decide)).trans (reports.list (by decide)))

/-- The passes before the reports, and those after them, count no report. -/
theorem statusSynced_tick :
    (afterDeployments settings world).1.statusSynced = 0 ∧
      ((tick settings seen).run world).1.1.statusSynced =
        (afterReports settings seen world).1.2.statusSynced := by
  simp only [run_tick]
  constructor
  · rw [afterDeployments, statusSynced_visitAll, afterRegistrations, statusSynced_visitAll]
  · rw [afterTargets, statusSynced_visitAll, afterInstances, statusSynced_visitAll]

/-- A tick whose tally has no failure had none in any of its parts. -/
theorem failed_phases (faultless : ((tick settings seen).run world).1.1.failed = 0) :
    (afterDeployments settings world).1.failed = 0 ∧
      (afterInstances settings seen world).1.failed = 0 ∧
        (afterTargets settings seen world).1.failed = 0 := by
  simp only [run_tick] at faultless
  have instances : (afterInstances settings seen world).1.failed ≤
      (afterTargets settings seen world).1.failed := by
    rw [afterTargets]
    exact failed_le_visitAll _ _ _ _
  have reports : (afterReports settings seen world).1.2.failed ≤
      (afterInstances settings seen world).1.failed := by
    rw [afterInstances]
    exact failed_le_visitAll _ _ _ _
  have deployments : (afterDeployments settings world).1.failed ≤
      (afterReports settings seen world).1.2.failed := by
    rw [afterReports]
    exact failed_le_reportChanges _ _ _ _ _
  omega

end Phases

end Resync

end TenantFleet
