import TenantFleet.Proofs.Ledger.Clearing
import TenantFleet.Proofs.Runs.Reachable

/-!
# The ledger after a tick

The lists of the targets are a ledger of where instances are.  A tick without
failures leaves it exact: the passes on deployments settle all instances, those
on instances clear away the marked ones, and those on targets publish what is
left.
-/

namespace TenantFleet

namespace Store

/-- The instances that were made for a target. -/
def instancesOn (store : Store) (targetKey : ObjectKey) : List TenantInstance :=
  (store.list .tenantInstance).filter fun realised => realised.spec.targetKey = targetKey

end Store

theorem World.Through.isCoherent {before after : World}
    (through : World.Through Resync.Write before after) (coherent : before.store.IsCoherent) :
    after.store.IsCoherent :=
  through.preserves Store.IsCoherent (fun holds written => written.isCoherent holds) coherent

theorem Deployment.Report.awaits {key : ObjectKey} {store after : Store}
    (written : Deployment.Report key store after) {pending : List ObjectKey}
    (awaits : store.Awaits pending) : after.Awaits pending := by
  cases written with
  | reported isFound named labelled spelled registrationFound =>
      exact awaits.congr (Store.sameBeside_write _ _ _) (by decide) (by decide)

namespace Resync

variable {settings : Settings} {seen : Seen} {world : World}

/-- A pass on a deployment that succeeds leaves one deployment less to wait for. -/
theorem awaits_of_reconcile {key : ObjectKey} {rest : List ObjectKey} {last : World}
    {outcome : Outcome} (coherent : world.store.IsCoherent)
    (awaits : world.store.Awaits (key :: rest))
    (ran : (Deployment.reconcile settings key).runOn world = (.ok outcome, last)) :
    last.store.IsCoherent ∧ last.store.Awaits rest := by
  have through := Deployment.through_reconcile settings key world
  rw [ran] at through
  have kept := through.preserves
    (fun store => store.IsCoherent ∧ store.Awaits (key :: rest))
    (fun holds written => ⟨written.isCoherent holds.1,
      written.awaits holds.1 List.mem_cons_self holds.2⟩) ⟨coherent, awaits⟩
  exact ⟨kept.1, kept.2.tail (Deployment.attends_of_reconcile coherent kept.1 ran)⟩

theorem awaits_visitAll {report : TickTally} (coherent : world.store.IsCoherent)
    (faultless : ((visitAll .deployment (Deployment.reconcile settings) report).run
      world).1.failed = 0) :
    ((visitAll .deployment (Deployment.reconcile settings) report).run
      world).2.store.Awaits [] := by
  have achieved := visitAll_induction
    (fun pending world => world.store.IsCoherent ∧ world.store.Awaits pending)
    (fun _ _ _ _ _ holds ran => awaits_of_reconcile holds.1 holds.2 ran)
    .deployment report world faultless
  refine (achieved ⟨coherent, fun realised present => ?_⟩).2
  obtain ⟨owner, isStored, labelled, -⟩ := coherent.exists_owner present
  exact .inr ⟨owner.key, List.mem_map_of_mem isStored, labelled⟩

theorem awaits_reportChanges {current : Seen} {report : TickTally} {deployments : List Deployment}
    (awaits : world.store.Awaits []) :
    ((reportChanges seen current report deployments).run world).2.store.Awaits [] := by
  have through : World.Through (fun before after => ∃ key, Deployment.Report key before after)
      world ((reportChanges seen current report deployments).run world).2 :=
    through_reportChanges
      (fun key world => (Deployment.through_reportStatus key world).mono fun written =>
        ⟨key, written⟩) _ _ _ _ _
  exact through.preserves (fun store => store.Awaits [])
    (fun holds written => written.elim fun key report => report.awaits holds) awaits

/-- A pass on an instance that succeeds leaves one instance less to clear away. -/
theorem clears_of_reconcile {key : ObjectKey} {rest : List ObjectKey} {last : World}
    {outcome : Outcome} (coherent : world.store.IsCoherent)
    (clears : world.store.Clears (key :: rest))
    (ran : (TenantInstance.reconcile settings key).runOn world = (.ok outcome, last)) :
    last.store.IsCoherent ∧ last.store.Clears rest := by
  have through := TenantInstance.through_reconcile settings key world
  rw [ran] at through
  have kept := through.preserves
    (fun store => store.IsCoherent ∧ store.Clears (key :: rest))
    (fun holds written => ⟨written.isCoherent holds.1,
      written.clears holds.1 List.mem_cons_self holds.2⟩) ⟨coherent, clears⟩
  exact ⟨kept.1, kept.2.tail (TenantInstance.unmarked_of_reconcile coherent ran)⟩

theorem places_visitAll {report : TickTally} (coherent : world.store.IsCoherent)
    (awaits : world.store.Awaits [])
    (faultless : ((visitAll .tenantInstance (TenantInstance.reconcile settings) report).run
      world).1.failed = 0) :
    let last := ((visitAll .tenantInstance (TenantInstance.reconcile settings) report).run world).2
    ∀ realised ∈ last.store.list .tenantInstance, last.store.Places realised := by
  have achieved := visitAll_induction
    (fun pending world => world.store.IsCoherent ∧ world.store.Clears pending)
    (fun _ _ _ _ _ holds ran => clears_of_reconcile holds.1 holds.2 ran)
    .tenantInstance report world faultless
  intro last realised present
  have cleared := (achieved ⟨coherent, fun realised isStored => ?_⟩).2 realised present
  · rcases cleared with placed | ⟨-, own, ownMem, -⟩
    · exact placed
    · exact absurd ownMem List.not_mem_nil
  · rcases awaits realised isStored with (marked | placed) | ⟨owner, ownerMem, -⟩
    · exact .inr ⟨marked, realised.key, List.mem_map_of_mem isStored, rfl⟩
    · exact .inl placed
    · exact absurd ownerMem List.not_mem_nil

/-- A pass on a target that succeeds leaves one target less to publish places of. -/
theorem publishes_of_reconcile {key : ObjectKey} {rest : List ObjectKey} {last : World}
    {written : Bool} (publishes : world.store.Publishes (key :: rest))
    (placed : ∀ realised ∈ world.store.list .tenantInstance, world.store.Places realised)
    (ran : (reconcileTarget settings key).runOn world = (.ok written, last)) :
    last.store.Publishes rest ∧
      ∀ realised ∈ last.store.list .tenantInstance, last.store.Places realised := by
  have through := Target.through_reconcile settings key world
  rw [ran] at through
  have kept := through.preserves
    (fun store => store.Publishes (key :: rest) ∧
      ∀ realised ∈ store.list .tenantInstance, store.Places realised)
    (fun holds written => ⟨written.publishes holds.1, written.places holds.2⟩) ⟨publishes, placed⟩
  refine ⟨fun target present => ?_, kept.2⟩
  rcases kept.1 target present with published | ⟨own, ownMem, ownText⟩
  · exact .inl published
  · rcases List.mem_cons.1 ownMem with rfl | inRest
    · exact .inl (Target.published_of_reconcile ran target present ownText)
    · exact .inr ⟨own, inRest, ownText⟩

theorem publishes_visitAll {report : TickTally}
    (placed : ∀ realised ∈ world.store.list .tenantInstance, world.store.Places realised)
    (faultless : ((visitAll .target (reconcileTarget settings) report).run world).1.failed = 0) :
    let last := ((visitAll .target (reconcileTarget settings) report).run world).2
    last.store.Publishes [] ∧
      ∀ realised ∈ last.store.list .tenantInstance, last.store.Places realised :=
  visitAll_induction
    (fun pending world => world.store.Publishes pending ∧
      ∀ realised ∈ world.store.list .tenantInstance, world.store.Places realised)
    (fun _ _ _ _ _ holds ran => publishes_of_reconcile holds.1 holds.2 ran)
    .target report world faultless
    ⟨fun target present => .inr ⟨target.key, List.mem_map_of_mem present, rfl⟩, placed⟩

/-- After a tick without failures every instance has its place, and every target publishes what it
has left. -/
theorem places_and_publishes_of_tick (coherent : world.store.IsCoherent)
    (faultless : ((tick settings seen).run world).1.1.failed = 0) :
    let last := ((tick settings seen).run world).2
    last.store.IsCoherent ∧ last.store.Publishes [] ∧
      ∀ realised ∈ last.store.list .tenantInstance, last.store.Places realised := by
  -- the phases settle, clear and publish; each keeps what those before it have achieved
  obtain ⟨inDeployments, inInstances, inTargets⟩ := failed_phases settings seen world faultless
  have first := (through_afterRegistrations world).isCoherent coherent
  have second := (through_afterDeployments settings world).isCoherent first
  have third := (through_afterReports settings seen world).isCoherent second
  have settled : (afterDeployments settings world).2.store.Awaits [] := by
    rw [afterDeployments] at inDeployments ⊢
    exact awaits_visitAll first inDeployments
  have reported : (afterReports settings seen world).2.store.Awaits [] := by
    rw [afterReports]
    exact awaits_reportChanges settled
  have cleared : ∀ realised ∈ (afterInstances settings seen world).2.store.list .tenantInstance,
      (afterInstances settings seen world).2.store.Places realised := by
    rw [afterInstances] at inInstances ⊢
    exact places_visitAll third reported inInstances
  refine ⟨(through_tick settings seen world).isCoherent coherent, ?_⟩
  simp only [run_tick]
  rw [afterTargets] at inTargets ⊢
  exact publishes_visitAll cleared inTargets

end Resync

end TenantFleet
