import TenantFleet.Draws
import TenantFleet.Proofs.Passes.Unplaced
import TenantFleet.Proofs.Store.Requests

/-!
# A failed placement leaves nothing behind

However often a deployment cannot be placed, the failure is recorded once, and
nothing else of it is seen in the store.
-/

namespace TenantFleet

namespace World

variable {world after : World} {settings : Settings} {key : ObjectKey} {failure : PassFailure}

/-- When no target takes the instance of a deployment, no id is free for it, or it cannot be
created, no object changes but the deployment, by the record of the failure; and not even that one
when the failure was on record.  Any number of passes that fail alike write nothing more. -/
theorem failed_placements_are_recorded_once
    (ran : (Deployment.reconcile settings key).runOn world = (.error failure, after))
    (making : failure.step.isOfMaking = true) :
    ∃ earlier later, Deployment.LeavesRecord world.store after.store key failure earlier later ∧
      (∃ stores, world.Wrote stores after ∧ stores.length ≤ 1) ∧
      (earlier.status.lastError.any failure.isRecordedBy = true →
        after.store = world.store ∧ after.journal = world.journal) ∧
      ∀ last, Deployment.FailsAlike key failure after last →
        last.store = after.store ∧ last.journal = after.journal := by
  obtain ⟨earlier, later, leaves, wrote, idle⟩ := Deployment.exists_leavesRecord ran making
  exact ⟨earlier, later, leaves, wrote, idle, fun last fails =>
    fails.same making leaves.isFound leaves.recorded⟩

/-- A deployment in a fleet without targets. -/
def stranded : World :=
  let deployment : Deployment :=
    { metadata := { name := "web", scope := "tenant01", finalizers := [finalizer] }
      spec := { tenantId := "tenant01", purpose := "demo" }
      status := {} }
  .around (History.ofRequests [.create deployment 0 (scatteredSuffixes 0).value]).store 5 0

/-- Two passes find no target; the first of them records it, the second writes nothing. -/
theorem failed_placements_are_recorded_once_stranded :
    let pass := Deployment.reconcile {} ⟨"tenant01", "web"⟩
    let failure : PassFailure := ⟨.reconcile, .findTarget, .noCapacity⟩
    ∃ after last, pass.runOn stranded = (.error failure, after) ∧
      after.journal.length = 1 ∧
      pass.runOn after = (.error failure, last) ∧
      last.store = after.store ∧ last.journal = after.journal := by
  intro pass failure
  have failed : pass.failure? stranded = some failure := by decide +kernel
  have longer : (pass.runOn stranded).2.journal.length = 1 := by decide +kernel
  have failedAgain : pass.failure? (pass.runOn stranded).2 = some failure := by decide +kernel
  obtain ⟨after, ran⟩ := Pass.exists_of_failure? failed
  rw [ran] at longer failedAgain
  obtain ⟨last, ranAgain⟩ := Pass.exists_of_failure? failedAgain
  obtain ⟨-, -, -, -, -, same⟩ := failed_placements_are_recorded_once ran rfl
  obtain ⟨sameStore, sameJournal⟩ := same last (.more ⟨rfl, rfl, rfl⟩ ranAgain (.none last))
  exact ⟨after, last, ran, longer, ranAgain, sameStore, sameJournal⟩

end World

end TenantFleet
