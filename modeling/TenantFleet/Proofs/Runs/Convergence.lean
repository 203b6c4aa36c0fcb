import TenantFleet.Proofs.Passes.Convergence
import TenantFleet.Proofs.Runs.Reachable

/-!
# Convergence on whatever there is

A pass that says of a deployment that it has converged is to be believed, on
every store, whatever has led to it, and with all settings.
-/

namespace TenantFleet

namespace World

variable {world after : World} {settings : Settings} {key : ObjectKey}

/-- When a pass says that a deployment has converged, the deployment has its instance as it asks for
it, with its place, and its status tells so.  Nothing else has changed, the instance has stayed
where it was, and the target has gained the instance at most.  Another pass, with whatever settings,
says the same and writes nothing. -/
theorem converged_deployments_are_served
    (ran : (Deployment.reconcile settings key).runOn world = (.ok .converged, after)) :
    ∃ deployment realised target,
      Deployment.HasConverged after.store key deployment realised target ∧
        Deployment.ChangesOnly world.store after.store key deployment realised target ∧
        ∀ later : Settings,
          (Deployment.reconcile later key).runOn after = (.ok .converged, after) := by
  obtain ⟨found, isFound, unmarked, isHeld, realising⟩ :=
    Deployment.exists_realise_of_converged ran
  obtain ⟨middle, realised, furnishes, settling⟩ :=
    Deployment.exists_furnishes_of_realise isFound realising
  have stillFound : middle.store.find? .deployment key = some found := by
    rw [furnishes.same.find? (by decide), isFound]
  obtain ⟨placed, target, places, isLast⟩ := Deployment.exists_places_of_settle stillFound settling
  obtain ⟨deployment, converged, changes⟩ :=
    Deployment.exists_hasConverged unmarked isHeld furnishes places
  rw [← isLast] at converged changes
  exact ⟨deployment, realised, target, converged, changes, converged.runOn_reconcile⟩

/-- The deployment of the onboarding converges in one pass of three writes, with which the target
gains the new instance; the next pass writes nothing. -/
theorem converged_deployments_are_served_once_onboarded :
    let pass := Deployment.reconcile {} ⟨"tenant01", "web"⟩
    ∃ after realised target, pass.runOn onboarded = (.ok .converged, after) ∧
      after.journal.length = onboarded.journal.length + 3 ∧
      (∃ deployment, Deployment.HasConverged after.store ⟨"tenant01", "web"⟩ deployment realised
        target) ∧
      pass.runOn after = (.ok .converged, after) := by
  intro pass
  have said : pass.outcome? onboarded = some .converged := by decide +kernel
  have longer : (pass.runOn onboarded).2.journal.length = onboarded.journal.length + 3 := by
    decide +kernel
  obtain ⟨after, ran⟩ := Pass.exists_of_outcome? said
  rw [ran] at longer
  obtain ⟨deployment, realised, target, converged, -, again⟩ := converged_deployments_are_served ran
  exact ⟨after, realised, target, ran, longer, ⟨deployment, converged⟩, again {}⟩

end World

end TenantFleet
