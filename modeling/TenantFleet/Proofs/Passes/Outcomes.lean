import TenantFleet.Proofs.Resumption.Deployment

/-!
# What the outcome of a pass tells

A pass on a deployment that succeeds has come by one of four ways, and what it
says shows which: only the way on which the deployment is realised ends in
convergence, and only the way out ends with the deployment gone.
-/

namespace TenantFleet

namespace Pass

variable {ε α : Type}

/-- What the pass says, unless it fails. -/
def outcome? (pass : Pass ε α) (world : World) : Option α :=
  (pass.runOn world).1.toOption

theorem exists_of_outcome? {pass : Pass ε α} {world : World} {outcome : α}
    (said : pass.outcome? world = some outcome) :
    ∃ after, pass.runOn world = (.ok outcome, after) := by
  unfold outcome? at said
  cases ran : pass.runOn world with
  | mk result after =>
      rw [ran] at said
      cases result with
      | ok value =>
          obtain rfl := Option.some.inj said
          exact ⟨after, rfl⟩
      | error failure => cases said

/-- What the pass fails with, if it fails. -/
def failure? (pass : Pass ε α) (world : World) : Option ε :=
  match (pass.runOn world).1 with
  | .ok _ => none
  | .error failure => some failure

theorem exists_of_failure? {pass : Pass ε α} {world : World} {failure : ε}
    (said : pass.failure? world = some failure) :
    ∃ after, pass.runOn world = (.error failure, after) := by
  unfold failure? at said
  cases ran : pass.runOn world with
  | mk result after =>
      rw [ran] at said
      cases result with
      | ok value => cases said
      | error error =>
          obtain rfl := Option.some.inj said
          exact ⟨after, rfl⟩

end Pass

namespace Deployment

variable {settings : Settings} {key : ObjectKey} {world after : World} {deployment : Deployment}
  {realised : TenantInstance} {outcome : Outcome}

/-- The ways of a pass on a deployment that succeeds, with what it says in the end. -/
inductive Course (settings : Settings) (key : ObjectKey) (world : World) :
    Outcome → World → Prop
  | absent (isAbsent : world.store.find? .deployment key = none) :
      Course settings key world .notFound world
  | held {deployment : Deployment} {after : World}
      (isFound : world.store.find? .deployment key = some deployment) :
      Course settings key world .finalizerAdded after
  | realised {deployment : Deployment} {outcome : Outcome} {after : World}
      (isFound : world.store.find? .deployment key = some deployment)
      (unmarked : deployment.isMarked = false) (isHeld : deployment.isHeld = true)
      (ran : (realise settings deployment).runOn world = (.ok outcome, after)) :
      Course settings key world outcome after
  | woundDown {deployment : Deployment} {outcome : Outcome} {after : World}
      (isFound : world.store.find? .deployment key = some deployment)
      (marked : deployment.isMarked = true)
      (ran : (windDown settings deployment).runOn world = (.ok outcome, after)) :
      Course settings key world outcome after

theorem course_of_reconcile (ran : (reconcile settings key).runOn world = (.ok outcome, after)) :
    Course settings key world outcome after := by
  cases isFound : world.store.find? .deployment key with
  | none =>
      rw [runOn_reconcile_of_absent isFound] at ran
      cases ran
      exact .absent isFound
  | some deployment =>
      cases marked : Object.isMarked deployment with
      | true =>
          rw [runOn_reconcile_marked isFound marked] at ran
          exact .woundDown isFound marked (Pass.runOn_of_onFailure_ok ran)
      | false =>
          cases isHeld : Object.isHeld deployment with
          | false =>
              rw [runOn_reconcile_of_unheld isFound marked isHeld] at ran
              cases ran
              exact .held isFound
          | true =>
              unfold reconcile at ran
              rw [Pass.runOn_readStore_bind] at ran
              simp only [isFound, marked, isHeld, Bool.false_eq_true, if_false, if_true] at ran
              exact .realised isFound marked isHeld (Pass.runOn_of_onFailure_ok ran)

theorem outcome_of_settle
    (ran : (settle settings deployment realised).runOn world = (.ok outcome, after)) :
    outcome = .converged := by
  unfold settle at ran
  obtain ⟨assigned, middle, -, rest⟩ := Pass.exists_of_discard_bind_ok ran
  simp only at rest
  split at rest
  · cases rest
    rfl
  · obtain ⟨updated, last, -, done⟩ := Pass.exists_of_discard_bind_ok rest
    cases done
    rfl

theorem outcome_of_realise
    (ran : (realise settings deployment).runOn world = (.ok outcome, after)) :
    outcome = .waiting ∨ outcome = .converged := by
  unfold realise at ran
  rw [Pass.runOn_readStore_bind] at ran
  cases found : world.store.instanceOf? deployment with
  | none =>
      simp only [found] at ran
      obtain ⟨made, middle, -, settling⟩ := Pass.exists_of_bind_ok ran
      exact .inr (outcome_of_settle settling)
  | some existing =>
      simp only [found] at ran
      split at ran
      · cases ran
        exact .inl rfl
      · obtain ⟨renewed, middle, -, settling⟩ := Pass.exists_of_bind_ok ran
        exact .inr (outcome_of_settle settling)

theorem outcome_of_dismiss (isFound : world.store.find? .deployment key = some deployment)
    (ran : (dismiss deployment).runOn world = (.ok outcome, after)) : outcome = .gone := by
  have present := Store.mem_list_of_find? isFound
  by_cases unnamed : deployment.status.instanceKey = none
  · rw [runOn_dismiss_of_unnamed present unnamed] at ran
    cases ran
    rfl
  · have clearedPresent := Store.mem_list_write_self world.store (some deployment)
      (world.store.restated deployment { deployment.status with instanceKey := none })
    rw [runOn_dismiss_of_named present unnamed, runOn_dismiss_of_unnamed clearedPresent rfl] at ran
    cases ran
    rfl

/-- While there is an instance to wait for, its deployment is not let go. -/
theorem outcome_of_windDown {existing : TenantInstance}
    (found : world.store.instanceOf? deployment = some existing)
    (ran : (windDown settings deployment).runOn world = (.ok outcome, after)) :
    outcome = .waiting ∨ outcome = .deleteIssued := by
  have present := (Store.realises_of_instanceOf? found).1
  -- what is in the store can be deleted, so the pass does not go on as if it were not there
  have deleting (middle : World) (stillPresent : existing ∈ middle.store.list .tenantInstance) :
      ∃ removal last, ((World.delete .tenantInstance existing.key).attempt.runOn middle :
        Except PassFailure _ × World) = (.ok (.ok removal), last) := by
    obtain ⟨removal, last, done⟩ :=
      Store.exists_of_delete existing.key middle.clock.next stillPresent rfl rfl
    rw [Pass.runOn_attempt, World.runOn_delete_of_ok done]
    exact ⟨_, _, rfl⟩
  unfold windDown at ran
  rw [Pass.runOn_readStore_bind] at ran
  simp only [found] at ran
  split at ran
  · cases ran
    exact .inl rfl
  · split at ran
    · obtain ⟨released, middle, releasing, rest⟩ := Pass.exists_of_discard_bind_ok ran
      have stillPresent : existing ∈ middle.store.list .tenantInstance := by
        rw [(sameBeside_of_releasePlace releasing).list (by decide)]
        exact present
      obtain ⟨removal, last, deleted⟩ := deleting middle stillPresent
      rw [Pass.runOn_bind, deleted] at rest
      cases rest
      exact .inr rfl
    · obtain ⟨removal, last, deleted⟩ := deleting world present
      rw [Pass.runOn_bind, deleted] at ran
      cases ran
      exact .inr rfl

/-- A deployment is gone only when the pass has found no instance of it on its way out. -/
theorem exists_dismiss_of_gone
    (gone : (reconcile settings key).runOn world = (.ok .gone, after)) :
    ∃ deployment : Deployment, world.store.find? .deployment key = some deployment ∧
      deployment.isMarked = true ∧ world.store.instanceOf? deployment = none ∧
        (dismiss deployment).runOn world = (.ok .gone, after) := by
  cases course_of_reconcile gone with
  | @realised deployment _ _ isFound unmarked isHeld ran =>
      rcases outcome_of_realise ran with waiting | converged
      · cases waiting
      · cases converged
  | @woundDown deployment _ _ isFound marked ran =>
      cases found : world.store.instanceOf? deployment with
      | none =>
          rw [runOn_windDown_of_vacant found] at ran
          exact ⟨deployment, isFound, marked, found, ran⟩
      | some existing =>
          rcases outcome_of_windDown found ran with waiting | deleteIssued
          · cases waiting
          · cases deleteIssued

/-- A deployment has converged only when its instance has been settled. -/
theorem exists_realise_of_converged
    (converged : (reconcile settings key).runOn world = (.ok .converged, after)) :
    ∃ deployment : Deployment, world.store.find? .deployment key = some deployment ∧
      deployment.isMarked = false ∧ deployment.isHeld = true ∧
        (realise settings deployment).runOn world = (.ok .converged, after) := by
  cases course_of_reconcile converged with
  | realised isFound unmarked isHeld ran => exact ⟨_, isFound, unmarked, isHeld, ran⟩
  | @woundDown deployment _ _ isFound marked ran =>
      cases found : world.store.instanceOf? deployment with
      | none =>
          rw [runOn_windDown_of_vacant found] at ran
          cases outcome_of_dismiss isFound ran
      | some existing =>
          rcases outcome_of_windDown found ran with waiting | deleteIssued
          · cases waiting
          · cases deleteIssued

end Deployment

end TenantFleet
