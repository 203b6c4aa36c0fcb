import TenantFleet.Proofs.Passes.Outcomes

/-!
# Where passes fail

A failure tells in which step it came up, and every part of a pass has its own
steps.  So the failures of the steps that make an instance come from nowhere
else: the deployment is there to stay, it has no instance, and nothing has been
written when the making of one fails.
-/

namespace TenantFleet

namespace Pass

variable {ε α β : Type} {steps : List PassStep}

/-- Whatever fails in the work fails in one of the steps. -/
def FailsIn (steps : List PassStep) (pass : Pass PassFailure α) : Prop :=
  ∀ world failure after, pass.runOn world = (.error failure, after) → failure.step ∈ steps

theorem failsIn_pure (value : α) : FailsIn steps (pure value) :=
  fun _ _ _ failed => by cases failed

theorem failsIn_throw {failure : PassFailure} (listed : failure.step ∈ steps) :
    FailsIn steps (throw failure : Pass PassFailure α) := by
  intro world other after failed
  cases failed
  exact listed

theorem failsIn_attempt (pass : Pass ε α) : FailsIn steps pass.attempt := by
  intro world failure after failed
  rw [runOn_attempt] at failed
  cases failed

theorem failsIn_during (operation : Operation) {step : PassStep} (listed : step ∈ steps)
    (pass : Pass StoreError α) : FailsIn steps (pass.during operation step) := by
  intro world failure after failed
  rw [runOn_during] at failed
  cases outcome : (pass.runOn world).1 with
  | ok value =>
      rw [outcome] at failed
      cases failed
  | error error =>
      rw [outcome] at failed
      cases failed
      exact listed

theorem exists_of_onFailure_error {pass : Pass ε α} {record : ε → StateM World Unit}
    {world after : World} {error : ε}
    (failed : (pass.onFailure record).runOn world = (.error error, after)) :
    ∃ middle, pass.runOn world = (.error error, middle) ∧ after = (record error middle).2 := by
  rw [runOn_onFailure] at failed
  cases direct : pass.runOn world with
  | mk outcome middle =>
      rw [direct] at failed
      cases outcome with
      | ok value => cases failed
      | error first =>
          cases failed
          exact ⟨middle, rfl, rfl⟩

namespace FailsIn

theorem bind {pass : Pass PassFailure α} {next : α → Pass PassFailure β}
    (first : FailsIn steps pass) (second : ∀ value, FailsIn steps (next value)) :
    FailsIn steps (pass >>= next) := by
  intro world failure after failed
  rcases exists_of_bind_error failed with failedFirst | ⟨value, middle, -, failedNext⟩
  · exact first world failure after failedFirst
  · exact second value middle failure after failedNext

theorem discard {pass : Pass PassFailure α} (fails : FailsIn steps pass) :
    FailsIn steps (discard pass) :=
  fails.bind fun _ => failsIn_pure _

/-- What is done with the store, whatever it is. -/
theorem readStore_bind {next : Store → Pass PassFailure β}
    (each : ∀ store, FailsIn steps (next store)) :
    FailsIn steps (liftM World.readStore >>= next) := by
  intro world failure after failed
  rw [runOn_readStore_bind] at failed
  exact each world.store world failure after failed

theorem onFailure {pass : Pass PassFailure α} (fails : FailsIn steps pass)
    (record : PassFailure → StateM World Unit) : FailsIn steps (pass.onFailure record) := by
  intro world failure after failed
  obtain ⟨middle, direct, -⟩ := exists_of_onFailure_error failed
  exact fails world failure middle direct

theorem mono {wider : List PassStep} {pass : Pass PassFailure α} (fails : FailsIn steps pass)
    (included : steps ⊆ wider) : FailsIn wider pass :=
  fun world failure after failed => included (fails world failure after failed)

end FailsIn

end Pass

theorem TargetChange.failsIn_perform (change : TargetChange) (key : ObjectKey) (limit : Nat)
    (attempts : Nat) : Pass.FailsIn [.getTarget, change.step] (change.perform key limit attempts) := by
  induction attempts with
  | zero => exact Pass.failsIn_throw (by simp)
  | succ attempts ih =>
      unfold perform
      refine .readStore_bind fun store => ?_
      split
      · split
        · exact Pass.failsIn_pure _
        · exact Pass.failsIn_throw (by simp)
      · split
        · exact Pass.failsIn_pure _
        · refine (Pass.failsIn_attempt _).bind fun written => ?_
          split
          · exact Pass.failsIn_pure _
          · split
            · exact ih
            · split
              · exact Pass.failsIn_pure _
              · exact Pass.failsIn_throw (by simp)

/-- Whether it is in the step that an instance is made. -/
def PassStep.isOfMaking : PassStep → Bool
  | .getScheduling | .findTarget | .generateId | .createInstance => true
  | _ => false

namespace Deployment

variable {settings : Settings} {key : ObjectKey} {world after : World} {deployment : Deployment}

theorem failsIn_settle (settings : Settings) (deployment : Deployment)
    (realised : TenantInstance) :
    Pass.FailsIn [.getTarget, .assignCapacity, .updateStatus]
      (settle settings deployment realised) := by
  have placing : Pass.FailsIn [.getTarget, .assignCapacity, .updateStatus]
      (assignPlace settings realised.spec.targetKey realised.key) :=
    (TargetChange.failsIn_perform _ _ _ _).mono (by simp [TargetChange.placing])
  unfold settle
  refine placing.discard.bind fun _ => ?_
  simp only
  split
  · exact Pass.failsIn_pure _
  · exact (Pass.failsIn_during _ (by simp) _).discard.bind fun _ => Pass.failsIn_pure _

theorem failsIn_renewInstance (desired : Deployment) (existing : TenantInstance) :
    Pass.FailsIn [.updateInstance] (renewInstance desired existing) := by
  unfold renewInstance
  simp only
  split
  · exact Pass.failsIn_pure _
  · exact Pass.failsIn_during _ (by simp) _

theorem failsIn_dismiss (deployment : Deployment) :
    Pass.FailsIn [.clearInstanceRef, .removeFinalizer] (dismiss deployment) := by
  have letting (current : Deployment) : Pass.FailsIn [.clearInstanceRef, .removeFinalizer]
      (discard ((World.update current.letGo).during .delete .removeFinalizer) >>= fun _ =>
        (pure .gone : Pass PassFailure Outcome)) :=
    (Pass.failsIn_during _ (by simp) _).discard.bind fun _ => Pass.failsIn_pure _
  unfold dismiss
  simp only
  split
  · exact (Pass.failsIn_during _ (by simp) _).bind letting
  · exact (Pass.failsIn_pure _).bind letting

/-- The steps of the way out. -/
def departure : List PassStep :=
  [.getTarget, .releaseCapacity, .deleteInstance, .clearInstanceRef, .removeFinalizer]

theorem failsIn_windDown (settings : Settings) (deployment : Deployment) :
    Pass.FailsIn departure (windDown settings deployment) := by
  have dismissing : Pass.FailsIn departure (dismiss deployment) :=
    (failsIn_dismiss deployment).mono (by decide)
  have releasing (existing : TenantInstance) : Pass.FailsIn departure
      (releasePlace settings existing.spec.targetKey existing.key) :=
    (TargetChange.failsIn_perform _ _ _ _).mono (by simp [TargetChange.removing, departure])
  unfold windDown
  refine .readStore_bind fun store => ?_
  split
  · exact dismissing
  · split
    · exact Pass.failsIn_pure _
    · extract_lets deleting
      have fails : ∀ done, Pass.FailsIn departure (deleting done) := by
        intro done
        refine (Pass.failsIn_attempt _).bind fun answer => ?_
        split
        · exact Pass.failsIn_pure _
        · split
          · exact dismissing
          · exact Pass.failsIn_throw (by simp [departure])
      split
      · exact (releasing _).discard.bind fails
      · exact fails ()

/-- The steps in which an instance that is there is kept up. -/
def upkeep : List PassStep :=
  [.updateInstance, .getTarget, .assignCapacity, .updateStatus]

theorem failsIn_realise_of_present {existing : TenantInstance}
    (found : world.store.instanceOf? deployment = some existing) {failure : PassFailure}
    (failed : (realise settings deployment).runOn world = (.error failure, after)) :
    failure.step ∈ upkeep := by
  cases lasting : Object.isMarked existing with
  | true =>
      unfold realise at failed
      rw [Pass.runOn_readStore_bind] at failed
      simp only [found, lasting, if_true] at failed
      cases failed
  | false =>
      rw [runOn_realise_of_lasting settings found lasting] at failed
      have renewing : Pass.FailsIn upkeep (renewInstance deployment.withDefaults existing) :=
        (failsIn_renewInstance _ _).mono (by decide)
      have settling (realised : TenantInstance) :
          Pass.FailsIn upkeep (settle settings deployment realised) :=
        (failsIn_settle _ _ _).mono (by decide)
      exact renewing.bind settling world failure after failed

/-- A failure in the making of an instance is the first thing that the pass has met with, and
before it there was nothing to write. -/
theorem exists_makeInstance_of_failed {failure : PassFailure}
    (ran : (reconcile settings key).runOn world = (.error failure, after))
    (making : failure.step.isOfMaking = true) :
    ∃ (deployment : Deployment) (middle : World),
      world.store.find? .deployment key = some deployment ∧
        middle.store = world.store ∧ middle.journal = world.journal ∧
        after = (recordFailure key failure middle).2 := by
  have outside {steps : List PassStep} (none : ∀ step ∈ steps, step.isOfMaking = false)
      (listed : failure.step ∈ steps) : False := by
    rw [none _ listed] at making
    contradiction
  cases isFound : world.store.find? .deployment key with
  | none =>
      rw [runOn_reconcile_of_absent isFound] at ran
      cases ran
  | some deployment =>
      cases marked : Object.isMarked deployment with
      | true =>
          rw [runOn_reconcile_marked isFound marked] at ran
          exact (outside (by decide)
            ((failsIn_windDown settings deployment).onFailure _ world failure after ran)).elim
      | false =>
          cases isHeld : Object.isHeld deployment with
          | false =>
              rw [runOn_reconcile_of_unheld isFound marked isHeld] at ran
              cases ran
          | true =>
              unfold reconcile at ran
              rw [Pass.runOn_readStore_bind] at ran
              simp only [isFound, marked, isHeld, Bool.false_eq_true, if_false, if_true] at ran
              obtain ⟨middle, realising, recorded⟩ := Pass.exists_of_onFailure_error ran
              cases found : world.store.instanceOf? deployment with
              | some existing =>
                  exact (outside (by decide) (failsIn_realise_of_present found realising)).elim
              | none =>
                  rw [runOn_realise_of_vacant settings found] at realising
                  rcases Pass.exists_of_bind_error realising with
                    failed | ⟨made, last, -, settling⟩
                  · rcases runOn_makeInstance settings deployment.withDefaults world with
                      ⟨other, last, ran, sameStore, sameJournal⟩ | ⟨made, last, ran, -⟩
                    · obtain ⟨-, rfl⟩ := Prod.mk.inj (ran.symm.trans failed)
                      exact ⟨deployment, last, rfl, sameStore, sameJournal, recorded⟩
                    · rw [ran] at failed
                      cases failed
                  · exact (outside (by decide)
                      (failsIn_settle settings deployment made last failure middle settling)).elim

end Deployment

end TenantFleet
