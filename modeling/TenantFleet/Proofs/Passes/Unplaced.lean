import TenantFleet.Proofs.Passes.Failures
import TenantFleet.Proofs.Quiet.Rest

/-!
# Deployments without a place

When no target takes the instance of a deployment, no id is free for it, or it
cannot be created, the pass has written nothing yet.  What it leaves is the
record of its failure, on the deployment alone, and that only where there was no
such record before.
-/

namespace TenantFleet

namespace PassFailure

variable {first second failure : PassFailure}

/-- The failures leave the same record, but for its times. -/
structure IsLike (first second : PassFailure) : Prop where
  operation : first.operation = second.operation
  step : first.step = second.step
  message : first.message = second.message

theorem IsLike.isRecordedBy_eq (like : first.IsLike second) :
    first.isRecordedBy = second.isRecordedBy := by
  funext record
  rw [isRecordedBy, isRecordedBy, like.operation, like.step, like.message]

/-- As long as it is the same operation that fails, the time of transition stays. -/
theorem lastTransitionTime_record {previous : FailureRecord}
    (sameOperation : previous.operation = failure.operation.title) (now : Nat) :
    (failure.record (some previous) now).lastTransitionTime = previous.lastTransitionTime := by
  simp only [record, FailureRecord.next, sameOperation, if_true]

end PassFailure

namespace Deployment

variable {settings : Settings} {key : ObjectKey} {world after last : World} {store : Store}
  {deployment earlier later : Deployment} {failure : PassFailure}

/-- Nothing that is stored has changed but the last error of the deployment under the key, with its
resource version, and the failure is on record there. -/
structure LeavesRecord (before after : Store) (key : ObjectKey) (failure : PassFailure)
    (earlier later : Deployment) : Prop where
  wasFound : before.find? .deployment key = some earlier
  isFound : after.find? .deployment key = some later
  same : Store.SameBeside .deployment before after
  others : ∀ other : ObjectKey, key.text ≠ other.text →
    after.find? .deployment other = before.find? .deployment other
  kept : later =
    { earlier with
      status := { earlier.status with lastError := later.status.lastError }
      metadata :=
        { earlier.metadata with resourceVersion := later.metadata.resourceVersion } }
  recorded : later.status.lastError.any failure.isRecordedBy = true
  transition : ∀ previous, earlier.status.lastError = some previous →
    previous.operation = failure.operation.title →
      later.status.lastError.map FailureRecord.lastTransitionTime =
        some previous.lastTransitionTime

theorem leavesRecord_of_recorded (isFound : store.find? .deployment key = some deployment)
    (recorded : deployment.status.lastError.any failure.isRecordedBy = true) :
    LeavesRecord store store key failure deployment deployment where
  wasFound := isFound
  isFound := isFound
  same := .refl store
  others _ _ := rfl
  kept := rfl
  recorded := recorded
  transition previous isPrevious _ := by rw [isPrevious, Option.map_some]

theorem leavesRecord_retold (isFound : store.find? .deployment key = some deployment)
    (failure : PassFailure) (now : Nat) :
    let status : DeploymentStatus :=
      { deployment.status with
        lastError := some (failure.record deployment.status.lastError now) }
    LeavesRecord store (retold store deployment status) key failure deployment
      (store.restated deployment status) where
  wasFound := isFound
  isFound := find?_retold isFound _
  same := sameBeside_retold store deployment _
  others _ different := Store.find?_restated_of_ne isFound different _
  kept := rfl
  recorded := failure.isRecordedBy_record _ _
  transition previous isPrevious sameOperation := by
    rw [isPrevious]
    exact congrArg some (PassFailure.lastTransitionTime_record sameOperation now)

/-- A pass that fails in the making of an instance leaves a record of that, if there was none. -/
theorem exists_leavesRecord
    (ran : (reconcile settings key).runOn world = (.error failure, after))
    (making : failure.step.isOfMaking = true) :
    ∃ earlier later, LeavesRecord world.store after.store key failure earlier later ∧
      (∃ stores, world.Wrote stores after ∧ stores.length ≤ 1) ∧
      (earlier.status.lastError.any failure.isRecordedBy = true →
        after.store = world.store ∧ after.journal = world.journal) := by
  obtain ⟨deployment, middle, isFound, sameStore, sameJournal, rfl⟩ :=
    exists_makeInstance_of_failed ran making
  rw [← sameStore] at isFound ⊢
  have wrote := wrote_recordFailure isFound failure
  have few := length_recordWrites middle.store deployment failure middle.clock.next
  have wroteAll := wrote.of_same sameStore sameJournal
  by_cases recorded : deployment.status.lastError.any failure.isRecordedBy = true
  · rw [recordFailure_of_recorded isFound recorded] at wroteAll ⊢
    exact ⟨deployment, deployment, leavesRecord_of_recorded isFound recorded, ⟨_, wroteAll, few⟩,
      fun _ => ⟨rfl, sameJournal⟩⟩
  · have isLast := wrote.isLast
    rw [recordWrites, if_neg recorded] at isLast
    rw [isLast]
    exact ⟨deployment, _, leavesRecord_retold isFound failure middle.clock.next,
      ⟨_, wroteAll, few⟩, fun isRecorded => absurd isRecorded recorded⟩

/-- Passes on the deployment, one after the other and whatever the settings, each of which fails
like the failure. -/
inductive FailsAlike (key : ObjectKey) (failure : PassFailure) : World → World → Prop
  | none (world : World) : FailsAlike key failure world world
  | more {world middle last : World} {settings : Settings} {other : PassFailure}
      (like : other.IsLike failure)
      (ran : (reconcile settings key).runOn world = (.error other, middle))
      (rest : FailsAlike key failure middle last) : FailsAlike key failure world last

/-- Once the failure is on record, passes that fail like it write nothing. -/
theorem FailsAlike.same (fails : FailsAlike key failure world last)
    (making : failure.step.isOfMaking = true)
    (isFound : world.store.find? .deployment key = some deployment)
    (recorded : deployment.status.lastError.any failure.isRecordedBy = true) :
    last.store = world.store ∧ last.journal = world.journal := by
  induction fails with
  | none world => exact ⟨rfl, rfl⟩
  | @more world middle last settings other like ran rest ih =>
      have otherMaking : other.step.isOfMaking = true := by rwa [like.step]
      obtain ⟨earlier, later, leaves, -, idle⟩ := exists_leavesRecord ran otherMaking
      obtain rfl := Option.some.inj (isFound.symm.trans leaves.wasFound)
      rw [like.isRecordedBy_eq] at idle
      obtain ⟨sameStore, sameJournal⟩ := idle recorded
      rw [← sameStore] at isFound
      obtain ⟨lastStore, lastJournal⟩ := ih isFound
      exact ⟨lastStore.trans sameStore, lastJournal.trans sameJournal⟩

end Deployment

end TenantFleet
