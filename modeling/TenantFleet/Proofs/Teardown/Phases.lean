import TenantFleet.Proofs.Resumption.Deletions
import TenantFleet.Proofs.Resumption.Deployment
import TenantFleet.Proofs.Resumption.TenantInstance
import TenantFleet.Proofs.Teardown.Closing

/-!
# The passes of a teardown

In a closing store the pass on a deployment has its instance marked, or lets the
deployment go when there is none; the pass on a marked instance lets it go; the
pass on a registration that has no deployment lets that go.  Run on every key,
the passes leave nothing of their kind.
-/

namespace TenantFleet

variable {world : World} {settings : Settings} {key : ObjectKey}

namespace Store

variable {store : Store} {kind : Kind}

theorem find?_dismissed {stored : Object kind} (isFound : store.find? kind key = some stored)
    (marked : stored.isMarked = true) (own : stored.metadata.HasOwnFinalizers) :
    (store.dismissed stored).find? kind key = none := by
  exact find?_supplant_of_spent (isSpent_letGo marked own) (keyText_of_find? isFound)

/-- What is marked and still stored is kept by something, and only the control plane keeps it. -/
theorem IsUnspent.isHeld_of_marked (unspent : store.IsUnspent) {object : Object kind}
    (present : object ∈ store.list kind) (marked : object.isMarked = true)
    (own : object.metadata.HasOwnFinalizers) : object.isHeld = true := by
  have held := own.resolve_left (unspent.finalizers_ne_nil present marked)
  simp [Object.isHeld, Metadata.isHeldBy, held]

theorem labelled_of_nil (empty : store.list kind = []) (label value : String) :
    store.labelled kind label value = [] := by
  refine List.eq_nil_iff_forall_not_mem.2 fun object listed => ?_
  have present := (mem_labelled.1 listed).1
  rw [empty] at present
  exact List.not_mem_nil present

theorem instanceOf?_of_nil (empty : store.list .tenantInstance = []) (deployment : Deployment) :
    store.instanceOf? deployment = none := by
  cases found : store.instanceOf? deployment with
  | none => rfl
  | some realised =>
      have present := (realises_of_instanceOf? found).1
      rw [empty] at present
      exact absurd present List.not_mem_nil

end Store

namespace Deployment

variable {deployment : Deployment}

theorem exists_gone_of_dismiss (isFound : world.store.find? .deployment key = some deployment)
    (marked : deployment.isMarked = true) (own : deployment.metadata.HasOwnFinalizers) :
    ∃ last, (dismiss deployment).runOn world = (.ok .gone, last) ∧
      last.store.find? .deployment key = none := by
  by_cases named : deployment.status.instanceKey = none
  · exact ⟨_, runOn_dismiss_of_unnamed (Store.mem_list_of_find? isFound) named,
      Store.find?_dismissed isFound marked own⟩
  · let next := world.store.restated deployment { deployment.status with instanceKey := none }
    have nextFound : (cleared world.store deployment).find? .deployment key = some next :=
      Store.find?_restated isFound _
    let middle := world.commit (cleared world.store deployment)
    have nextPresent : next ∈ middle.store.list .deployment := Store.mem_list_of_find? nextFound
    refine ⟨middle.commit (middle.store.dismissed next), ?_,
      Store.find?_dismissed nextFound marked own⟩
    rw [runOn_dismiss_of_named (Store.mem_list_of_find? isFound) named]
    exact runOn_dismiss_of_unnamed nextPresent rfl

/-- The pass on a deployment cannot fail to wind it down. -/
theorem exists_ok_of_windDown (settings : Settings) (coherent : world.store.IsCoherent)
    (isFound : world.store.find? .deployment key = some deployment)
    (marked : deployment.isMarked = true) :
    ∃ outcome last, (windDown settings deployment).runOn world = (.ok outcome, last) := by
  have sound : Deployment.IsSound deployment :=
    coherent.sound .deployment deployment (Store.mem_list_of_find? isFound)
  cases found : world.store.instanceOf? deployment with
  | none =>
      obtain ⟨last, ran, -⟩ := exists_gone_of_dismiss isFound marked sound.own
      exact ⟨.gone, last, (runOn_windDown_of_vacant found).trans ran⟩
  | some existing =>
      obtain ⟨outcome, last, -, ran, -⟩ := exists_wrote_windDown coherent found
      exact ⟨outcome, last, ran⟩

/-- The pass on a deployment on its way out leaves no instance of it unmarked. -/
theorem marked_of_reconcile (coherent : world.store.IsCoherent)
    (allMarked : ∀ deployment : Deployment, world.store.find? .deployment key = some deployment →
      deployment.isMarked = true) :
    ∀ realised ∈ ((reconcile settings key).runOn world).2.store.list .tenantInstance,
      realised.metadata.label? deploymentLabel = some key.text → realised.isMarked = true := by
  have coherentLast := (through_reconcile settings key world).preserves Store.IsCoherent
    (fun holds written => written.isCoherent holds) coherent
  cases isFound : world.store.find? .deployment key with
  | none =>
      rw [runOn_reconcile_of_absent isFound]
      intro realised present labelled
      obtain ⟨owner, isStored, isLabel, -⟩ := coherent.exists_owner present
      exact absurd (Option.some.inj (isLabel.symm.trans labelled))
        (Store.keyText_ne_of_find?_eq_none isFound isStored)
  | some deployment =>
      have marked := allMarked deployment isFound
      obtain ⟨outcome, last, ran⟩ := exists_ok_of_windDown settings coherent isFound marked
      have isLast : ((reconcile settings key).runOn world).2 = last := by
        rw [runOn_reconcile_marked isFound marked, Pass.runOn_onFailure, ran]
      rw [isLast] at coherentLast ⊢
      exact marked_of_windDown coherent isFound marked coherentLast ran

/-- The pass on a deployment on its way out lets it go when it has no instance. -/
theorem find?_of_reconcile (coherent : world.store.IsCoherent)
    (leaving : ∀ deployment : Deployment, world.store.find? .deployment key = some deployment →
      deployment.isMarked = true ∧ world.store.instanceOf? deployment = none) :
    ((reconcile settings key).runOn world).2.store.find? .deployment key = none := by
  cases isFound : world.store.find? .deployment key with
  | none =>
      rw [runOn_reconcile_of_absent isFound]
      exact isFound
  | some deployment =>
      obtain ⟨marked, vacant⟩ := leaving deployment isFound
      have sound : Deployment.IsSound deployment :=
        coherent.sound .deployment deployment (Store.mem_list_of_find? isFound)
      obtain ⟨last, ran, gone⟩ := exists_gone_of_dismiss isFound marked sound.own
      rw [runOn_reconcile_marked isFound marked, Pass.runOn_onFailure,
        runOn_windDown_of_vacant vacant, ran]
      exact gone

end Deployment

namespace TenantInstance

/-- The pass on a marked instance lets it go, once its target does not list it. -/
theorem exists_gone_of_windDown (settings : Settings) {retiring : TenantInstance}
    (isFound : world.store.find? .tenantInstance key = some retiring)
    (marked : retiring.isMarked = true) (own : retiring.metadata.HasOwnFinalizers) :
    ∃ last, (windDown settings retiring).runOn world = (.ok .gone, last) ∧
      last.store.find? .tenantInstance key = none := by
  have present := Store.mem_list_of_find? isFound
  by_cases isReleased : IsReleased world.store retiring
  · exact ⟨_, runOn_windDown_of_released present isReleased,
      Store.find?_dismissed isFound marked own⟩
  · simp only [IsReleased, Classical.not_forall] at isReleased
    obtain ⟨target, targetFound, hosted⟩ := isReleased
    have stillFound :
        (released world.store target retiring).find? .tenantInstance key = some retiring := by
      rw [released, Store.find?_write_of_ne _ _ _ (by decide), isFound]
    exact ⟨_, runOn_windDown_of_hosted present targetFound (by simpa using hosted),
      Store.find?_dismissed stillFound marked own⟩

theorem find?_of_reconcile (coherent : world.store.IsCoherent)
    (allMarked : ∀ retiring : TenantInstance,
      world.store.find? .tenantInstance key = some retiring → retiring.isMarked = true) :
    ((reconcile settings key).runOn world).2.store.find? .tenantInstance key = none := by
  cases isFound : world.store.find? .tenantInstance key with
  | none =>
      rw [runOn_reconcile_of_absent isFound]
      exact isFound
  | some retiring =>
      have marked := allMarked retiring isFound
      have sound := coherent.sound_instance (Store.mem_list_of_find? isFound)
      obtain ⟨last, ran, gone⟩ :=
        exists_gone_of_windDown settings isFound marked (.inr sound.held)
      rw [runOn_reconcile_retiring isFound marked sound.isHeld, Pass.runOn_onFailure, ran]
      exact gone

end TenantInstance

namespace Registration

/-- The pass on a registration on its way out lets it go when it has no deployment. -/
theorem find?_of_reconcile (coherent : world.store.IsCoherent) (unspent : world.store.IsUnspent)
    (leaving : ∀ registration : Registration,
      world.store.find? .registration key = some registration → registration.isMarked = true ∧
        world.store.labelled .deployment registrationLabel registration.key.text = []) :
    ((reconcile key).runOn world).2.store.find? .registration key = none := by
  cases isFound : world.store.find? .registration key with
  | none =>
      rw [runOn_reconcile_of_absent isFound]
      exact isFound
  | some registration =>
      obtain ⟨marked, bare⟩ := leaving registration isFound
      have present := Store.mem_list_of_find? isFound
      have own : registration.metadata.HasOwnFinalizers :=
        coherent.sound .registration registration present
      have isHeld := unspent.isHeld_of_marked present marked own
      rw [runOn_reconcile_of_bare isFound marked isHeld bare]
      exact Store.find?_dismissed isFound marked own

end Registration

namespace Resync

variable {α : Type} {kind : Kind}

/-- When each pass leaves nothing under its key and adds nothing elsewhere, nothing of the kind is
left in the end. -/
theorem list_eq_nil_visitAll {pass : ObjectKey → Pass PassFailure α} (invariant : Store → Prop)
    (other : kind ≠ .tenantSpace)
    (cleared : ∀ key world, invariant world.store →
      invariant ((pass key).runOn world).2.store ∧
        world.store.Narrows ((pass key).runOn world).2.store ∧
        ((pass key).runOn world).2.store.find? kind key = none)
    (report : TickTally) (world : World) (atStart : invariant world.store) :
    ((visitAll kind pass report).run world).2.store.list kind = [] := by
  -- what is left is under a key whose turn is still to come
  have visited := run_visitAll_induction kind pass
    (fun pending world => invariant world.store ∧
      ∀ object ∈ world.store.list kind, object.key ∈ pending)
    (fun key rest world holds => ?_) report world
    ⟨atStart, fun object present => List.mem_map_of_mem present⟩
  · exact List.eq_nil_iff_forall_not_mem.2 fun object present =>
      List.not_mem_nil (visited.2 object present)
  · obtain ⟨kept, narrows, gone⟩ := cleared key world holds.1
    refine ⟨kept, fun object present => ?_⟩
    obtain ⟨earlier, earlierPresent, sameKey, -⟩ := narrows kind other object present
    rcases List.mem_cons.1 (holds.2 earlier earlierPresent) with isKey | inRest
    · exact absurd (congrArg ObjectKey.text (sameKey.symm.trans isKey))
        (Store.keyText_ne_of_find?_eq_none gone present)
    · exact sameKey ▸ inRest

end Resync

end TenantFleet
