import TenantFleet.Proofs.Passes.Outcomes
import TenantFleet.Proofs.Resumption.Deletions
import TenantFleet.Proofs.Resumption.TenantInstance

/-!
# Objects that are let go

A pass says of an object that it is gone when the last thing it did was to take
the finalizer of the control plane off.  Whether the object goes with it is for
the store to decide: it goes when that finalizer was the only one, and is left
with the other ones when there are any.  Of an object that is left the pass on a
deployment says the same again, with one more write; the passes on instances
and registrations look for the finalizer first, and wait.
-/

namespace TenantFleet

namespace Store

variable {store : Store} {kind : Kind} {key : ObjectKey} {stored : Object kind}

/-- The object that is left when others than the control plane keep it. -/
def relieved (store : Store) (stored : Object kind) : Object kind :=
  store.replacement stored stored.letGo

@[simp]
theorem finalizers_relieved (store : Store) (stored : Object kind) :
    (store.relieved stored).metadata.finalizers =
      stored.metadata.finalizers.filter (· != finalizer) := rfl

@[simp]
theorem isMarked_relieved (store : Store) (stored : Object kind) :
    (store.relieved stored).isMarked = stored.isMarked := rfl

@[simp]
theorem key_relieved (store : Store) (stored : Object kind) :
    (store.relieved stored).key = stored.key := rfl

@[simp]
theorem isHeld_relieved (store : Store) (stored : Object kind) :
    (store.relieved stored).isHeld = false := by
  simp [Object.isHeld, Metadata.isHeldBy]

theorem isSpent_relieved_iff (marked : stored.isMarked = true) :
    isSpent (store.relieved stored) = true ↔
      ∀ name ∈ stored.metadata.finalizers, name = finalizer := by
  simp [isSpent, marked]

/-- What no other finalizer keeps goes with the one that is taken off. -/
theorem find?_dismissed_of_unkept (isFound : store.find? kind key = some stored)
    (marked : stored.isMarked = true)
    (unkept : ∀ name ∈ stored.metadata.finalizers, name = finalizer) :
    (store.dismissed stored).find? kind key = none :=
  find?_supplant_of_spent ((isSpent_relieved_iff marked).2 unkept) (keyText_of_find? isFound)

theorem find?_dismissed_of_kept (isFound : store.find? kind key = some stored)
    (marked : stored.isMarked = true) {name : String}
    (kept : name ∈ stored.metadata.finalizers) (foreign : name ≠ finalizer) :
    (store.dismissed stored).find? kind key = some (store.relieved stored) := by
  have unspent : isSpent (store.relieved stored) = false :=
    Bool.eq_false_iff.2 fun spent => foreign ((isSpent_relieved_iff marked).1 spent name kept)
  have sameText : (store.relieved stored).keyText = key.text :=
    (congrArg ObjectKey.text (key_relieved store stored)).trans (keyText_of_find? isFound)
  change (store.supplant stored (store.relieved stored)).find? kind key = _
  rw [supplant_of_kept unspent, find?_write, if_pos sameText]

end Store

/-- The object `found` was marked for deletion, and the pass has come to a world in which all that
is left to do is to take the finalizer off what has become of it. -/
structure Retires {kind : Kind} (key : ObjectKey) (world middle : World)
    (found last : Object kind) : Prop where
  isFound : world.store.find? kind key = some found
  marked : found.isMarked = true
  lastFound : middle.store.find? kind key = some last
  lastMarked : last.isMarked = true
  sameFinalizers : last.metadata.finalizers = found.metadata.finalizers

namespace Retires

variable {kind : Kind} {key : ObjectKey} {world middle : World} {found last : Object kind}

theorem find?_of_unkept (retires : Retires key world middle found last)
    (unkept : ∀ name ∈ found.metadata.finalizers, name = finalizer) :
    (middle.store.dismissed last).find? kind key = none :=
  Store.find?_dismissed_of_unkept retires.lastFound retires.lastMarked
    (retires.sameFinalizers ▸ unkept)

theorem find?_of_kept (retires : Retires key world middle found last) {name : String}
    (kept : name ∈ found.metadata.finalizers) (foreign : name ≠ finalizer) :
    (middle.store.dismissed last).find? kind key = some (middle.store.relieved last) :=
  Store.find?_dismissed_of_kept retires.lastFound retires.lastMarked
    (retires.sameFinalizers ▸ kept) foreign

end Retires

variable {key : ObjectKey} {world after : World} {settings : Settings}

namespace Deployment

/-- A deployment is let go when it names no instance and has none under its label. -/
theorem exists_retires_of_gone
    (gone : (reconcile settings key).runOn world = (.ok .gone, after)) :
    ∃ (middle : World) (found last : Deployment), Retires key world middle found last ∧
      after = middle.commit (middle.store.dismissed last) ∧ last.status.instanceKey = none ∧
        middle.store.labelled .tenantInstance deploymentLabel last.key.text = [] := by
  obtain ⟨found, isFound, marked, vacant, dismissing⟩ := exists_dismiss_of_gone gone
  have empty := Store.labelled_eq_nil_of_instanceOf? vacant
  have present := Store.mem_list_of_find? isFound
  by_cases unnamed : found.status.instanceKey = none
  · rw [runOn_dismiss_of_unnamed present unnamed] at dismissing
    cases dismissing
    exact ⟨world, found, found, ⟨isFound, marked, isFound, marked, rfl⟩, rfl, unnamed, empty⟩
  · let last := world.store.restated found { found.status with instanceKey := none }
    let middle := world.commit (cleared world.store found)
    have lastFound : middle.store.find? .deployment key = some last :=
      Store.find?_restated isFound _
    have same : Store.SameBeside .deployment world.store middle.store :=
      Store.sameBeside_write _ _ _
    rw [runOn_dismiss_of_named present unnamed,
      runOn_dismiss_of_unnamed (Store.mem_list_of_find? lastFound) rfl] at dismissing
    cases dismissing
    refine ⟨middle, found, last, ⟨isFound, marked, lastFound, marked, rfl⟩, rfl, rfl, ?_⟩
    rw [same.labelled (by decide)]
    exact empty

/-- A deployment that others keep is let go once more. -/
theorem runOn_reconcile_of_relieved {left : Deployment}
    (isFound : world.store.find? .deployment key = some left) (marked : left.isMarked = true)
    (unnamed : left.status.instanceKey = none)
    (empty : world.store.labelled .tenantInstance deploymentLabel left.key.text = []) :
    (reconcile settings key).runOn world =
      (.ok .gone, world.commit (world.store.dismissed left)) := by
  rw [runOn_reconcile_marked isFound marked, Pass.runOn_onFailure,
    runOn_windDown_of_vacant (Store.instanceOf?_of_unnamed unnamed empty),
    runOn_dismiss_of_unnamed (Store.mem_list_of_find? isFound) unnamed]

end Deployment

namespace TenantInstance

theorem exists_retires_of_gone
    (gone : (reconcile settings key).runOn world = (.ok .gone, after)) :
    ∃ (middle : World) (found : TenantInstance), Retires key world middle found found ∧
      after = middle.commit (middle.store.dismissed found) := by
  cases isFound : world.store.find? .tenantInstance key with
  | none =>
      rw [runOn_reconcile_of_absent isFound] at gone
      cases gone
  | some found =>
      cases marked : Object.isMarked found with
      | false =>
          cases isHeld : Object.isHeld found with
          | false =>
              rw [runOn_reconcile_of_unheld isFound marked isHeld] at gone
              cases gone
          | true =>
              rw [runOn_reconcile_of_lasting isFound marked isHeld] at gone
              cases gone
      | true =>
          cases isHeld : Object.isHeld found with
          | false =>
              rw [runOn_reconcile_of_relieved isFound marked isHeld] at gone
              cases gone
          | true =>
              rw [runOn_reconcile_retiring isFound marked isHeld] at gone
              have winding := Pass.runOn_of_onFailure_ok gone
              unfold windDown at winding
              obtain ⟨released, middle, releasing, rest⟩ := Pass.exists_of_discard_bind_ok winding
              have stillFound : middle.store.find? .tenantInstance key = some found := by
                rw [(sameBeside_of_releasePlace releasing).find? (by decide), isFound]
              rw [Pass.runOn_dismissal (Store.mem_list_of_find? stillFound) rfl] at rest
              cases rest
              exact ⟨middle, found, ⟨isFound, marked, stillFound, marked, rfl⟩, rfl⟩

end TenantInstance

namespace Registration

theorem outcome_of_carryOut {registration : Registration} {outcome : Outcome}
    (ran : (carryOut registration).runOn world = (.ok outcome, after)) :
    outcome = .waiting ∨ outcome = .synced := by
  unfold carryOut at ran
  obtain ⟨⟨⟩, spaced, -, derives⟩ := Pass.exists_of_bind_ok ran
  obtain ⟨provided, middle, -, rest⟩ := Pass.exists_of_bind_ok derives
  cases provided with
  | none =>
      cases rest
      exact .inl rfl
  | some deployment =>
      obtain ⟨updated, last, -, done⟩ := Pass.exists_of_discard_bind_ok rest
      cases done
      exact .inr rfl

/-- As long as it is to stay, nothing is said of a registration that is said of one that went. -/
theorem isMarked_of_gone {found : Registration}
    (isFound : world.store.find? .registration key = some found)
    (gone : (reconcile key).runOn world = (.ok .gone, after)) : found.isMarked = true := by
  cases marked : Object.isMarked found with
  | true => rfl
  | false =>
      cases isHeld : Object.isHeld found with
      | false =>
          rw [runOn_reconcile_of_unheld isFound marked isHeld] at gone
          cases gone
      | true =>
          by_cases seen : RegistrationStatus.observedGeneration found.status =
              found.metadata.generation
          · have carriedOut : IsCarriedOut found := ⟨marked, isHeld, seen⟩
            rw [carriedOut.runOn_reconcile isFound] at gone
            cases gone
          · have due : IsDue world.store key found := ⟨isFound, marked, isHeld, seen⟩
            rw [due.runOn_reconcile] at gone
            rcases outcome_of_carryOut (Pass.runOn_of_onFailure_ok gone) with waiting | synced
            · cases waiting
            · cases synced

/-- A registration is let go when there is no deployment under its label. -/
theorem exists_retires_of_gone (gone : (reconcile key).runOn world = (.ok .gone, after)) :
    ∃ found : Registration, Retires key world world found found ∧
      after = world.commit (world.store.dismissed found) ∧
        world.store.labelled .deployment registrationLabel found.key.text = [] := by
  cases isFound : world.store.find? .registration key with
  | none =>
      rw [runOn_reconcile_of_absent isFound] at gone
      cases gone
  | some found =>
      have marked := isMarked_of_gone isFound gone
      rw [runOn_reconcile_marked isFound marked] at gone
      have winding := Pass.runOn_of_onFailure_ok gone
      unfold windDown at winding
      rw [Pass.runOn_readStore_bind] at winding
      simp only at winding
      split at winding
      next =>
        obtain ⟨issued, middle, -, rest⟩ := Pass.exists_of_bind_ok winding
        cases issued <;> cases rest
      next none =>
        have empty : world.store.labelled .deployment registrationLabel found.key.text = [] := by
          simpa using none
        split at winding
        next =>
          rw [Pass.runOn_dismissal (Store.mem_list_of_find? isFound) rfl] at winding
          cases winding
          exact ⟨found, ⟨isFound, marked, isFound, marked, rfl⟩, rfl, empty⟩
        next => cases winding

end Registration

end TenantFleet
