import TenantFleet.Proofs.Passes.Registration
import TenantFleet.Proofs.Passes.StatusReport
import TenantFleet.Proofs.Store.Keeping

/-!
# The two writers of a registration's status

The pass on a registration and the report of its deployment both write the whole
status of the registration, each from what it has read.  The pass takes over the
access file that the report has brought, and the report takes over what the pass
has noted, so neither undoes what the other has done.
-/

namespace TenantFleet

namespace Registration

variable {key : ObjectKey} {store after : Store} {earlier between later : Registration}

/-- The tenant has been told of the same access file. -/
def SameAccess (earlier later : Registration) : Prop :=
  later.status.userKubeconfig = earlier.status.userKubeconfig

theorem SameAccess.refl (registration : Registration) : registration.SameAccess registration :=
  rfl

/-- All is the same but what reports tell: the last error and the access file. -/
structure IsToldAgain (earlier later : Registration) : Prop where
  sameSpec : later.spec = earlier.spec
  sameMetadata : later.metadata =
    { earlier.metadata with resourceVersion := later.metadata.resourceVersion }
  observed : later.status.observedGeneration = earlier.status.observedGeneration
  sameDeployment : later.status.deploymentKey = earlier.status.deploymentKey

theorem IsToldAgain.refl (registration : Registration) : registration.IsToldAgain registration :=
  ⟨rfl, rfl, rfl, rfl⟩

theorem IsToldAgain.trans (first : earlier.IsToldAgain between)
    (second : between.IsToldAgain later) : earlier.IsToldAgain later where
  sameSpec := second.sameSpec.trans first.sameSpec
  sameMetadata := second.sameMetadata.trans (by rw [first.sameMetadata])
  observed := second.observed.trans first.observed
  sameDeployment := second.sameDeployment.trans first.sameDeployment

theorem isToldAgain_reported (store : Store) (registration : Registration)
    (deployment : Deployment) (realised : TenantInstance) :
    registration.IsToldAgain
      (store.restated registration (registration.reportedStatus deployment realised)) :=
  ⟨rfl, rfl, rfl, rfl⟩

/-- Whatever the pass writes, the record of a failure included, it makes no registration and leaves
the access files alone. -/
theorem Write.evolves (written : Write key store after) :
    store.Evolves .registration SameAccess after := by
  cases written with
  | held isFound unmarked unheld =>
      exact Store.evolves_supplant SameAccess.refl (Store.mem_list_of_find? isFound)
        (congrArg ObjectKey.text (Object.key_hold _)) rfl
  | spaced | derived | carried =>
      exact Store.evolves_of_sameBeside SameAccess.refl (Store.sameBeside_write _ _ _) (by decide)
  | synced due deploymentFound fitting =>
      exact Store.evolves_replace SameAccess.refl (Store.mem_list_of_find? due.isFound) rfl rfl
  | deleted isFound marked present deletion =>
      exact Store.evolves_of_sameBeside SameAccess.refl deletion.sameBeside (by decide)
  | letGo isFound marked gone =>
      exact Store.evolves_supplant SameAccess.refl (Store.mem_list_of_find? isFound) rfl rfl
  | recorded due unnamed now =>
      exact Store.evolves_replace SameAccess.refl (Store.mem_list_of_find? due.isFound) rfl rfl

end Registration

namespace Store

variable {before middle after : Store} {keys : List ObjectKey}

/-- The registration under the key is that of none of the deployments. -/
def NamedByNone (store : Store) (keys : List ObjectKey) (other : ObjectKey) : Prop :=
  ∀ key ∈ keys, ∀ deployment : Deployment, store.find? .deployment key = some deployment →
    deployment.metadata.label? registrationLabel ≠ some other.text

/-- What reports of the deployments under the keys may have changed. -/
structure OnlyReports (keys : List ObjectKey) (before after : Store) : Prop where
  same : SameBeside .registration before after
  kept : ∀ key earlier, before.find? .registration key = some earlier →
    ∃ later, after.find? .registration key = some later ∧
      Registration.IsToldAgain earlier later
  absent : ∀ key, before.find? .registration key = none → after.find? .registration key = none
  unnamed : ∀ other, before.NamedByNone keys other →
    after.find? .registration other = before.find? .registration other

namespace OnlyReports

theorem refl (store : Store) : OnlyReports keys store store where
  same := .refl store
  kept _ earlier found := ⟨earlier, found, .refl earlier⟩
  absent _ absent := absent
  unnamed _ _ := rfl

theorem trans (first : OnlyReports keys before middle) (second : OnlyReports keys middle after) :
    OnlyReports keys before after where
  same := first.same.trans second.same
  kept key earlier found := by
    obtain ⟨between, betweenFound, toldFirst⟩ := first.kept key earlier found
    obtain ⟨later, laterFound, toldSecond⟩ := second.kept key between betweenFound
    exact ⟨later, laterFound, toldFirst.trans toldSecond⟩
  absent key absent := second.absent key (first.absent key absent)
  unnamed other named := by
    have stillNamed : middle.NamedByNone keys other := by
      intro key keyMem deployment found
      rw [first.same.find? (by decide)] at found
      exact named key keyMem deployment found
    rw [second.unnamed other stillNamed, first.unnamed other named]

end OnlyReports

end Store

namespace Deployment

variable {key : ObjectKey} {keys : List ObjectKey} {store after : Store}

/-- A report changes no object but the registration that the label of the deployment spells, and
of that one what reports tell. -/
theorem Report.onlyReports (written : Report key store after) (keyMem : key ∈ keys) :
    store.OnlyReports keys after where
  same := written.sameBeside
  kept other earlier found := by
    cases written with
    | @reported deployment realised label registrationKey registration _ _ _ _ registrationFound =>
        have present := Store.mem_list_of_find? registrationFound
        rw [Store.find?_write]
        split
        next isNext =>
          obtain rfl := Store.eq_of_keyText_eq present (Store.mem_list_of_find? found)
            (isNext.trans (Store.keyText_of_find? found).symm)
          exact ⟨_, rfl, Registration.isToldAgain_reported store _ deployment realised⟩
        next => exact ⟨earlier, found, .refl earlier⟩
  absent other absent := by
    cases written with
    | reported isFound named labelled spelled registrationFound =>
        have present := Store.mem_list_of_find? registrationFound
        rw [Store.find?_write, Store.keyText_restated,
          if_neg (Store.keyText_ne_of_find?_eq_none absent present), absent]
  unnamed other named := by
    cases written with
    | reported isFound _ labelled spelled registrationFound =>
        have different := named key keyMem _ isFound
        rw [labelled, ne_eq, Option.some.injEq, ← ObjectKey.text_of_ofText? spelled] at different
        exact Store.find?_restated_of_ne registrationFound different _

end Deployment

end TenantFleet
