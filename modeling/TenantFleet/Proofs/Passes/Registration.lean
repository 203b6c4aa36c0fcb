import TenantFleet.Onboarding.Registration
import TenantFleet.Proofs.Passes.Running

/-!
# What the pass on a registration writes

The pass makes the namespace and the deployment of a registration that has the
finalizer, and brings the deployment in line; of a registration that is marked
for deletion it has the deployments deleted that bear its label, and takes the
finalizer off once the index has none.
-/

namespace TenantFleet

namespace Registration

/-- The failure is that the tenant's namespace or the registration's deployment would be without a
name. -/
inductive LacksName (registration : Registration) : PassFailure → Prop
  | space : LacksName registration ⟨.reconcile, .createNamespace, .store (.unnamed .tenantSpace "")⟩
  | deployment :
      LacksName registration
        ⟨.reconcile, .createDeployment, .store (.unnamed .deployment registration.key.scope)⟩

/-- The registration has something that the pass has yet to carry out. -/
structure IsDue (store : Store) (key : ObjectKey) (registration : Registration) : Prop where
  isFound : store.find? .registration key = some registration
  unmarked : registration.isMarked = false
  isHeld : registration.isHeld = true
  unseen : registration.status.observedGeneration ≠ registration.metadata.generation

/-- The deployment is the registration's, as that wants it. -/
structure IsFitting (registration : Registration) (deployment : Deployment) : Prop where
  sameText : deployment.keyText = registration.key.text
  lasting : deployment.isMarked = false
  sameSpec : deployment.spec = registration.derivedSpec
  labelled : deployment.metadata.hasLabel registrationLabel registration.key.text = true

/-- A write of the pass on the registration under `key`. -/
inductive Write (key : ObjectKey) (store : Store) : Store → Prop
  | held {found : Registration} (isFound : store.find? .registration key = some found)
      (unmarked : found.isMarked = false) (unheld : found.isHeld = false) :
      Write key store (store.supplant found (store.replacement found found.hold))
  | spaced {registration : Registration}
      (isFound : store.find? .registration key = some registration)
      (absent : store.find? .tenantSpace ⟨"", registration.key.scope⟩ = none) (now : Nat) :
      Write key store
        (store.write none
          (store.initialObject (tenantSpace registration.key.scope) registration.key.scope now))
  | derived {registration : Registration} (due : IsDue store key registration)
      (absent : store.find? .deployment registration.key = none) (now : Nat) :
      Write key store
        (store.write none
          (store.initialObject registration.newDeployment registration.key.name now))
  | carried {registration : Registration} {existing : Deployment}
      (due : IsDue store key registration)
      (deploymentFound : store.find? .deployment registration.key = some existing)
      (lasting : existing.isMarked = false) :
      Write key store
        (store.write (some existing)
          (store.replacement existing (registration.carriedInto existing)))
  | synced {registration : Registration} {deployment : Deployment}
      (due : IsDue store key registration)
      (deploymentFound : store.find? .deployment registration.key = some deployment)
      (fitting : IsFitting registration deployment) :
      Write key store
        (store.write (some registration)
          (store.restated registration (registration.syncedStatus deployment.key)))
  | deleted {registration : Registration} {deployment : Deployment} {after : Store}
      (isFound : store.find? .registration key = some registration)
      (marked : registration.isMarked = true) (present : deployment ∈ store.list .deployment)
      (deletion : store.Deletion deployment after) : Write key store after
  | letGo {registration : Registration}
      (isFound : store.find? .registration key = some registration)
      (marked : registration.isMarked = true)
      (gone : store.labelled .deployment registrationLabel registration.key.text = []) :
      Write key store
        (store.supplant registration (store.replacement registration registration.letGo))
  | recorded {registration : Registration} {failure : PassFailure}
      (due : IsDue store key registration) (unnamed : registration.LacksName failure) (now : Nat) :
      Write key store
        (store.write (some registration)
          (store.restated registration
            { registration.status with
              lastError := some (failure.record registration.status.lastError now) }))

/-- A write of the pass while the registration is not due. -/
def IdleWrite (key : ObjectKey) (store after : Store) : Prop :=
  Write key store after ∧ ∀ registration, ¬ IsDue store key registration

variable {key : ObjectKey} {world : World} {registration : Registration}

theorem idle_of_marked {store : Store}
    (isFound : store.find? .registration key = some registration)
    (marked : registration.isMarked = true) (other : Registration) :
    ¬ IsDue store key other := by
  intro due
  obtain rfl := Option.some.inj (isFound.symm.trans due.isFound)
  rw [due.unmarked] at marked
  contradiction

/-- A registration is due as long as registrations stay as they are. -/
theorem IsDue.of_sameBeside {store after : Store} {kind : Kind}
    (due : IsDue store key registration) (same : Store.SameBeside kind store after)
    (other : Kind.registration ≠ kind) : IsDue after key registration :=
  { due with isFound := (same.find? other key).trans due.isFound }

theorem through_provideTenantSpace
    (isFound : world.store.find? .registration key = some registration) :
    ∃ outcome after, (provideTenantSpace registration.key.scope).runOn world = (outcome, after) ∧
      World.Through (Write key) world after ∧
      Store.SameBeside .tenantSpace world.store after.store ∧
      ∀ failure, outcome = .error failure → registration.LacksName failure := by
  let space := tenantSpace registration.key.scope
  unfold provideTenantSpace
  rw [Pass.runOn_bind, Pass.runOn_attempt]
  cases done : world.store.create space world.clock.next world.suffixes.ahead with
  | error error =>
      rw [World.runOn_create_of_error done]
      simp only
      split
      next => exact ⟨_, _, rfl, .idle rfl rfl, .refl world.store, fun _ failed => by cases failed⟩
      next untaken =>
        refine ⟨_, _, rfl, .idle rfl rfl, .refl world.store, fun failure failed => ?_⟩
        cases failed
        rcases Store.refusal_of_create (by decide) rfl done with ⟨-, rfl⟩ | ⟨-, rfl⟩
        · exact .space
        · exact absurd rfl untaken
  | ok result =>
      obtain ⟨created, after⟩ := result
      rw [World.runOn_create_of_ok done]
      obtain ⟨name, named, rfl, absent, rfl⟩ := Store.stored_of_create done
      rcases Store.nameFor_eq_ok named with ⟨-, rfl⟩ | ⟨-, started, -⟩
      · exact ⟨_, _, rfl, .of_create (.spaced isFound absent world.clock.next),
          Store.sameBeside_write _ _ _, fun _ failed => by cases failed⟩
      · exact absurd rfl started

/-- A deployment that is given out is in the store and fits; there is a failure only for want of a
name. -/
structure Provides (key : ObjectKey) (registration : Registration) (world : World)
    (outcome : Except PassFailure (Option ObjectKey)) (after : World) : Prop where
  through : World.Through (Write key) world after
  same : Store.SameBeside .deployment world.store after.store
  lacks : ∀ failure, outcome = .error failure → registration.LacksName failure
  given : ∀ deploymentKey, outcome = .ok (some deploymentKey) → ∃ deployment : Deployment,
    after.store.find? .deployment registration.key = some deployment ∧
      IsFitting registration deployment ∧ deployment.key = deploymentKey

/-- The deployment that was given out is the one the pass has written. -/
theorem Provides.of_write {after : World} {deployment : Deployment} {previous : Option Deployment}
    (through : World.Through (Write key) world after)
    (written : after.store = world.store.write previous deployment)
    (fitting : IsFitting registration deployment) :
    Provides key registration world (.ok (some deployment.key)) after where
  through := through
  same := written ▸ Store.sameBeside_write _ _ _
  lacks _ failed := by cases failed
  given deploymentKey given := by
    cases given
    refine ⟨deployment, ?_, fitting, rfl⟩
    rw [written]
    exact (Store.find?_write _ _ _ _).trans (if_pos fitting.sameText)

theorem isFitting_new (store : Store) (registration : Registration) (now : Nat) :
    IsFitting registration
      (store.initialObject registration.newDeployment registration.key.name now) :=
  ⟨rfl, rfl, rfl, beq_iff_eq.2 (Labels.value?_set _ _ _)⟩

theorem isFitting_carried (store : Store) (registration : Registration) {existing : Deployment}
    (sameText : existing.keyText = registration.key.text) (lasting : existing.isMarked = false) :
    IsFitting registration
      (store.replacement existing (registration.carriedInto existing)) :=
  ⟨sameText, lasting, rfl, beq_iff_eq.2 (Labels.value?_set _ _ _)⟩

theorem provides_new (due : IsDue world.store key registration)
    (absent : world.store.find? .deployment registration.key = none) :
    ∃ outcome after, (do
        let created ← (World.create registration.newDeployment).during .reconcile .createDeployment
        return some created.key : Pass PassFailure (Option ObjectKey)).runOn world =
          (outcome, after) ∧ Provides key registration world outcome after := by
  rw [Pass.runOn_bind, Pass.runOn_during]
  cases done : world.store.create registration.newDeployment world.clock.next
      world.suffixes.ahead with
  | error error =>
      rw [World.runOn_create_of_error done]
      refine ⟨_, _, rfl, .idle rfl rfl, .refl world.store, fun failure failed => ?_,
        fun given failed => by cases failed⟩
      cases failed
      rcases Store.refusal_of_create (by decide) rfl done with ⟨-, rfl⟩ | ⟨taken, -⟩
      · exact .deployment
      · exact absurd absent taken
  | ok result =>
      obtain ⟨created, after⟩ := result
      rw [World.runOn_create_of_ok done]
      obtain ⟨name, named, rfl, -, rfl⟩ := Store.stored_of_create done
      rcases Store.nameFor_eq_ok named with ⟨-, rfl⟩ | ⟨-, started, -⟩
      · exact ⟨_, _, rfl,
          .of_write (.of_create (.derived due absent _)) rfl (isFitting_new _ _ _)⟩
      · exact absurd rfl started

theorem provides_carried {existing : Deployment} (due : IsDue world.store key registration)
    (found : world.store.find? .deployment registration.key = some existing)
    (lasting : existing.isMarked = false) :
    ∃ outcome after, (do
        let updated ← (World.update (registration.carriedInto existing)).during .reconcile
          .updateDeployment
        return some updated.key : Pass PassFailure (Option ObjectKey)).runOn world =
          (outcome, after) ∧ Provides key registration world outcome after := by
  rw [Pass.runOn_bind, Pass.runOn_during,
    World.runOn_update_of_mem (registration.carriedInto existing)
      (Store.mem_list_of_find? found) rfl rfl rfl,
    Store.supplant_of_unmarked lasting]
  have fitting := isFitting_carried world.store registration (Store.keyText_of_find? found) lasting
  exact ⟨_, _, rfl, .of_write (.of_commit (.carried due found lasting)) rfl fitting⟩

theorem through_provideDeployment (due : IsDue world.store key registration) :
    ∃ outcome after, (provideDeployment registration).runOn world = (outcome, after) ∧
      Provides key registration world outcome after := by
  unfold provideDeployment
  rw [Pass.runOn_readStore_bind]
  cases found : world.store.find? .deployment registration.key with
  | none => exact provides_new due found
  | some existing =>
      simp only
      split
      next =>
        exact ⟨_, _, rfl, .refl world, .refl world.store, fun _ failed => (by cases failed),
          fun given waiting => by cases waiting⟩
      next unmarkedDeployment =>
        have lasting : existing.isMarked = false := by simpa using unmarkedDeployment
        split
        next fits =>
          refine ⟨_, _, rfl, .refl world, .refl world.store, fun _ failed => (by cases failed),
            fun given same => ?_⟩
          cases same
          obtain ⟨sameSpec, labelled⟩ := Bool.and_eq_true_iff.1 fits
          exact ⟨existing, found, ⟨Store.keyText_of_find? found, lasting,
            of_decide_eq_true sameSpec, labelled⟩, rfl⟩
        next => exact provides_carried due found lasting

/-- Where the pass fails, the registration is still as it was. -/
theorem through_carryOut (due : IsDue world.store key registration) :
    ∃ outcome after, (carryOut registration).runOn world = (outcome, after) ∧
      World.Through (Write key) world after ∧
      ∀ failure, outcome = .error failure →
        IsDue after.store key registration ∧ registration.LacksName failure := by
  obtain ⟨provided, middle, spaced, toMiddle, sameSpaced, lacksSpace⟩ :=
    through_provideTenantSpace due.isFound
  have middleDue := due.of_sameBeside sameSpaced (by decide)
  unfold carryOut
  rw [Pass.runOn_bind, spaced]
  cases provided with
  | error failure =>
      exact ⟨_, _, rfl, toMiddle, fun _ failed => by
        cases failed
        exact ⟨middleDue, lacksSpace _ rfl⟩⟩
  | ok done =>
      obtain ⟨outcome, after, deployed, provides⟩ := through_provideDeployment middleDue
      have through := provides.through
      have afterDue := middleDue.of_sameBeside provides.same (by decide)
      simp only
      rw [Pass.runOn_bind, deployed]
      rcases outcome with failure | _ | deploymentKey
      · exact ⟨_, _, rfl, toMiddle.trans through, fun _ failed => by
          cases failed
          exact ⟨afterDue, provides.lacks _ rfl⟩⟩
      · exact ⟨_, _, rfl, toMiddle.trans through, fun _ failed => by cases failed⟩
      · obtain ⟨deployment, deploymentFound, fitting, rfl⟩ := provides.given deploymentKey rfl
        simp only
        rw [Pass.runOn_during_bind_of_ok
          (World.runOn_restate (Store.mem_list_of_find? afterDue.isFound) rfl _)]
        have toEnd := (toMiddle.trans through).trans
          (.of_commit (.synced afterDue deploymentFound fitting))
        exact ⟨_, _, rfl, toEnd, fun _ failed => by cases failed⟩

/-- The registration stays while deployments are deleted, so every write is one of its pass; what is
gone already does not count as a failure. -/
theorem through_deleteDeployments (deployments : List Deployment)
    (isFound : world.store.find? .registration key = some registration)
    (marked : registration.isMarked = true) :
    ∃ issued after, (deleteDeployments deployments).runOn world = (.ok issued, after) ∧
      World.Through (IdleWrite key) world after := by
  induction deployments generalizing world with
  | nil => exact ⟨_, _, rfl, .refl world⟩
  | cons deployment rest ih =>
      unfold deleteDeployments
      rw [Pass.runOn_bind, Pass.runOn_attempt]
      cases done : world.store.delete .deployment deployment.key world.clock.next with
      | error error =>
          rw [World.runOn_delete_of_error done]
          obtain rfl := Store.refusal_of_delete (by decide) done
          exact ih isFound
      | ok result =>
          obtain ⟨removal, after⟩ := result
          rw [World.runOn_delete_of_ok done]
          have first : World.Through (IdleWrite key) world (world.afterRemoval after removal) := by
            refine .of_delete done fun notPending => ?_
            rcases Store.deletion_of_delete done with
              ⟨pending, -⟩ | ⟨-, stored, present, -, deletion⟩
            · exact absurd pending notPending
            · exact ⟨.deleted isFound marked present deletion, idle_of_marked isFound marked⟩
          have stillFound :
              (world.afterRemoval after removal).store.find? .registration key =
                some registration := by
            rw [(World.sameBeside_afterRemoval done).find? (by decide), isFound]
          obtain ⟨issued, last, ran, later⟩ := ih stillFound
          simp only
          rw [Pass.runOn_discard_bind, Pass.runOn_bind, ran]
          exact ⟨_, _, rfl, first.trans later⟩

/-- A registration that is marked is wound down without fail. -/
theorem through_windDown (isFound : world.store.find? .registration key = some registration)
    (marked : registration.isMarked = true) :
    ∃ outcome after, (windDown registration).runOn world = (.ok outcome, after) ∧
      World.Through (IdleWrite key) world after := by
  unfold windDown
  rw [Pass.runOn_readStore_bind]
  simp only
  split
  next =>
    obtain ⟨issued, after, ran, through⟩ := through_deleteDeployments _ isFound marked
    rw [Pass.runOn_bind, ran]
    cases issued <;> exact ⟨_, _, rfl, through⟩
  next none =>
    have gone : world.store.labelled .deployment registrationLabel registration.key.text = [] := by
      simpa using none
    split
    · rw [Pass.runOn_during_bind_of_ok
        (World.runOn_letGo (Store.mem_list_of_find? isFound) rfl)]
      exact ⟨_, _, rfl, .of_commit ⟨.letGo isFound marked gone, idle_of_marked isFound marked⟩⟩
    · exact ⟨_, _, rfl, .refl world⟩

theorem through_recordFailure (due : IsDue world.store key registration)
    {failure : PassFailure} (unnamed : registration.LacksName failure) :
    World.Through (Write key) world (recordFailure key failure world).2 := by
  unfold recordFailure
  rw [World.readStore_bind]
  simp only [due.isFound]
  exact World.through_record (Store.mem_list_of_find? due.isFound) rfl (.recorded due unnamed _)

theorem runOn_reconcile_of_absent (absent : world.store.find? .registration key = none) :
    (reconcile key).runOn world = (.ok .notFound, world) := by
  unfold reconcile
  rw [Pass.runOn_readStore_bind, absent]
  rfl

theorem runOn_reconcile_of_unheld
    (isFound : world.store.find? .registration key = some registration)
    (unmarked : registration.isMarked = false) (unheld : registration.isHeld = false) :
    (reconcile key).runOn world =
      (.ok .finalizerAdded, world.commit (world.store.supplant registration
        (world.store.replacement registration registration.hold))) := by
  unfold reconcile
  rw [Pass.runOn_readStore_bind]
  simp only [isFound, unmarked, unheld, Bool.false_eq_true, if_false, Bool.not_false, if_true]
  rw [Pass.runOn_during_bind_of_ok (World.runOn_hold (Store.mem_list_of_find? isFound) rfl)]
  rfl

/-- The registration is there to stay, and the pass has seen what it asks for. -/
structure IsCarriedOut (registration : Registration) : Prop where
  unmarked : registration.isMarked = false
  isHeld : registration.isHeld = true
  isSeen : registration.status.observedGeneration = registration.metadata.generation

theorem IsCarriedOut.runOn_reconcile (carriedOut : IsCarriedOut registration)
    (isFound : world.store.find? .registration key = some registration) :
    (reconcile key).runOn world = (.ok .upToDate, world) := by
  unfold reconcile
  rw [Pass.runOn_readStore_bind]
  simp only [isFound, carriedOut.unmarked, carriedOut.isHeld, carriedOut.isSeen,
    Bool.false_eq_true, if_false, Bool.not_true, if_true]
  rfl

theorem IsDue.runOn_reconcile (due : IsDue world.store key registration) :
    (reconcile key).runOn world =
      ((carryOut registration).onFailure (recordFailure key)).runOn world := by
  unfold reconcile
  rw [Pass.runOn_readStore_bind]
  simp only [due.isFound, due.unmarked, due.isHeld, due.unseen, Bool.false_eq_true, if_false,
    Bool.not_true]

theorem IsDue.through_reconcile (due : IsDue world.store key registration) :
    World.Through (Write key) world ((reconcile key).runOn world).2 := by
  obtain ⟨outcome, after, ran, through, failing⟩ := through_carryOut due
  rw [due.runOn_reconcile, Pass.runOn_onFailure, ran]
  cases outcome with
  | ok outcome => exact through
  | error failure =>
      obtain ⟨stillDue, unnamed⟩ := failing failure rfl
      exact through.trans (through_recordFailure stillDue unnamed)

/-- A pass whose registration is not due does not make it due before its last write. -/
theorem through_reconcile_of_idle (idle : ∀ registration, ¬ IsDue world.store key registration) :
    World.Through (IdleWrite key) world ((reconcile key).runOn world).2 := by
  unfold reconcile
  rw [Pass.runOn_readStore_bind]
  cases isFound : world.store.find? .registration key with
  | none => exact .refl world
  | some found =>
      cases marked : Object.isMarked found <;> cases held : Object.isHeld found <;>
        simp only [marked, held, if_true, Bool.false_eq_true, if_false, Bool.not_true,
          Bool.not_false]
      case false.false =>
        rw [Pass.runOn_during_bind_of_ok (World.runOn_hold (Store.mem_list_of_find? isFound) rfl)]
        exact .of_commit ⟨.held isFound marked held, idle⟩
      case false.true =>
        split
        next => exact .refl world
        next unseen => exact absurd ⟨isFound, marked, held, unseen⟩ (idle found)
      all_goals
        obtain ⟨outcome, after, ran, through⟩ := through_windDown isFound marked
        rw [Pass.runOn_onFailure, ran]
        exact through

theorem through_reconcile (key : ObjectKey) (world : World) :
    World.Through (Write key) world ((reconcile key).runOn world).2 := by
  by_cases due : ∃ registration, IsDue world.store key registration
  · obtain ⟨registration, due⟩ := due
    exact due.through_reconcile
  · exact (through_reconcile_of_idle (not_exists.1 due)).mono And.left

theorem Write.sameBut {store after : Store} (written : Write key store after) :
    Store.SameBut [.tenantSpace, .deployment, .registration] store after := by
  cases written with
  | held | letGo => exact (Store.sameBeside_supplant _ _ _).sameBut (by decide)
  | spaced | derived | carried | synced | recorded =>
      exact (Store.sameBeside_write _ _ _).sameBut (by decide)
  | deleted isFound marked present deletion => exact deletion.sameBeside.sameBut (by decide)

/-- The pass on a registration leaves the others as they are. -/
theorem Write.find?_of_ne {store after : Store} (written : Write key store after)
    {other : ObjectKey} (different : key.text ≠ other.text) :
    after.find? .registration other = store.find? .registration other := by
  cases written with
  | held isFound => exact Store.find?_updated_of_ne isFound (Object.key_hold _) different
  | letGo isFound => exact Store.find?_updated_of_ne isFound rfl different
  | spaced | derived | carried => exact (Store.sameBeside_write _ _ _).find? (by decide) other
  | synced due | recorded due => exact Store.find?_restated_of_ne due.isFound different _
  | deleted isFound marked present deletion => exact deletion.sameBeside.find? (by decide) other

theorem find?_reconcile_of_ne {other : ObjectKey} (different : key.text ≠ other.text) :
    ((reconcile key).runOn world).2.store.find? .registration other =
      world.store.find? .registration other :=
  (through_reconcile key world).preserves
    (fun store => store.find? .registration other = world.store.find? .registration other)
    (fun same written => (written.find?_of_ne different).trans same) rfl

end Registration

end TenantFleet
