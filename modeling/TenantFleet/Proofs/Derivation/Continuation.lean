import TenantFleet.Proofs.Runs.Reachable

/-!
# What writes carry on

A registration and the deployment that was derived from it are held to each
other by their keys, their specs, the label of the deployment and the generation
that the registration has seen.  Most writes carry all of these on.  Those of the
control plane that do not are of two sorts: the pass on a registration that is
due puts a deployment that fits in its place, or notes the generation that the
deployment under its key was derived from.
-/

namespace TenantFleet

namespace Object

variable {kind : Kind}

/-- The generation that a registration has seen; no other object sees generations. -/
def observedGeneration : {kind : Kind} → Object kind → Int
  | .registration, registration => registration.status.observedGeneration
  | .tenantSpace, _ | .target, _ | .deployment, _ | .tenantInstance, _ | .scheduling, _ => 0

/-- The later object is the earlier one as far as a registration and its deployment are concerned
with each other, and is marked for deletion if that was. -/
structure Continues (earlier later : Object kind) : Prop where
  key : later.key = earlier.key
  spec : later.spec = earlier.spec
  generation : later.metadata.generation = earlier.metadata.generation
  label : kind = .deployment →
    later.metadata.label? registrationLabel = earlier.metadata.label? registrationLabel
  observed : later.observedGeneration = earlier.observedGeneration
  stillMarked : earlier.isMarked = true → later.isMarked = true

theorem Continues.refl (object : Object kind) : object.Continues object :=
  ⟨rfl, rfl, rfl, fun _ => rfl, rfl, id⟩

variable (store : Store)

theorem continues_stamped (stored : Object kind) (now : Nat) :
    stored.Continues (store.stamped stored now) where
  key := rfl
  spec := rfl
  generation := rfl
  label _ := rfl
  observed := by cases kind <;> rfl
  stillMarked _ := rfl

theorem continues_restated {stored : Object kind} {status : kind.Status}
    (sameObserved : ({ stored with status := status } : Object kind).observedGeneration =
      stored.observedGeneration) :
    stored.Continues (store.restated stored status) where
  key := rfl
  spec := rfl
  generation := rfl
  label _ := rfl
  observed := by cases kind <;> exact sameObserved
  stillMarked := id

/-- A version of the object in which the key, the spec and the label are the same. -/
theorem continues_replacement {stored next : Object kind} (sameKey : next.key = stored.key)
    (sameSpec : next.spec = stored.spec)
    (sameLabel : kind = .deployment → next.metadata.label? registrationLabel =
      stored.metadata.label? registrationLabel) :
    stored.Continues (store.replacement stored next) where
  key := sameKey
  spec := sameSpec
  generation := if_pos sameSpec.symm
  label := sameLabel
  observed := by cases kind <;> rfl
  stillMarked := id

end Object

namespace Store

variable {store after : Store} {kind : Kind}

/-- Every deployment and every registration carries on an earlier one. -/
structure Continues (before after : Store) : Prop where
  deployments : ∀ later ∈ after.list .deployment, ∃ earlier ∈ before.list .deployment,
    earlier.Continues later
  registrations : ∀ later ∈ after.list .registration, ∃ earlier ∈ before.list .registration,
    earlier.Continues later

theorem SameBeside.continues (same : SameBeside kind store after)
    (notDeployment : Kind.deployment ≠ kind) (notRegistration : Kind.registration ≠ kind) :
    store.Continues after where
  deployments later laterMem := by
    rw [same.list notDeployment] at laterMem
    exact ⟨later, laterMem, .refl later⟩
  registrations later laterMem := by
    rw [same.list notRegistration] at laterMem
    exact ⟨later, laterMem, .refl later⟩

/-- What holds of a kind of objects one by one holds of a store. -/
theorem continues_of_forall (carriedOn : ∀ read : Kind, ∀ later ∈ after.list read,
    ∃ earlier ∈ store.list read, earlier.Continues later) : store.Continues after :=
  ⟨carriedOn .deployment, carriedOn .registration⟩

theorem continues_write {stored next : Object kind} (present : stored ∈ store.list kind)
    (carriesOn : stored.Continues next) : store.Continues (store.write (some stored) next) := by
  refine continues_of_forall fun read later laterMem => ?_
  by_cases sameKind : read = kind
  · subst sameKind
    rcases mem_list_write.1 laterMem with rfl | ⟨wasStored, -⟩
    · exact ⟨stored, present, carriesOn⟩
    · exact ⟨later, wasStored, .refl later⟩
  · rw [list_write_of_ne _ _ _ sameKind] at laterMem
    exact ⟨later, laterMem, .refl later⟩

theorem continues_remove (store : Store) (current : Object kind) :
    store.Continues (store.remove current) :=
  continues_of_forall fun _ later laterMem =>
    ⟨later, mem_list_of_mem_list_remove laterMem, .refl later⟩

theorem continues_supplant_of_spent {stored next : Object kind} (spent : isSpent next = true) :
    store.Continues (store.supplant stored next) := by
  rw [supplant_of_spent spent]
  refine continues_of_forall fun read later laterMem => ?_
  rw [list_with_lastVersion] at laterMem
  exact ⟨later, mem_list_of_mem_list_remove laterMem, .refl later⟩

theorem continues_supplant {stored next : Object kind} (present : stored ∈ store.list kind)
    (carriesOn : stored.Continues next) : store.Continues (store.supplant stored next) := by
  cases spent : isSpent next with
  | true => exact continues_supplant_of_spent spent
  | false =>
      rw [supplant_of_kept spent]
      exact continues_write present carriesOn

theorem continues_hold {stored : Object kind} (present : stored ∈ store.list kind) :
    store.Continues (store.supplant stored (store.replacement stored stored.hold)) :=
  continues_supplant present
    (Object.continues_replacement store stored.key_hold rfl fun _ => by simp [Metadata.label?])

theorem continues_letGo {stored : Object kind} (present : stored ∈ store.list kind) :
    store.Continues (store.supplant stored (store.replacement stored stored.letGo)) :=
  continues_supplant present (Object.continues_replacement store rfl rfl fun _ => rfl)

theorem Deletion.continues {stored : Object kind} (deletion : store.Deletion stored after)
    (present : stored ∈ store.list kind) : store.Continues after := by
  cases deletion with
  | purged free => exact continues_remove store stored
  | marked kept unmarked now =>
      exact continues_write present (Object.continues_stamped store stored now)

theorem continues_restated {stored : Object kind} {status : kind.Status}
    (present : stored ∈ store.list kind)
    (sameObserved : ({ stored with status := status } : Object kind).observedGeneration =
      stored.observedGeneration) :
    store.Continues (store.write (some stored) (store.restated stored status)) :=
  continues_write present (Object.continues_restated store sameObserved)

end Store

variable {store after : Store} {key : ObjectKey}

/-- What the pass on a registration that is due does to that and to its deployment. -/
inductive Registration.Advance (key : ObjectKey) (store : Store) : Store → Prop
  | supplied {registration : Registration} {previous : Option Deployment} {next : Deployment}
      (due : IsDue store key registration)
      (isPrevious : store.find? .deployment registration.key = previous)
      (lasting : ∀ existing, previous = some existing → existing.isMarked = false)
      (fitting : IsFitting registration next) : Advance key store (store.write previous next)
  | synced {registration : Registration} {deployment : Deployment}
      (due : IsDue store key registration)
      (deploymentFound : store.find? .deployment registration.key = some deployment)
      (fitting : IsFitting registration deployment) :
      Advance key store
        (store.write (some registration)
          (store.restated registration (registration.syncedStatus deployment.key)))

theorem Registration.Write.continues_or_advance (written : Registration.Write key store after) :
    store.Continues after ∨ Advance key store after := by
  cases written with
  | held isFound unmarked unheld =>
      exact .inl (Store.continues_hold (Store.mem_list_of_find? isFound))
  | spaced isFound absent now =>
      exact .inl ((Store.sameBeside_write _ _ _).continues (by decide) (by decide))
  | derived due absent now =>
      exact .inr (.supplied due absent (fun _ _ => by contradiction) (isFitting_new store _ now))
  | carried due deploymentFound lasting =>
      refine .inr (.supplied due deploymentFound (fun other isOther => ?_)
        (isFitting_carried store _ (Store.keyText_of_find? deploymentFound) lasting))
      exact Option.some.inj isOther ▸ lasting
  | synced due deploymentFound fitting => exact .inr (.synced due deploymentFound fitting)
  | deleted isFound marked present deletion => exact .inl (deletion.continues present)
  | letGo isFound marked gone =>
      exact .inl (Store.continues_letGo (Store.mem_list_of_find? isFound))
  | recorded due unnamed now =>
      exact .inl (Store.continues_restated (Store.mem_list_of_find? due.isFound) rfl)

theorem Deployment.Write.continues (written : Deployment.Write key store after) :
    store.Continues after := by
  cases written with
  | held isFound unmarked unheld => exact Store.continues_hold (Store.mem_list_of_find? isFound)
  | created | renewed | placed | released =>
      exact (Store.sameBeside_write _ _ _).continues (by decide) (by decide)
  | settled isFound realises =>
      exact Store.continues_restated (Store.mem_list_of_find? isFound) rfl
  | cleared isFound marked vacant =>
      exact Store.continues_restated (Store.mem_list_of_find? isFound) rfl
  | letGo isFound marked vacant => exact Store.continues_letGo (Store.mem_list_of_find? isFound)
  | deleted isFound marked realises unmarked deletion => exact deletion.continues realises.1
  | recorded isFound record =>
      exact Store.continues_restated (Store.mem_list_of_find? isFound) rfl

theorem Deployment.Report.continues (written : Deployment.Report key store after) :
    store.Continues after := by
  cases written with
  | reported isFound named labelled spelled registrationFound =>
      exact Store.continues_restated (Store.mem_list_of_find? registrationFound) rfl

theorem TenantInstance.Write.continues (written : TenantInstance.Write key store after) :
    store.Continues after := by
  cases written with
  | held isFound unmarked unheld => exact Store.continues_hold (Store.mem_list_of_find? isFound)
  | letGo isFound marked isHeld released =>
      exact Store.continues_letGo (Store.mem_list_of_find? isFound)
  | released | recorded =>
      exact (Store.sameBeside_write _ _ _).continues (by decide) (by decide)

theorem Target.Write.continues (written : Target.Write key store after) :
    store.Continues after := by
  cases written with
  | published => exact (Store.sameBeside_write _ _ _).continues (by decide) (by decide)

theorem Resync.Write.continues_or_advance (written : Resync.Write store after) :
    store.Continues after ∨ ∃ key, Registration.Advance key store after := by
  cases written with
  | @registration key _ written =>
      exact written.continues_or_advance.imp_right fun advance => ⟨key, advance⟩
  | deployment written => exact .inl written.continues
  | report written => exact .inl written.continues
  | tenantInstance written => exact .inl written.continues
  | target written => exact .inl written.continues

/-- Documents aside, every write of an action is of one of the two sorts. -/
theorem Action.Write.applied_or_continues_or_advance {action : Action}
    (written : action.Write store after) :
    (∃ manifest, action = .apply manifest ∧ manifest.Write store after) ∨
      store.Continues after ∨ ∃ key, Registration.Advance key store after := by
  cases written with
  | apply written => exact .inl ⟨_, rfl, written⟩
  | delete present sameText deletion => exact .inr (.inl (deletion.continues present))
  | report present sameText =>
      exact .inr (.inl ((Store.sameBeside_write _ _ _).continues (by decide) (by decide)))
  | forget present sameText => exact .inr (.inl (Store.continues_restated present rfl))
  | @reconcileRegistration key _ _ written =>
      exact .inr (written.continues_or_advance.imp_right fun advance => ⟨key, advance⟩)
  | reconcileDeployment written => exact .inr (.inl written.continues)
  | reconcileInstance written => exact .inr (.inl written.continues)
  | reconcileTarget written => exact .inr (.inl written.continues)
  | syncStatus written => exact .inr (.inl written.continues)
  | tick written => exact .inr written.continues_or_advance

end TenantFleet
