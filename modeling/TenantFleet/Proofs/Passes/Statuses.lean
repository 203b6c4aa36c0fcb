import TenantFleet.Proofs.Runs.Reachable
import TenantFleet.Proofs.Store.Edit
import TenantFleet.Proofs.Store.Keeping

/-!
# Who changes which status

The passes go by three parts of what the statuses say: the instances that a
target hosts, the generation that a registration was seen at, and the instance
that a deployment names.  Each of the three is changed by some of the passes
only, in the way that is theirs; a user's write leaves every status as it is.
-/

namespace TenantFleet

/-- Who writes. -/
inductive Actor where
  | user
  | runtime
  | registrationPass
  | deploymentPass
  | statusReport
  | instancePass
  | targetPass
deriving DecidableEq, Repr

namespace Store

variable {store before after : Store} {actor : Actor} {kind : Kind} {key : ObjectKey}

/-- What is stored before and after has the status that it had. -/
def KeepsStatuses (before after : Store) : Prop :=
  ∀ kind key (object next : Object kind), before.find? kind key = some object →
    after.find? kind key = some next → next.status = object.status

/-- What becomes of the statuses that passes go by when an actor writes. -/
structure Accounts (actor : Actor) (before after : Store) : Prop where
  /-- The list of a target changes by a pass that places an instance or gives its place back. -/
  places : ∀ {key} {target next : Target}, before.find? .target key = some target →
    after.find? .target key = some next → next.status.assigned = target.status.assigned ∨
      (actor = .deploymentPass ∨ actor = .instancePass) ∧ ∃ instanceKey : ObjectKey,
        next.status = (target.assigning instanceKey).status ∨
          next.status = (target.releasing instanceKey).status
  /-- The pass on a registration notes the generation that it has seen. -/
  generations : ∀ {key} {registration next : Registration},
    before.find? .registration key = some registration →
      after.find? .registration key = some next →
        next.status.observedGeneration = registration.status.observedGeneration ∨
          actor = .registrationPass
  /-- The pass on a deployment notes its instance. -/
  references : ∀ {key} {deployment next : Deployment},
    before.find? .deployment key = some deployment → after.find? .deployment key = some next →
      next.status.instanceKey = deployment.status.instanceKey ∨ actor = .deploymentPass

theorem accounts_of_keepsStatuses (keeps : before.KeepsStatuses after) :
    before.Accounts actor after where
  places found foundAfter := .inl (congrArg _ (keeps _ _ _ _ found foundAfter))
  generations found foundAfter := .inl (congrArg _ (keeps _ _ _ _ found foundAfter))
  references found foundAfter := .inl (congrArg _ (keeps _ _ _ _ found foundAfter))

theorem isSome_find?_write (store : Store) (previous : Option (Object kind)) (next : Object kind)
    {read : Kind} (found : (store.find? read key).isSome = true) :
    ((store.write previous next).find? read key).isSome = true := by
  by_cases sameKind : read = kind
  · subst sameKind
    rw [find?_write]
    split
    · rfl
    · exact found
  · rwa [find?_write_of_ne store previous next sameKind]

theorem find?_supplant_eq_none {stored next : Object kind} (present : stored ∈ store.list kind)
    (sameText : next.keyText = stored.keyText) {read : Kind}
    (absent : store.find? read key = none) :
    (store.supplant stored (store.replacement stored next)).find? read key = none := by
  by_cases sameKind : read = kind
  · subst sameKind
    have otherText := keyText_ne_of_find?_eq_none absent present
    have nextText : (store.replacement stored next).keyText ≠ key.text :=
      fun isNext => otherText (sameText.symm.trans isNext)
    rw [find?_supplant_of_ne otherText nextText, absent]
  · rw [(sameBeside_supplant store stored _).find? sameKind, absent]

/-- The later version has the status of the earlier one. -/
def SameStatus (kind : Kind) (earlier later : Object kind) : Prop :=
  later.status = earlier.status

theorem keepsStatuses_create {next : Object kind} (absent : store.find? kind next.key = none) :
    store.KeepsStatuses (store.write none next) :=
  keeps_create SameStatus (fun _ _ => rfl) absent

theorem keepsStatuses_replace {stored next : Object kind} (present : stored ∈ store.list kind)
    (sameText : next.keyText = stored.keyText) (sameStatus : next.status = stored.status) :
    store.KeepsStatuses (store.write (some stored) next) :=
  keeps_replace SameStatus (fun _ _ => rfl) present sameText sameStatus

theorem keepsStatuses_supplant {stored next : Object kind} (present : stored ∈ store.list kind)
    (sameText : next.keyText = stored.keyText) :
    store.KeepsStatuses (store.supplant stored (store.replacement stored next)) :=
  keeps_supplant SameStatus (fun _ _ => rfl) present sameText rfl

theorem Deletion.keepsStatuses {stored : Object kind} (deletion : store.Deletion stored after)
    (present : stored ∈ store.list kind) : store.KeepsStatuses after :=
  deletion.keeps SameStatus (fun _ _ => rfl) present fun _ => rfl

theorem find?_of_restated {stored object next : Object kind} {status : kind.Status}
    (present : stored ∈ store.list kind) (found : store.find? kind key = some object)
    (foundAfter : (store.write (some stored) (store.restated stored status)).find? kind key =
      some next) : object = stored ∧ next.status = status ∨ next = object := by
  rcases find?_of_write foundAfter with ⟨isNext, rfl⟩ | still
  · obtain rfl := eq_of_keyText_eq (mem_list_of_find? found) present
      ((keyText_of_find? found).trans isNext.symm)
    exact .inl ⟨rfl, rfl⟩
  · rw [found] at still
    exact .inr (Option.some.inj still).symm

theorem find?_of_restated_of_ne {stored : Object kind} {status : kind.Status} {read : Kind}
    {object next : Object read} (different : read ≠ kind)
    (found : store.find? read key = some object)
    (foundAfter : (store.write (some stored) (store.restated stored status)).find? read key =
      some next) : next = object := by
  rw [find?_write_of_ne _ _ _ different, found] at foundAfter
  exact (Option.some.inj foundAfter).symm

theorem accounts_of_target {stored : Target} {status : TargetStatus}
    (present : stored ∈ store.list .target)
    (allowed : status.assigned = stored.status.assigned ∨
      (actor = .deploymentPass ∨ actor = .instancePass) ∧ ∃ instanceKey : ObjectKey,
        status = (stored.assigning instanceKey).status ∨
          status = (stored.releasing instanceKey).status) :
    store.Accounts actor (store.write (some stored) (store.restated stored status)) where
  places found foundAfter := by
    rcases find?_of_restated present found foundAfter with ⟨rfl, rfl⟩ | rfl
    · exact allowed
    · exact .inl rfl
  generations found foundAfter := by
    exact .inl (find?_of_restated_of_ne (by decide) found foundAfter ▸ rfl)
  references found foundAfter := by
    exact .inl (find?_of_restated_of_ne (by decide) found foundAfter ▸ rfl)

theorem accounts_of_registration {stored : Registration} {status : RegistrationStatus}
    (present : stored ∈ store.list .registration)
    (allowed : status.observedGeneration = stored.status.observedGeneration ∨
      actor = .registrationPass) :
    store.Accounts actor (store.write (some stored) (store.restated stored status)) where
  places found foundAfter := by
    exact .inl (find?_of_restated_of_ne (by decide) found foundAfter ▸ rfl)
  generations found foundAfter := by
    rcases find?_of_restated present found foundAfter with ⟨rfl, rfl⟩ | rfl
    · exact allowed
    · exact .inl rfl
  references found foundAfter := by
    exact .inl (find?_of_restated_of_ne (by decide) found foundAfter ▸ rfl)

theorem accounts_of_deployment {stored : Deployment} {status : DeploymentStatus}
    (present : stored ∈ store.list .deployment)
    (allowed : status.instanceKey = stored.status.instanceKey ∨ actor = .deploymentPass) :
    store.Accounts actor (store.write (some stored) (store.restated stored status)) where
  places found foundAfter := by
    exact .inl (find?_of_restated_of_ne (by decide) found foundAfter ▸ rfl)
  generations found foundAfter := by
    exact .inl (find?_of_restated_of_ne (by decide) found foundAfter ▸ rfl)
  references found foundAfter := by
    rcases find?_of_restated present found foundAfter with ⟨rfl, rfl⟩ | rfl
    · exact allowed
    · exact .inl rfl

theorem accounts_of_instance (stored : TenantInstance) (status : InstanceStatus) :
    store.Accounts actor (store.write (some stored) (store.restated stored status)) where
  places found foundAfter := by
    exact .inl (find?_of_restated_of_ne (by decide) found foundAfter ▸ rfl)
  generations found foundAfter := by
    exact .inl (find?_of_restated_of_ne (by decide) found foundAfter ▸ rfl)
  references found foundAfter := by
    exact .inl (find?_of_restated_of_ne (by decide) found foundAfter ▸ rfl)

end Store

variable {store after : Store} {key : ObjectKey}

theorem Registration.Write.accounts (written : Registration.Write key store after) :
    store.Accounts .registrationPass after := by
  cases written with
  | held isFound unmarked unheld =>
      exact Store.accounts_of_keepsStatuses
        (Store.keepsStatuses_supplant (Store.mem_list_of_find? isFound)
          (congrArg ObjectKey.text (Object.key_hold _)))
  | spaced isFound absent now =>
      exact Store.accounts_of_keepsStatuses (Store.keepsStatuses_create absent)
  | derived due absent now =>
      exact Store.accounts_of_keepsStatuses (Store.keepsStatuses_create absent)
  | carried due deploymentFound lasting =>
      exact Store.accounts_of_keepsStatuses
        (Store.keepsStatuses_replace (Store.mem_list_of_find? deploymentFound) rfl rfl)
  | synced due deploymentFound fitting =>
      exact Store.accounts_of_registration (Store.mem_list_of_find? due.isFound) (.inr rfl)
  | deleted isFound marked present deletion =>
      exact Store.accounts_of_keepsStatuses (deletion.keepsStatuses present)
  | letGo isFound marked gone =>
      exact Store.accounts_of_keepsStatuses
        (Store.keepsStatuses_supplant (Store.mem_list_of_find? isFound) rfl)
  | recorded due unnamed now =>
      exact Store.accounts_of_registration (Store.mem_list_of_find? due.isFound) (.inr rfl)

theorem Deployment.Write.accounts (written : Deployment.Write key store after) :
    store.Accounts .deploymentPass after := by
  cases written with
  | held isFound unmarked unheld =>
      exact Store.accounts_of_keepsStatuses
        (Store.keepsStatuses_supplant (Store.mem_list_of_find? isFound)
          (congrArg ObjectKey.text (Object.key_hold _)))
  | created isFound unmarked isHeld vacant isNew =>
      obtain ⟨rules, target, id, suffix, now, -, -, -, absent⟩ := isNew
      exact Store.accounts_of_keepsStatuses (Store.keepsStatuses_create absent)
  | renewed isFound realises unmarked =>
      exact Store.accounts_of_keepsStatuses (Store.keepsStatuses_replace realises.1 rfl rfl)
  | placed isFound realises unmarked targetFound unhosted =>
      exact Store.accounts_of_target (Store.mem_list_of_find? targetFound)
        (.inr ⟨.inl rfl, _, .inl rfl⟩)
  | settled isFound realises =>
      exact Store.accounts_of_deployment (Store.mem_list_of_find? isFound) (.inr rfl)
  | cleared isFound marked vacant =>
      exact Store.accounts_of_deployment (Store.mem_list_of_find? isFound) (.inr rfl)
  | letGo isFound marked vacant =>
      exact Store.accounts_of_keepsStatuses
        (Store.keepsStatuses_supplant (Store.mem_list_of_find? isFound) rfl)
  | released isFound realises unheld targetFound hosts =>
      exact Store.accounts_of_target (Store.mem_list_of_find? targetFound)
        (.inr ⟨.inl rfl, _, .inr rfl⟩)
  | deleted isFound marked realises unmarked deletion =>
      exact Store.accounts_of_keepsStatuses (deletion.keepsStatuses realises.1)
  | recorded isFound record =>
      exact Store.accounts_of_deployment (Store.mem_list_of_find? isFound) (.inr rfl)

theorem Deployment.Report.accounts (written : Deployment.Report key store after) :
    store.Accounts .statusReport after := by
  cases written with
  | reported isFound named labelled spelled registrationFound =>
      exact Store.accounts_of_registration (Store.mem_list_of_find? registrationFound) (.inl rfl)

theorem TenantInstance.Write.accounts (written : TenantInstance.Write key store after) :
    store.Accounts .instancePass after := by
  cases written with
  | held isFound unmarked unheld =>
      exact Store.accounts_of_keepsStatuses
        (Store.keepsStatuses_supplant (Store.mem_list_of_find? isFound)
          (congrArg ObjectKey.text (Object.key_hold _)))
  | released isFound marked isHeld targetFound hosts =>
      exact Store.accounts_of_target (Store.mem_list_of_find? targetFound)
        (.inr ⟨.inr rfl, _, .inr rfl⟩)
  | letGo isFound marked isHeld released =>
      exact Store.accounts_of_keepsStatuses
        (Store.keepsStatuses_supplant (Store.mem_list_of_find? isFound) rfl)
  | recorded isFound record => exact Store.accounts_of_instance _ _

/-- Publishing places does not change who has one. -/
theorem Target.Write.accounts (written : Target.Write key store after) :
    store.Accounts .targetPass after := by
  cases written with
  | published isFound stale =>
      exact Store.accounts_of_target (Store.mem_list_of_find? isFound) (.inl rfl)

end TenantFleet
