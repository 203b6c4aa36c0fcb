import TenantFleet.Proofs.Isolation.Passes
import TenantFleet.Proofs.Passes.Statuses

/-!
# Why the status of a registration changes

In an isolated store a registration has another status after a write for one of
three reasons: its own pass has seen its generation, its own pass has failed for
the want of a name, or a deployment and an instance of its own namespace were
reported to it.  A registration that is new has said nothing yet.
-/

namespace TenantFleet

/-- What one write may make of the status of a registration, by what is stored in its namespace. -/
inductive Registration.Cause (store : Store) (registration : Registration) :
    RegistrationStatus → Prop
  | kept : Cause store registration registration.status
  | synced : Cause store registration (registration.syncedStatus registration.key)
  | unnamed {failure : PassFailure} (lacking : registration.LacksName failure) (now : Nat) :
      Cause store registration
        { registration.status with
          lastError := some (failure.record registration.status.lastError now) }
  | reported {deployment : Deployment} {realised : TenantInstance}
      (deploymentStored : deployment ∈ store.list .deployment)
      (instanceStored : realised ∈ store.list .tenantInstance)
      (ownDeployment : deployment.key.scope = registration.key.scope)
      (ownInstance : realised.key.scope = registration.key.scope) :
      Cause store registration (registration.reportedStatus deployment realised)

namespace Store

/-- The statuses of registrations change for reasons of their own namespaces. -/
structure ChangesAtHome (before after : Store) : Prop where
  stored : ∀ {key} {registration next : Registration},
    before.find? .registration key = some registration →
      after.find? .registration key = some next → registration.Cause before next.status
  new : ∀ {key} {next : Registration}, before.find? .registration key = none →
    after.find? .registration key = some next → next.status = {}

variable {store after : Store} {kind : Kind}

theorem changesAtHome_of_same
    (same : ∀ key, after.find? .registration key = store.find? .registration key) :
    store.ChangesAtHome after where
  stored found foundAfter := by
    rw [same, found] at foundAfter
    exact Option.some.inj foundAfter ▸ .kept
  new absent foundAfter := by
    rw [same, absent] at foundAfter
    contradiction

theorem SameBeside.changesAtHome (same : SameBeside kind store after)
    (other : Kind.registration ≠ kind) : store.ChangesAtHome after :=
  changesAtHome_of_same (same.find? other)

theorem changesAtHome_restated {stored : Registration} {status : RegistrationStatus}
    (present : stored ∈ store.list .registration) (cause : stored.Cause store status) :
    store.ChangesAtHome (store.write (some stored) (store.restated stored status)) where
  stored found foundAfter := by
    rcases find?_of_restated present found foundAfter with ⟨rfl, rfl⟩ | rfl
    · exact cause
    · exact .kept
  new absent foundAfter := by
    rcases find?_of_write foundAfter with ⟨isNext, -⟩ | still
    · rw [keyText_restated] at isNext
      exact absurd isNext (keyText_ne_of_find?_eq_none absent present)
    · rw [absent] at still
      contradiction

theorem changesAtHome_supplant {stored next : Object kind} (present : stored ∈ store.list kind)
    (sameText : next.keyText = stored.keyText) :
    store.ChangesAtHome (store.supplant stored (store.replacement stored next)) where
  stored found foundAfter :=
    keepsStatuses_supplant present sameText _ _ _ _ found foundAfter ▸ .kept
  new absent foundAfter := by
    rw [find?_supplant_eq_none present sameText absent] at foundAfter
    contradiction

theorem changesAtHome_create {next : Object kind} (absent : store.find? kind next.key = none)
    (blank : next.status = kind.initialStatus) :
    store.ChangesAtHome (store.write none next) where
  stored found foundAfter := keepsStatuses_create absent _ _ _ _ found foundAfter ▸ .kept
  new unfound foundAfter := by
    by_cases isOne : Kind.registration = kind
    · subst isOne
      rcases find?_of_write foundAfter with ⟨-, rfl⟩ | still
      · exact blank
      · rw [unfound] at still
        contradiction
    · rw [find?_write_of_ne store none next isOne, unfound] at foundAfter
      contradiction

theorem Deletion.changesAtHome {stored : Object kind} (deletion : store.Deletion stored after)
    (present : stored ∈ store.list kind) : store.ChangesAtHome after where
  stored found foundAfter := deletion.keepsStatuses present _ _ _ _ found foundAfter ▸ .kept
  new {key next} absent foundAfter := by
    by_cases isOne : Kind.registration = kind
    · subst isOne
      have isStored := mem_list_of_find? foundAfter
      have sameText := keyText_of_find? foundAfter
      cases deletion with
      | purged free =>
          have wasStored := mem_list_of_mem_list_remove isStored
          exact absurd sameText (keyText_ne_of_find?_eq_none absent wasStored)
      | marked kept unmarked now =>
          rcases mem_list_write.1 isStored with rfl | ⟨wasStored, -⟩
          · have otherText : stored.keyText ≠ key.text := keyText_ne_of_find?_eq_none absent present
            exact absurd sameText otherText
          · exact absurd sameText (keyText_ne_of_find?_eq_none absent wasStored)
    · rw [deletion.sameBeside.find? isOne, absent] at foundAfter
      contradiction

end Store

variable {store after : Store} {deliveries : List Delivery} {key : ObjectKey}

theorem Registration.Write.changesAtHome (written : Registration.Write key store after)
    (isolated : store.IsIsolated deliveries) : store.ChangesAtHome after := by
  cases written with
  | held isFound unmarked unheld =>
      exact Store.changesAtHome_supplant (Store.mem_list_of_find? isFound)
        (congrArg ObjectKey.text (Object.key_hold _))
  | spaced isFound absent now => exact (Store.sameBeside_write _ _ _).changesAtHome (by decide)
  | derived due absent now =>
      exact (Store.sameBeside_write _ _ _).changesAtHome (by decide)
  | carried due deploymentFound lasting =>
      exact (Store.sameBeside_write _ _ _).changesAtHome (by decide)
  | @synced registration deployment due deploymentFound fitting =>
      have present := Store.mem_list_of_find? due.isFound
      have plain := isolated.plain .registration registration present
      have sameKey := isolated.eq_key_of_find? plain deploymentFound
      rw [sameKey]
      exact Store.changesAtHome_restated present .synced
  | deleted isFound marked present deletion => exact deletion.changesAtHome present
  | letGo isFound marked gone =>
      exact Store.changesAtHome_supplant (Store.mem_list_of_find? isFound) rfl
  | recorded due unnamed now =>
      exact Store.changesAtHome_restated (Store.mem_list_of_find? due.isFound)
        (.unnamed unnamed now)

theorem Deployment.Write.changesAtHome (written : Deployment.Write key store after) :
    store.ChangesAtHome after := by
  cases written with
  | held | letGo => exact (Store.sameBeside_supplant _ _ _).changesAtHome (by decide)
  | created | renewed | placed | settled | cleared | released | recorded =>
      exact (Store.sameBeside_write _ _ _).changesAtHome (by decide)
  | deleted isFound marked realises unmarked deletion =>
      exact deletion.changesAtHome realises.1

theorem Deployment.Report.changesAtHome (written : Deployment.Report key store after)
    (isolated : store.IsIsolated deliveries) : store.ChangesAtHome after := by
  cases written with
  | reported isFound named labelled spelled registrationFound =>
      have deploymentStored := Store.mem_list_of_find? isFound
      obtain ⟨ownInstance, ownDeployment⟩ := isolated.scopes_of_report deploymentStored named
        labelled spelled registrationFound
      obtain ⟨_, -, instanceFound⟩ := Option.bind_eq_some_iff.1 named
      exact Store.changesAtHome_restated (Store.mem_list_of_find? registrationFound)
        (.reported deploymentStored (Store.mem_list_of_find? instanceFound) ownDeployment
          ownInstance)

theorem TenantInstance.Write.changesAtHome (written : TenantInstance.Write key store after) :
    store.ChangesAtHome after := by
  cases written with
  | held | letGo => exact (Store.sameBeside_supplant _ _ _).changesAtHome (by decide)
  | released | recorded => exact (Store.sameBeside_write _ _ _).changesAtHome (by decide)

theorem Target.Write.changesAtHome (written : Target.Write key store after) :
    store.ChangesAtHome after := by
  cases written with
  | published => exact (Store.sameBeside_write _ _ _).changesAtHome (by decide)

theorem Resync.Write.changesAtHome (written : Resync.Write store after)
    (isolated : store.IsIsolated deliveries) : store.ChangesAtHome after := by
  cases written with
  | registration written => exact written.changesAtHome isolated
  | deployment written => exact written.changesAtHome
  | report written => exact written.changesAtHome isolated
  | tenantInstance written => exact written.changesAtHome
  | target written => exact written.changesAtHome

end TenantFleet
