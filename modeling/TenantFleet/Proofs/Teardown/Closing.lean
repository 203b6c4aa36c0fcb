import TenantFleet.Proofs.Ledger.Tick
import TenantFleet.Proofs.Runs.Edits

/-!
# Closing stores

A store is closing when every registration and every deployment in it is marked
for deletion.  In a closing store the passes make nothing but namespaces, and
what is marked stays marked, so each write narrows the store: it stays closing,
and a kind of which there is no object stays without.
-/

namespace TenantFleet

namespace Store

variable {before middle after store : Store} {kind : Kind}

/-- Every object of the later store, unless it is a namespace, was there before under its key, and
is marked if it was. -/
def Narrows (before after : Store) : Prop :=
  ∀ kind, kind ≠ .tenantSpace → ∀ object ∈ after.list kind, ∃ earlier ∈ before.list kind,
    earlier.key = object.key ∧ (earlier.isMarked = true → object.isMarked = true)

theorem Narrows.refl (store : Store) : store.Narrows store :=
  fun _ _ object present => ⟨object, present, rfl, id⟩

theorem Narrows.trans (first : before.Narrows middle) (second : middle.Narrows after) :
    before.Narrows after := by
  intro kind other object present
  obtain ⟨between, betweenPresent, sameKey, stillMarked⟩ := second kind other object present
  obtain ⟨earlier, earlierPresent, sameKey', stillMarked'⟩ :=
    first kind other between betweenPresent
  exact ⟨earlier, earlierPresent, sameKey'.trans sameKey, stillMarked ∘ stillMarked'⟩

theorem Narrows.list_eq_nil (narrows : before.Narrows after) (other : kind ≠ .tenantSpace)
    (empty : before.list kind = []) : after.list kind = [] := by
  refine List.eq_nil_iff_forall_not_mem.2 fun object present => ?_
  obtain ⟨earlier, earlierPresent, -⟩ := narrows kind other object present
  rw [empty] at earlierPresent
  exact List.not_mem_nil earlierPresent

theorem Narrows.all_marked (narrows : before.Narrows after) (other : kind ≠ .tenantSpace)
    (marked : ∀ object ∈ before.list kind, object.isMarked = true) :
    ∀ object ∈ after.list kind, object.isMarked = true := by
  intro object present
  obtain ⟨earlier, earlierPresent, -, stillMarked⟩ := narrows kind other object present
  exact stillMarked (marked earlier earlierPresent)

/-- A change of objects of one kind narrows the store when it narrows that kind. -/
theorem narrows_of_sameBeside (same : SameBeside kind before after)
    (narrowed : ∀ object ∈ after.list kind, ∃ earlier ∈ before.list kind,
      earlier.key = object.key ∧ (earlier.isMarked = true → object.isMarked = true)) :
    before.Narrows after := by
  intro read other object present
  by_cases sameKind : read = kind
  · subst sameKind
    exact narrowed object present
  · rw [same.list sameKind] at present
    exact ⟨object, present, rfl, id⟩

theorem narrows_write {stored next : Object kind} (present : stored ∈ store.list kind)
    (sameKey : next.key = stored.key)
    (stillMarked : stored.isMarked = true → next.isMarked = true) :
    store.Narrows (store.write (some stored) next) := by
  refine narrows_of_sameBeside (sameBeside_write store _ next) fun object isWritten => ?_
  rcases mem_list_write.1 isWritten with rfl | ⟨wasPresent, -⟩
  · exact ⟨stored, present, sameKey.symm, stillMarked⟩
  · exact ⟨object, wasPresent, rfl, id⟩

theorem narrows_remove (store : Store) (current : Object kind) :
    store.Narrows (store.remove current) :=
  narrows_of_sameBeside (sameBeside_remove store current) fun object present =>
    ⟨object, (mem_list_remove.1 present).1, rfl, id⟩

theorem narrows_supplant {stored next : Object kind} (present : stored ∈ store.list kind)
    (sameKey : next.key = stored.key) :
    store.Narrows (store.supplant stored (store.replacement stored next)) := by
  unfold supplant
  split
  · exact narrows_remove store stored
  · exact narrows_write present sameKey id

theorem narrows_restated {stored : Object kind} (present : stored ∈ store.list kind)
    (status : kind.Status) :
    store.Narrows (store.write (some stored) (store.restated stored status)) :=
  narrows_write present rfl id

theorem Deletion.narrows {stored : Object kind} (deletion : store.Deletion stored after)
    (present : stored ∈ store.list kind) : store.Narrows after := by
  cases deletion with
  | purged free => exact narrows_remove store stored
  | marked kept unmarked now => exact narrows_write present rfl fun _ => rfl

theorem narrows_spaced (store : Store) (previous : Option TenantSpace) (next : TenantSpace) :
    store.Narrows (store.write previous next) := by
  intro read other object present
  rw [list_write_of_ne store previous next other] at present
  exact ⟨object, present, rfl, id⟩

/-- Every registration and every deployment is on its way out, in a store where what is marked is
held by something. -/
structure IsClosing (store : Store) : Prop where
  coherent : store.IsCoherent
  unspent : store.IsUnspent
  registrations : ∀ registration ∈ store.list .registration, registration.isMarked = true
  deployments : ∀ deployment ∈ store.list .deployment, deployment.isMarked = true

namespace IsClosing

variable {key : ObjectKey}

theorem registration_marked (closing : store.IsClosing) {registration : Registration}
    (isFound : store.find? .registration key = some registration) :
    registration.isMarked = true :=
  closing.registrations registration (mem_list_of_find? isFound)

theorem deployment_marked (closing : store.IsClosing) {deployment : Deployment}
    (isFound : store.find? .deployment key = some deployment) : deployment.isMarked = true :=
  closing.deployments deployment (mem_list_of_find? isFound)

end IsClosing

end Store

variable {store after : Store} {key : ObjectKey}

theorem Registration.Write.narrows (written : Registration.Write key store after)
    (closing : store.IsClosing) : store.Narrows after := by
  cases written with
  | held isFound unmarked unheld =>
      exact absurd unmarked (by simp [closing.registration_marked isFound])
  | spaced isFound absent now => exact Store.narrows_spaced store none _
  | derived due absent now =>
      exact absurd due.unmarked (by simp [closing.registration_marked due.isFound])
  | carried due deploymentFound lasting =>
      exact absurd due.unmarked (by simp [closing.registration_marked due.isFound])
  | synced due deploymentFound fitting =>
      exact absurd due.unmarked (by simp [closing.registration_marked due.isFound])
  | deleted isFound marked present deletion => exact deletion.narrows present
  | letGo isFound marked gone => exact Store.narrows_supplant (Store.mem_list_of_find? isFound) rfl
  | recorded due unnamed now => exact Store.narrows_restated (Store.mem_list_of_find? due.isFound) _

theorem Deployment.Write.narrows (written : Deployment.Write key store after)
    (closing : store.IsClosing) : store.Narrows after := by
  cases written with
  | held isFound unmarked unheld =>
      exact absurd unmarked (by simp [closing.deployment_marked isFound])
  | created isFound unmarked isHeld vacant isNew =>
      exact absurd unmarked (by simp [closing.deployment_marked isFound])
  | renewed isFound realises unmarked => exact Store.narrows_write realises.1 rfl id
  | placed isFound realises unmarked targetFound unhosted =>
      exact Store.narrows_restated (Store.mem_list_of_find? targetFound) _
  | settled isFound realises => exact Store.narrows_restated (Store.mem_list_of_find? isFound) _
  | cleared isFound marked vacant =>
      exact Store.narrows_restated (Store.mem_list_of_find? isFound) _
  | letGo isFound marked vacant =>
      exact Store.narrows_supplant (Store.mem_list_of_find? isFound) rfl
  | released isFound realises unheld targetFound hosts =>
      exact Store.narrows_restated (Store.mem_list_of_find? targetFound) _
  | deleted isFound marked realises unmarked deletion => exact deletion.narrows realises.1
  | recorded isFound record => exact Store.narrows_restated (Store.mem_list_of_find? isFound) _

theorem Deployment.Report.narrows (written : Deployment.Report key store after) :
    store.Narrows after := by
  cases written with
  | reported isFound named labelled spelled registrationFound =>
      exact Store.narrows_restated (Store.mem_list_of_find? registrationFound) _

theorem TenantInstance.Write.narrows (written : TenantInstance.Write key store after) :
    store.Narrows after := by
  cases written with
  | held isFound unmarked unheld =>
      exact Store.narrows_supplant (Store.mem_list_of_find? isFound) (Object.key_hold _)
  | released isFound marked isHeld targetFound hosts =>
      exact Store.narrows_restated (Store.mem_list_of_find? targetFound) _
  | letGo isFound marked isHeld released =>
      exact Store.narrows_supplant (Store.mem_list_of_find? isFound) rfl
  | recorded isFound record => exact Store.narrows_restated (Store.mem_list_of_find? isFound) _

theorem Target.Write.narrows (written : Target.Write key store after) : store.Narrows after := by
  cases written with
  | published isFound stale => exact Store.narrows_restated (Store.mem_list_of_find? isFound) _

theorem Resync.Write.narrows (written : Resync.Write store after) (closing : store.IsClosing) :
    store.Narrows after := by
  cases written with
  | registration written => exact written.narrows closing
  | deployment written => exact written.narrows closing
  | report written => exact written.narrows
  | tenantInstance written => exact written.narrows
  | target written => exact written.narrows

theorem Resync.Write.isClosing (written : Resync.Write store after) (closing : store.IsClosing) :
    after.IsClosing where
  coherent := written.isCoherent closing.coherent
  unspent := written.edit.isUnspent closing.unspent
  registrations := (written.narrows closing).all_marked (by decide) closing.registrations
  deployments := (written.narrows closing).all_marked (by decide) closing.deployments

/-- Whatever passes do to a closing store, it is closing in the end, and no wider than before. -/
theorem World.Through.closing {before after : World}
    (through : World.Through Resync.Write before after) (closing : before.store.IsClosing) :
    after.store.IsClosing ∧ before.store.Narrows after.store :=
  through.preserves (fun store => store.IsClosing ∧ before.store.Narrows store)
    (fun holds written =>
      ⟨written.isClosing holds.1, holds.2.trans (written.narrows holds.1)⟩)
    ⟨closing, .refl before.store⟩

end TenantFleet
