import TenantFleet.Proofs.Coherence.Passes
import TenantFleet.Proofs.Derivation.Continuation

/-!
# Marks are handed down

A registration that is marked for deletion has its deployments marked, and a
deployment its instances.  Apart from that the control plane marks nothing, and
it takes no mark back.  So where all that is marked has handed its mark down, no
pass marks anything more, and what was handed down stays so.
-/

namespace TenantFleet

namespace Store

variable {store before middle after : Store} {kind owners owned : Kind} {label text : String}

def LacksMarks (store : Store) (kind : Kind) : Prop :=
  ∀ object ∈ store.list kind, object.isMarked = false

/-- Every marked object of the kind was marked before. -/
def MarksNone (kind : Kind) (before after : Store) : Prop :=
  ∀ later ∈ after.list kind, later.isMarked = true →
    ∃ earlier ∈ before.list kind, earlier.key = later.key ∧ earlier.isMarked = true

/-- All objects of the kind that bear the label are marked. -/
def Ends (store : Store) (kind : Kind) (label text : String) : Prop :=
  ∀ object ∈ store.list kind, object.metadata.label? label = some text → object.isMarked = true

/-- What bears the label of a marked owner is marked. -/
def HandsDown (store : Store) (owners owned : Kind) (label : String) : Prop :=
  ∀ owner ∈ store.list owners, owner.isMarked = true → store.Ends owned label owner.keyText

namespace MarksNone

theorem refl (store : Store) : MarksNone kind store store :=
  fun later present marked => ⟨later, present, rfl, marked⟩

theorem trans (first : MarksNone kind before middle) (second : MarksNone kind middle after) :
    MarksNone kind before after := by
  intro later present marked
  obtain ⟨between, betweenPresent, sameKey, wasMarked⟩ := second later present marked
  obtain ⟨earlier, earlierPresent, sameKey', wasMarked'⟩ := first between betweenPresent wasMarked
  exact ⟨earlier, earlierPresent, sameKey'.trans sameKey, wasMarked'⟩

theorem of_through {sort : Store → Store → Prop} {first last : World}
    (through : World.Through sort first last)
    (marksNone : ∀ {before after : Store}, sort before after → MarksNone kind before after) :
    MarksNone kind first.store last.store :=
  through.preserves (MarksNone kind first.store)
    (fun earlier written => earlier.trans (marksNone written)) (.refl first.store)

/-- What is marked under a key was marked under it before. -/
theorem exists_found (marksNone : MarksNone kind before after) {key : ObjectKey}
    {later : Object kind} (isFound : after.find? kind key = some later)
    (marked : later.isMarked = true) :
    ∃ earlier, before.find? kind key = some earlier ∧ earlier.isMarked = true := by
  obtain ⟨earlier, present, sameKey, wasMarked⟩ :=
    marksNone later (mem_list_of_find? isFound) marked
  exact ⟨earlier, find?_eq_some_of_mem present
    ((congrArg ObjectKey.text sameKey).trans (keyText_of_find? isFound)), wasMarked⟩

/-- What was not marked under a key is not marked under it. -/
theorem unmarked_of_find? (marksNone : MarksNone kind before after) {key : ObjectKey}
    {earlier later : Object kind} (wasFound : before.find? kind key = some earlier)
    (unmarked : earlier.isMarked = false) (isFound : after.find? kind key = some later) :
    later.isMarked = false := by
  refine Bool.eq_false_iff.2 fun marked => ?_
  obtain ⟨other, isOther, wasMarked⟩ := marksNone.exists_found isFound marked
  obtain rfl := Option.some.inj (wasFound.symm.trans isOther)
  exact absurd wasMarked (by simp [unmarked])

theorem lacksMarks (marksNone : MarksNone kind before after) (lacks : before.LacksMarks kind) :
    after.LacksMarks kind := by
  intro object present
  refine Bool.eq_false_iff.2 fun marked => ?_
  obtain ⟨earlier, earlierPresent, -, wasMarked⟩ := marksNone object present marked
  exact absurd wasMarked (by simp [lacks earlier earlierPresent])

end MarksNone

theorem marksNone_of_list_eq (same : after.list kind = before.list kind) :
    MarksNone kind before after := by
  intro later present marked
  rw [same] at present
  exact ⟨later, present, rfl, marked⟩

theorem marksNone_write (previous : Option (Object kind)) {next : Object kind}
    (wasMarked : next.isMarked = true →
      ∃ stored ∈ store.list kind, stored.key = next.key ∧ stored.isMarked = true) :
    MarksNone kind store (store.write previous next) := by
  intro later present marked
  rcases mem_list_write.1 present with rfl | ⟨wasPresent, -⟩
  · exact wasMarked marked
  · exact ⟨later, wasPresent, rfl, marked⟩

theorem marksNone_restated {stored : Object kind} (present : stored ∈ store.list kind)
    (status : kind.Status) :
    MarksNone kind store (store.write (some stored) (store.restated stored status)) :=
  marksNone_write _ fun marked => ⟨stored, present, rfl, marked⟩

theorem marksNone_remove (store : Store) (current : Object kind) :
    MarksNone kind store (store.remove current) :=
  fun later present marked => ⟨later, (mem_list_remove.1 present).1, rfl, marked⟩

theorem marksNone_updated {stored next : Object kind} (present : stored ∈ store.list kind)
    (sameKey : next.key = stored.key) :
    MarksNone kind store (store.supplant stored (store.replacement stored next)) := by
  unfold supplant
  split
  · intro later isLater marked
    rw [list_with_lastVersion] at isLater
    exact marksNone_remove store stored later isLater marked
  · exact marksNone_write _ fun marked => ⟨stored, present, sameKey.symm, marked⟩

namespace Ends

theorem congr (ends : before.Ends kind label text) (same : after.list kind = before.list kind) :
    after.Ends kind label text := by
  intro object present
  rw [same] at present
  exact ends object present

theorem write (ends : store.Ends kind label text) (previous : Option (Object kind))
    {next : Object kind}
    (ofNext : next.metadata.label? label = some text → next.isMarked = true) :
    (store.write previous next).Ends kind label text := by
  intro object present
  rcases mem_list_write.1 present with rfl | ⟨wasPresent, -⟩
  · exact ofNext
  · exact ends object wasPresent

theorem remove (ends : store.Ends kind label text) (current : Object kind) :
    (store.remove current).Ends kind label text :=
  fun object present => ends object (mem_list_remove.1 present).1

theorem updated (ends : store.Ends kind label text) {stored next : Object kind}
    (present : stored ∈ store.list kind)
    (sameLabels : next.metadata.labels = stored.metadata.labels) :
    (store.supplant stored (store.replacement stored next)).Ends kind label text := by
  unfold supplant
  split
  · exact (ends.remove stored).congr (list_with_lastVersion _ _ _)
  · refine ends.write _ fun labelled => ends stored present ?_
    rwa [Metadata.label?, labels_replacement, sameLabels] at labelled

theorem deletion (ends : store.Ends kind label text) {stored : Object kind}
    (deletion : store.Deletion stored after) : after.Ends kind label text := by
  cases deletion with
  | purged free => exact ends.remove stored
  | marked kept unmarked now => exact ends.write _ fun _ => rfl

theorem continues (ends : before.Ends .deployment registrationLabel text)
    (continues : before.Continues after) : after.Ends .deployment registrationLabel text := by
  intro later present labelled
  obtain ⟨earlier, earlierPresent, same⟩ := continues.deployments later present
  exact same.stillMarked (ends earlier earlierPresent ((same.label rfl).symm.trans labelled))

end Ends

/-- Nothing of what is marked newly bears a label without being marked. -/
theorem HandsDown.of_marksNone (handsDown : before.HandsDown owners owned label)
    (marksNone : MarksNone owners before after)
    (stillEnds : ∀ owner ∈ before.list owners, owner.isMarked = true →
      before.Ends owned label owner.keyText → after.Ends owned label owner.keyText) :
    after.HandsDown owners owned label := by
  intro later present marked
  obtain ⟨earlier, earlierPresent, sameKey, wasMarked⟩ := marksNone later present marked
  have sameText : earlier.keyText = later.keyText := congrArg ObjectKey.text sameKey
  exact sameText ▸ stillEnds earlier earlierPresent wasMarked
    (handsDown earlier earlierPresent wasMarked)

theorem HandsDown.congr (handsDown : before.HandsDown owners owned label)
    (sameOwners : after.list owners = before.list owners)
    (sameOwned : after.list owned = before.list owned) : after.HandsDown owners owned label :=
  handsDown.of_marksNone (marksNone_of_list_eq sameOwners) fun _ _ _ ends => ends.congr sameOwned

end Store

variable {store after : Store} {key : ObjectKey} {text : String}

namespace Registration

theorem Write.marksNone (written : Registration.Write key store after) :
    Store.MarksNone .registration store after := by
  cases written with
  | held isFound =>
      exact Store.marksNone_updated (Store.mem_list_of_find? isFound) (Object.key_hold _)
  | letGo isFound => exact Store.marksNone_updated (Store.mem_list_of_find? isFound) rfl
  | spaced | derived | carried =>
      exact Store.marksNone_of_list_eq ((Store.sameBeside_write _ _ _).list (by decide))
  | deleted isFound marked present deletion =>
      exact Store.marksNone_of_list_eq (deletion.sameBeside.list (by decide))
  | synced due | recorded due =>
      exact Store.marksNone_restated (Store.mem_list_of_find? due.isFound) _

theorem marksNone_reconcile (key : ObjectKey) (world : World) :
    Store.MarksNone .registration world.store ((reconcile key).runOn world).2.store :=
  .of_through (through_reconcile key world) Write.marksNone

/-- The only deployment that gets a label is that of a registration that is due. -/
theorem Advance.ends (advance : Advance key store after)
    (ends : store.Ends .deployment registrationLabel text)
    (free : ∀ registration, IsDue store key registration → registration.keyText ≠ text) :
    after.Ends .deployment registrationLabel text := by
  cases advance with
  | @supplied registration previous next due isPrevious lasting fitting =>
      refine ends.write _ fun labelled => absurd ?_ (free registration due)
      exact Option.some.inj ((beq_iff_eq.1 fitting.labelled).symm.trans labelled)
  | synced => exact ends.congr ((Store.sameBeside_write _ _ _).list (by decide))

theorem Write.ends (written : Registration.Write key store after)
    (ends : store.Ends .deployment registrationLabel text)
    (free : ∀ registration, IsDue store key registration → registration.keyText ≠ text) :
    after.Ends .deployment registrationLabel text := by
  rcases written.continues_or_advance with continues | advance
  · exact ends.continues continues
  · exact advance.ends ends free

end Registration

namespace Deployment

theorem Write.marksNone (written : Deployment.Write key store after) :
    Store.MarksNone .deployment store after := by
  cases written with
  | held isFound =>
      exact Store.marksNone_updated (Store.mem_list_of_find? isFound) (Object.key_hold _)
  | letGo isFound => exact Store.marksNone_updated (Store.mem_list_of_find? isFound) rfl
  | settled isFound | cleared isFound | recorded isFound =>
      exact Store.marksNone_restated (Store.mem_list_of_find? isFound) _
  | created | renewed | placed | released =>
      exact Store.marksNone_of_list_eq ((Store.sameBeside_write _ _ _).list (by decide))
  | deleted isFound marked realises unmarked deletion =>
      exact Store.marksNone_of_list_eq (deletion.sameBeside.list (by decide))

theorem marksNone_reconcile (settings : Settings) (key : ObjectKey) (world : World) :
    Store.MarksNone .deployment world.store ((reconcile settings key).runOn world).2.store :=
  .of_through (through_reconcile settings key world) Write.marksNone

/-- The only instance that gets a label is that of a deployment that is not marked. -/
theorem Write.ends (written : Deployment.Write key store after)
    (ends : store.Ends .tenantInstance deploymentLabel text)
    (free : ∀ deployment : Deployment, store.find? .deployment key = some deployment →
      deployment.isMarked = false → deployment.keyText ≠ text) :
    after.Ends .tenantInstance deploymentLabel text := by
  cases written with
  | @created deployment made isFound unmarked isHeld vacant isNew =>
      refine ends.write none fun labelled => absurd ?_ (free deployment isFound unmarked)
      exact Option.some.inj (isNew.label_eq.symm.trans labelled)
  | @renewed deployment existing isFound realises unmarked =>
      exact ends.write _ fun labelled => ends existing realises.1 labelled
  | held | letGo => exact ends.congr ((Store.sameBeside_supplant _ _ _).list (by decide))
  | placed | settled | cleared | released | recorded =>
      exact ends.congr ((Store.sameBeside_write _ _ _).list (by decide))
  | deleted isFound marked realises unmarked deletion => exact ends.deletion deletion

theorem Write.handsDown (written : Deployment.Write key store after)
    (handsDown : store.HandsDown .deployment .tenantInstance deploymentLabel) :
    after.HandsDown .deployment .tenantInstance deploymentLabel := by
  refine handsDown.of_marksNone written.marksNone fun owner present marked ends =>
    written.ends ends fun deployment isFound unmarked sameText => ?_
  obtain rfl := Store.eq_of_keyText_eq (Store.mem_list_of_find? isFound) present sameText
  exact absurd marked (by simp [unmarked])

/-- A deployment that has handed its mark down marks no instance. -/
theorem Write.lacksMarks (written : Deployment.Write key store after)
    (coherent : store.IsCoherent)
    (handsDown : store.HandsDown .deployment .tenantInstance deploymentLabel)
    (lacks : store.LacksMarks .tenantInstance) : after.LacksMarks .tenantInstance := by
  cases written with
  | created isFound unmarked isHeld vacant isNew =>
      refine (Store.marksNone_write none fun marked => ?_).lacksMarks lacks
      exact absurd marked (by simp [isNew.isMarked_eq_false])
  | @renewed deployment existing isFound realises unmarked =>
      refine (Store.marksNone_write _ fun marked => ?_).lacksMarks lacks
      exact ⟨existing, realises.1, rfl, marked⟩
  | deleted isFound marked realises unmarked deletion =>
      have isStored := Store.mem_list_of_find? isFound
      have isEnding := handsDown _ isStored marked _ realises.1
        (coherent.label_eq_of_realises isStored realises)
      exact absurd isEnding (by simp [unmarked])
  | held | letGo =>
      exact (Store.marksNone_of_list_eq
        ((Store.sameBeside_supplant _ _ _).list (by decide))).lacksMarks lacks
  | placed | settled | cleared | released | recorded =>
      exact (Store.marksNone_of_list_eq
        ((Store.sameBeside_write _ _ _).list (by decide))).lacksMarks lacks

theorem Report.marksNone (written : Deployment.Report key store after) :
    Store.MarksNone .registration store after := by
  cases written with
  | reported isFound named labelled spelled registrationFound =>
      exact Store.marksNone_restated (Store.mem_list_of_find? registrationFound) _

end Deployment

theorem TenantInstance.Write.handsDown (written : TenantInstance.Write key store after)
    (handsDown : store.HandsDown .deployment .tenantInstance deploymentLabel) :
    after.HandsDown .deployment .tenantInstance deploymentLabel := by
  refine handsDown.of_marksNone
    (Store.marksNone_of_list_eq (written.sameBut.list (by decide))) fun owner _ _ ends => ?_
  cases written with
  | held isFound => exact ends.updated (Store.mem_list_of_find? isFound) (Object.labels_hold _)
  | letGo isFound => exact ends.updated (Store.mem_list_of_find? isFound) rfl
  | released => exact ends.congr ((Store.sameBeside_write _ _ _).list (by decide))
  | @recorded current isFound record =>
      exact ends.write _ fun labelled => ends current (Store.mem_list_of_find? isFound) labelled

namespace Resync

theorem Write.marksNone (written : Resync.Write store after) :
    Store.MarksNone .registration store after := by
  cases written with
  | registration written => exact written.marksNone
  | deployment written => exact Store.marksNone_of_list_eq (written.sameBut.list (by decide))
  | report written => exact written.marksNone
  | tenantInstance written => exact Store.marksNone_of_list_eq (written.sameBut.list (by decide))
  | target written => exact Store.marksNone_of_list_eq (written.sameBeside.list (by decide))

/-- What registrations have handed down stays so, since one that is marked derives nothing. -/
theorem Write.handsDown (written : Resync.Write store after)
    (handsDown : store.HandsDown .registration .deployment registrationLabel) :
    after.HandsDown .registration .deployment registrationLabel := by
  refine handsDown.of_marksNone written.marksNone fun owner present marked ends => ?_
  rcases written.continues_or_advance with continues | ⟨key, advance⟩
  · exact ends.continues continues
  · refine advance.ends ends fun registration due sameText => ?_
    obtain rfl := Store.eq_of_keyText_eq (Store.mem_list_of_find? due.isFound) present sameText
    exact absurd marked (by simp [due.unmarked])

end Resync

end TenantFleet
