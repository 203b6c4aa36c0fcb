import TenantFleet.Proofs.Coherence.Documents
import TenantFleet.Proofs.Passes.Resync

/-!
# Anchored stores

A store is anchored when a deployment with the label of a registration has that
of its own key, and the registration is stored and held back by the finalizer.
The index has to be exact for that, or a registration would be let go before
its deployment, so no key may have a NUL character in it.  All else that users
write is of no account, as long as they leave the label to the control plane.
-/

namespace TenantFleet

namespace Store

/-- A deployment that names a registration by its label names that of its own key. -/
def LabelsOwn (store : Store) : Prop :=
  ∀ deployment ∈ store.list .deployment, ∀ text,
    deployment.metadata.label? registrationLabel = some text → text = deployment.keyText

structure IsAnchored (store : Store) : Prop where
  free : store.HasNulFreeKeys
  indexed : store.IsIndexed
  labelsOwn : store.LabelsOwn
  origins : store.Honours originReference

variable {store after : Store} {kind : Kind}

/-- No deployment needs the object to be there. -/
def IsDetached (store : Store) : {kind : Kind} → Object kind → Prop
  | .registration, current => current.isHeld = true → ∀ deployment ∈ store.list .deployment,
      deployment.metadata.label? registrationLabel ≠ some current.keyText
  | .tenantSpace, _ | .target, _ | .deployment, _ | .tenantInstance, _ | .scheduling, _ => True

/-- A deployment has its label from before, or is labelled with a stored registration of its key; a
registration that was held back still is, unless no deployment needs it. -/
def Anchors (store : Store) : {kind : Kind} → Option (Object kind) → Object kind → Prop
  | .deployment, previous, next => ∀ text, next.metadata.label? registrationLabel = some text →
      (∃ stored, previous = some stored ∧
        stored.metadata.label? registrationLabel = some text) ∨
      text = next.keyText ∧ ∃ registration ∈ store.list .registration,
        registration.keyText = text ∧ registration.isHeld = true
  | .registration, previous, next => ∀ stored : Registration, previous = some stored →
      stored.isHeld = true → next.isHeld = true ∨ store.IsDetached stored
  | .tenantSpace, _, _ | .target, _, _ | .tenantInstance, _, _ | .scheduling, _, _ => True

theorem isDetached_of_free {current : Object kind} (free : current.metadata.finalizers = []) :
    store.IsDetached current := by
  have unheld := Object.isHeld_eq_false_of_free free
  cases kind with
  | registration => exact fun isHeld => absurd (unheld.symm.trans isHeld) Bool.false_ne_true
  | tenantSpace | target | deployment | tenantInstance | scheduling => trivial

theorem anchors_of_same {stored next : Object kind}
    (sameLabel : kind = .deployment → next.metadata.label? registrationLabel =
      stored.metadata.label? registrationLabel)
    (stillHeld : kind = .registration → stored.isHeld = true → next.isHeld = true) :
    store.Anchors (some stored) next := by
  cases kind with
  | deployment => exact fun text labelled => .inl ⟨stored, rfl, (sameLabel rfl).symm.trans labelled⟩
  | registration =>
      intro other isOther wasHeld
      obtain rfl := Option.some.inj isOther
      exact .inl (stillHeld rfl wasHeld)
  | tenantSpace | target | tenantInstance | scheduling => trivial

theorem isAnchored_empty : ({} : Store).IsAnchored where
  free kind object present := by simp at present
  indexed := isIndexed_empty
  labelsOwn deployment present := by simp at present
  origins := honours_empty originReference

namespace IsAnchored

/-- A deployment's label leads to a registration of its key that is held back. -/
theorem exists_origin (anchored : store.IsAnchored) {deployment : Deployment} {text : String}
    (present : deployment ∈ store.list .deployment)
    (labelled : deployment.metadata.label? registrationLabel = some text) :
    ∃ registration ∈ store.list .registration,
      registration.keyText = text ∧ registration.isHeld = true :=
  anchored.origins deployment present text labelled

section Writing

variable {previous : Option (Object kind)} {next : Object kind}

theorem labelsOwn_write (anchored : store.IsAnchored)
    (isPrevious : store.find? kind next.key = previous) (anchors : store.Anchors previous next) :
    (store.write previous next).LabelsOwn := by
  intro deployment present text labelled
  by_cases sameKind : kind = .deployment
  · subst sameKind
    rcases mem_list_write.1 present with rfl | ⟨wasStored, -⟩
    · rcases anchors text labelled with ⟨stored, rfl, wasLabelled⟩ | ⟨isOwn, -⟩
      · rw [anchored.labelsOwn stored (mem_list_of_find? isPrevious) text wasLabelled]
        exact keyText_of_find? isPrevious
      · exact isOwn
    · exact anchored.labelsOwn deployment wasStored text labelled
  · rw [list_write_of_ne _ _ _ (Ne.symm sameKind)] at present
    exact anchored.labelsOwn deployment present text labelled

theorem origins_write (anchored : store.IsAnchored)
    (isPrevious : store.find? kind next.key = previous) (anchors : store.Anchors previous next) :
    (store.write previous next).Honours originReference := by
  cases kind with
  | deployment =>
      refine anchored.origins.write_holder previous next fun text labelled => ?_
      rcases anchors text labelled with ⟨stored, rfl, wasLabelled⟩ | ⟨-, isBorneOut⟩
      · exact anchored.origins stored (mem_list_of_find? isPrevious) text wasLabelled
      · exact isBorneOut
  | registration =>
      cases previous with
      | none => exact anchored.origins.create_bearer isPrevious
      | some stored =>
          have sameText : next.keyText = stored.keyText := (keyText_of_find? isPrevious).symm
          refine anchored.origins.write_bearer (mem_list_of_find? isPrevious) sameText
            fun deployment isStored text labelled bears => ⟨sameText.trans bears.1, ?_⟩
          -- a registration that was let go is one that this deployment does not name
          refine (anchors stored rfl bears.2).resolve_right fun detached => ?_
          exact detached bears.2 deployment isStored (bears.1 ▸ labelled)
  | tenantSpace | target | tenantInstance | scheduling =>
      exact anchored.origins.write_other previous next (by decide) (by decide)

theorem write (anchored : store.IsAnchored) (free : '\x00' ∉ next.keyText.toList)
    (isPrevious : store.find? kind next.key = previous) (anchors : store.Anchors previous next) :
    (store.write previous next).IsAnchored where
  free := forall_mem_list_write anchored.free free
  indexed := anchored.indexed.write anchored.free isPrevious
  labelsOwn := anchored.labelsOwn_write isPrevious anchors
  origins := anchored.origins_write isPrevious anchors

end Writing

variable {stored next : Object kind}

theorem replace (anchored : store.IsAnchored) (present : stored ∈ store.list kind)
    (sameText : next.keyText = stored.keyText) (anchors : store.Anchors (some stored) next) :
    (store.write (some stored) next).IsAnchored :=
  anchored.write (sameText ▸ anchored.free kind stored present)
    (find?_eq_some_of_mem present sameText.symm) anchors

theorem restate (anchored : store.IsAnchored) (present : stored ∈ store.list kind)
    (status : kind.Status) :
    (store.write (some stored) (store.restated stored status)).IsAnchored :=
  anchored.replace present rfl (anchors_of_same (fun _ => rfl) fun _ => id)

theorem remove (anchored : store.IsAnchored) (present : stored ∈ store.list kind)
    (detached : store.IsDetached stored) : (store.remove stored).IsAnchored where
  free read object isStored := anchored.free read object (mem_list_of_mem_list_remove isStored)
  indexed := anchored.indexed.remove anchored.free present
  labelsOwn deployment isStored :=
    anchored.labelsOwn deployment (mem_list_of_mem_list_remove isStored)
  origins := by
    cases kind with
    | deployment => exact anchored.origins.remove_holder stored
    | registration =>
        refine anchored.origins.remove_bearer present
          fun deployment isStored text labelled bears => ?_
        exact detached bears.2 deployment isStored (bears.1 ▸ labelled)
    | tenantSpace | target | tenantInstance | scheduling =>
        exact anchored.origins.remove_other stored (by decide) (by decide)

theorem with_lastVersion (anchored : store.IsAnchored) (version : Nat) :
    ({ store with lastVersion := version } : Store).IsAnchored where
  free read object isStored := anchored.free read object (by simpa using isStored)
  indexed := by simpa [IsIndexed] using anchored.indexed
  labelsOwn := by simpa [LabelsOwn] using anchored.labelsOwn
  origins := anchored.origins.congr (by simp) (by simp)

/-- An update that leaves nothing of an object has to leave no deployment without it. -/
theorem supplant (anchored : store.IsAnchored) (present : stored ∈ store.list kind)
    (sameText : next.keyText = stored.keyText) (anchors : store.Anchors (some stored) next)
    (detached : isSpent next = true → store.IsDetached stored) :
    (store.supplant stored next).IsAnchored := by
  cases spent : isSpent next with
  | true =>
      rw [supplant_of_spent spent]
      exact (anchored.remove present (detached spent)).with_lastVersion _
  | false =>
      rw [supplant_of_kept spent]
      exact anchored.replace present sameText anchors

theorem hold (anchored : store.IsAnchored) (present : stored ∈ store.list kind) :
    (store.supplant stored (store.replacement stored stored.hold)).IsAnchored := by
  refine anchored.supplant present (congrArg ObjectKey.text stored.key_hold)
    (anchors_of_same (fun _ => ?_) fun _ _ => stored.isHeld_hold) fun spent => ?_
  · simp [Metadata.label?]
  · -- what holds the finalizer is not spent
    have isHeld := stored.isHeld_hold
    simp only [isSpent, Bool.and_eq_true, List.isEmpty_iff, finalizers_replacement] at spent
    rw [Object.isHeld_eq_false_of_free spent.2] at isHeld
    contradiction

theorem letGo (anchored : store.IsAnchored) (present : stored ∈ store.list kind)
    (detached : store.IsDetached stored) :
    (store.supplant stored (store.replacement stored stored.letGo)).IsAnchored := by
  refine anchored.supplant present rfl ?_ fun _ => detached
  cases kind with
  | deployment => exact fun text labelled => .inl ⟨stored, rfl, labelled⟩
  | registration =>
      -- other finalizers may keep it, so it may be stored without being held
      intro other isOther _
      obtain rfl := Option.some.inj isOther
      exact .inr detached
  | tenantSpace | target | tenantInstance | scheduling => trivial

theorem deletion (anchored : store.IsAnchored) (present : stored ∈ store.list kind)
    (deletion : store.Deletion stored after) : after.IsAnchored := by
  cases deletion with
  | purged free => exact anchored.remove present (isDetached_of_free free)
  | marked kept unmarked now =>
      exact anchored.replace present rfl (anchors_of_same (fun _ => rfl) fun _ => id)

end IsAnchored

end Store

variable {store after : Store} {key : ObjectKey}

theorem ObjectKey.nul_not_mem_text_iff :
    '\x00' ∉ key.text.toList ↔ '\x00' ∉ key.scope.toList ∧ '\x00' ∉ key.name.toList := by
  rw [toList_text, List.mem_append, List.mem_cons, not_or, not_or]
  exact and_congr_right fun _ => and_iff_right (by decide)

theorem ObjectKey.IsNamedAfter.nul_not_mem_text {owner : ObjectKey} (named : key.IsNamedAfter owner)
    (free : '\x00' ∉ owner.text.toList) : '\x00' ∉ key.text.toList := by
  obtain ⟨sameScope, suffix, isName⟩ := named
  obtain ⟨scopeFree, nameFree⟩ := nul_not_mem_text_iff.1 free
  refine nul_not_mem_text_iff.2 ⟨sameScope ▸ scopeFree, ?_⟩
  simp only [isName, String.toList_append, List.mem_append, not_or]
  exact ⟨⟨nameFree, by decide⟩, (NameSuffix.isPlainText_text suffix).2⟩

theorem Registration.Write.isAnchored (written : Registration.Write key store after)
    (anchored : store.IsAnchored) : after.IsAnchored := by
  cases written with
  | held isFound unmarked unheld => exact anchored.hold (Store.mem_list_of_find? isFound)
  | @spaced registration isFound absent now =>
      have free := anchored.free .registration registration (Store.mem_list_of_find? isFound)
      have scopeFree := (ObjectKey.nul_not_mem_text_iff.1 free).1
      have noScope : '\x00' ∉ "".toList := by decide
      exact anchored.write (ObjectKey.nul_not_mem_text_iff.2 ⟨noScope, scopeFree⟩) absent trivial
  | @derived registration due absent now =>
      have present := Store.mem_list_of_find? due.isFound
      refine anchored.write (anchored.free .registration registration present) absent
        fun text labelled => .inr ?_
      obtain rfl : registration.key.text = text :=
        Option.some.inj ((Labels.value?_set _ _ _).symm.trans labelled)
      exact ⟨rfl, registration, present, rfl, due.isHeld⟩
  | @carried registration existing due deploymentFound lasting =>
      have present := Store.mem_list_of_find? due.isFound
      refine anchored.replace (Store.mem_list_of_find? deploymentFound) rfl
        fun text labelled => .inr ?_
      obtain rfl : registration.key.text = text :=
        Option.some.inj ((Labels.value?_set _ _ _).symm.trans labelled)
      exact ⟨(Store.keyText_of_find? deploymentFound).symm, registration, present, rfl, due.isHeld⟩
  | synced due deploymentFound fitting =>
      exact anchored.restate (Store.mem_list_of_find? due.isFound) _
  | deleted isFound marked present deletion => exact anchored.deletion present deletion
  | letGo isFound marked gone =>
      exact anchored.letGo (Store.mem_list_of_find? isFound)
        fun _ _ present => anchored.indexed.label_ne_of_labelled_eq_nil gone present
  | recorded due unnamed now => exact anchored.restate (Store.mem_list_of_find? due.isFound) _

theorem Deployment.Write.isAnchored (written : Deployment.Write key store after)
    (anchored : store.IsAnchored) : after.IsAnchored := by
  cases written with
  | held isFound unmarked unheld => exact anchored.hold (Store.mem_list_of_find? isFound)
  | @created deployment made isFound unmarked isHeld vacant isNew =>
      have named : made.key.IsNamedAfter deployment.key := isNew.isNamedAfter
      have free := anchored.free .deployment deployment (Store.mem_list_of_find? isFound)
      obtain ⟨rules, target, id, suffix, now, -, -, rfl, absent⟩ := isNew
      exact anchored.write (named.nul_not_mem_text free) absent trivial
  | renewed isFound realises unmarked => exact anchored.replace realises.1 rfl trivial
  | placed isFound realises unmarked targetFound unhosted =>
      exact anchored.restate (Store.mem_list_of_find? targetFound) _
  | settled isFound realises => exact anchored.restate (Store.mem_list_of_find? isFound) _
  | cleared isFound marked vacant => exact anchored.restate (Store.mem_list_of_find? isFound) _
  | letGo isFound marked vacant => exact anchored.letGo (Store.mem_list_of_find? isFound) trivial
  | released isFound realises unheld targetFound hosts =>
      exact anchored.restate (Store.mem_list_of_find? targetFound) _
  | deleted isFound marked realises unmarked deletion =>
      exact anchored.deletion realises.1 deletion
  | recorded isFound record => exact anchored.restate (Store.mem_list_of_find? isFound) _

theorem Deployment.Report.isAnchored (written : Deployment.Report key store after)
    (anchored : store.IsAnchored) : after.IsAnchored := by
  cases written with
  | reported isFound named labelled spelled registrationFound =>
      exact anchored.restate (Store.mem_list_of_find? registrationFound) _

theorem TenantInstance.Write.isAnchored (written : TenantInstance.Write key store after)
    (anchored : store.IsAnchored) : after.IsAnchored := by
  cases written with
  | held isFound unmarked unheld => exact anchored.hold (Store.mem_list_of_find? isFound)
  | released isFound marked isHeld targetFound hosts =>
      exact anchored.restate (Store.mem_list_of_find? targetFound) _
  | letGo isFound marked isHeld released =>
      exact anchored.letGo (Store.mem_list_of_find? isFound) trivial
  | recorded isFound record => exact anchored.restate (Store.mem_list_of_find? isFound) _

theorem Target.Write.isAnchored (written : Target.Write key store after)
    (anchored : store.IsAnchored) : after.IsAnchored := by
  cases written with
  | published isFound stale => exact anchored.restate (Store.mem_list_of_find? isFound) _

theorem Resync.Write.isAnchored (written : Resync.Write store after)
    (anchored : store.IsAnchored) : after.IsAnchored := by
  cases written with
  | registration written => exact written.isAnchored anchored
  | deployment written => exact written.isAnchored anchored
  | report written => exact written.isAnchored anchored
  | tenantInstance written => exact written.isAnchored anchored
  | target written => exact written.isAnchored anchored

/-- Neither the namespace nor the name, given or to be completed, has a NUL character in it. -/
structure Metadata.IsNulFree (metadata : Metadata) : Prop where
  scope : '\x00' ∉ metadata.scope.toList
  name : '\x00' ∉ metadata.name.toList
  start : '\x00' ∉ metadata.generateName.toList

/-- The object of a user is left to the control plane to label, if it is a deployment.  Its status
and all else in its header are free. -/
structure Object.IsUnclaimed {kind : Kind} (object : Object kind) : Prop where
  header : object.metadata.IsNulFree
  unlabelled : kind = .deployment → object.metadata.label? registrationLabel = none

def Manifest.IsUnclaimed : Manifest → Prop
  | .tenantSpace object => object.IsUnclaimed
  | .target object => object.IsUnclaimed
  | .deployment object => object.IsUnclaimed
  | .registration object => object.IsUnclaimed
  | .scheduling draft => draft.metadata.IsNulFree

namespace Admission

variable {kind : Kind} {object : Object kind}

theorem label?_of_update {stored complete : Object kind}
    (unlabelled : kind = .deployment → object.metadata.label? registrationLabel = none)
    (sameMetadata : complete.metadata = object.metadata.withManaged stored.metadata)
    (isDeployment : kind = .deployment) :
    complete.metadata.label? registrationLabel = stored.metadata.label? registrationLabel := by
  rw [sameMetadata, Metadata.label?_withManaged, if_pos isManaged_registrationLabel,
    unlabelled isDeployment, Option.none_or]

theorem anchors_of_update {stored complete : Object kind}
    (unlabelled : kind = .deployment → object.metadata.label? registrationLabel = none)
    (sameMetadata : complete.metadata = object.metadata.withManaged stored.metadata) :
    store.Anchors (some stored) (store.replacement stored complete) := by
  have sameLabel := label?_of_update unlabelled sameMetadata
  refine Store.anchors_of_same sameLabel fun _ wasHeld => ?_
  simpa only [Object.isHeld, Metadata.isHeldBy, Store.finalizers_replacement,
    finalizers_of_update sameMetadata] using wasHeld

/-- A name that is given is not completed, so what it would be completed from is of no account. -/
theorem Write.isAnchored_of_free (written : Write object store after) (anchored : store.IsAnchored)
    (scopeFree : '\x00' ∉ object.metadata.scope.toList)
    (nameFree : '\x00' ∉ object.metadata.name.toList)
    (startFree : object.metadata.name = "" → '\x00' ∉ object.metadata.generateName.toList)
    (unlabelled : kind = .deployment → object.metadata.label? registrationLabel = none) :
    after.IsAnchored := by
  cases written with
  | @created complete name now sameMetadata sameStatus isName isMade absent =>
      have madeFree : '\x00' ∉ name.toList := by
        by_cases named : object.metadata.name = ""
        · obtain ⟨suffix, rfl⟩ := isMade named
          rw [String.toList_append, List.mem_append, not_or]
          exact ⟨startFree named, (NameSuffix.isPlainText_text suffix).2⟩
        · rw [isName named]
          exact nameFree
      rw [← sameMetadata] at scopeFree
      refine anchored.write (ObjectKey.nul_not_mem_text_iff.2 ⟨scopeFree, madeFree⟩) absent ?_
      cases kind with
      | deployment =>
          have stillUnlabelled : complete.metadata.label? registrationLabel = none :=
            sameMetadata ▸ unlabelled rfl
          intro text labelled
          exact absurd (stillUnlabelled.symm.trans labelled) (by simp)
      | registration => exact fun _ isPrevious => by contradiction
      | tenantSpace | target | tenantInstance | scheduling => trivial
  | @updated stored complete isFound sameMetadata permitted =>
      have sameText : complete.keyText = stored.keyText := keyText_of_update isFound sameMetadata
      refine anchored.supplant (Store.mem_list_of_find? isFound) sameText
        (anchors_of_update unlabelled sameMetadata) fun spent => Store.isDetached_of_free ?_
      -- the finalizers are the stored ones, so what is spent was not held before
      simp only [Store.isSpent, Bool.and_eq_true, List.isEmpty_iff, Store.finalizers_replacement,
        finalizers_of_update sameMetadata] at spent
      exact spent.2

theorem Write.isAnchored (written : Write object store after) (anchored : store.IsAnchored)
    (unclaimed : object.IsUnclaimed) : after.IsAnchored :=
  written.isAnchored_of_free anchored unclaimed.header.scope unclaimed.header.name
    (fun _ => unclaimed.header.start) unclaimed.unlabelled

end Admission

/-- What a document writes is one object, which is unclaimed if the document is. -/
theorem Manifest.Write.exists_unclaimed {manifest : Manifest}
    (written : manifest.Write store after) (unclaimed : manifest.IsUnclaimed) :
    ∃ (kind : Kind) (object : Object kind), object.IsUnclaimed ∧
      Admission.Write object store after := by
  cases written with
  | tenantSpace written | target written | deployment written | registration written =>
      exact ⟨_, _, unclaimed, written⟩
  | @scheduling draft scheduling _ _ accepted written =>
      have header : scheduling.metadata.IsNulFree :=
        (SchedulingDraft.metadata_of_reviewed accepted).symm ▸ unclaimed
      exact ⟨_, _, ⟨header, fun isDeployment => by contradiction⟩, written⟩

/-- The label of a registration is not for users to set. -/
theorem Manifest.Write.isAnchored_of_ordinary {manifest : Manifest}
    (written : manifest.Write store after) (ordinary : manifest.IsOrdinary)
    (anchored : store.IsAnchored) : after.IsAnchored := by
  have keeps {kind : Kind} {object : Object kind} (written : Admission.Write object store after)
      (header : object.metadata.IsOrdinary) : after.IsAnchored :=
    written.isAnchored_of_free anchored header.plain.1.2 header.plain.2.2
      (fun unnamed => absurd unnamed header.named)
      fun _ => header.label?_eq_none isManaged_registrationLabel
  cases written with
  | tenantSpace written | target written | deployment written | registration written =>
      exact keeps written ordinary.header
  | scheduling accepted written =>
      exact keeps written ((SchedulingDraft.metadata_of_reviewed accepted).symm ▸ ordinary)

end TenantFleet
