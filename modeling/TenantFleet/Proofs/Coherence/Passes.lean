import TenantFleet.Proofs.Coherence.Change
import TenantFleet.Proofs.Passes.Admission
import TenantFleet.Proofs.Passes.Deployment
import TenantFleet.Proofs.Passes.Registration
import TenantFleet.Proofs.Passes.StatusReport
import TenantFleet.Proofs.Passes.TenantInstance

/-!
# Passes keep a store coherent

Each sort of write is one of the changes that keep a store coherent, by what the
pass had found when it wrote.
-/

namespace TenantFleet

namespace Metadata

theorem HasOwnFinalizers.heldBy {metadata : Metadata} (own : metadata.HasOwnFinalizers) :
    (metadata.heldBy finalizer).HasOwnFinalizers := by
  unfold Metadata.heldBy
  split
  next => exact own
  next unheld =>
    rcases own with free | held
    · exact .inr (by simp [free])
    · exact absurd (by simp [isHeldBy, held]) unheld

theorem HasOwnFinalizers.freedFrom {metadata : Metadata} (own : metadata.HasOwnFinalizers) :
    (metadata.freedFrom finalizer).finalizers = [] := by
  rcases own with free | held
  · simp [Metadata.freedFrom, free]
  · simp [Metadata.freedFrom, held]

end Metadata

namespace Object

variable {kind : Kind} {object : Object kind}

theorem isHeld_hold (object : Object kind) : object.hold.isHeld = true := by
  unfold isHeld hold Metadata.heldBy
  split
  next held => exact held
  next => simp [Metadata.isHeldBy]

@[simp]
theorem labels_hold (object : Object kind) :
    object.hold.metadata.labels = object.metadata.labels := by
  unfold hold Metadata.heldBy
  split <;> rfl

theorem isHeld_eq_false_of_free (free : object.metadata.finalizers = []) :
    object.isHeld = false := by
  simp [isHeld, Metadata.isHeldBy, free]

end Object

theorem TenantInstance.IsSound.isHeld {realised : TenantInstance}
    (sound : TenantInstance.IsSound realised) : realised.isHeld = true := by
  simp [Object.isHeld, Metadata.isHeldBy, sound.held]

namespace Store

variable {store after : Store} {kind : Kind}

/-- A marked object that only the control plane kept goes when it is let go. -/
theorem isSpent_letGo {stored : Object kind} (marked : stored.isMarked = true)
    (own : stored.metadata.HasOwnFinalizers) :
    isSpent (store.replacement stored stored.letGo) = true := by
  have free : stored.letGo.metadata.finalizers = [] := own.freedFrom
  simp [isSpent, marked, free]

namespace IsCoherent

/-- What deletes an object keeps the store coherent: an object that anything refers to is held
back. -/
theorem delete (coherent : store.IsCoherent) {stored : Object kind}
    (present : stored ∈ store.list kind) (deletion : store.Deletion stored after) :
    after.IsCoherent := by
  have sound := coherent.sound kind stored present
  cases deletion with
  | purged free =>
      have unheld := Object.isHeld_eq_false_of_free free
      refine coherent.remove present ?_
      cases kind with
      | deployment =>
          intro realised _ text _ bears
          exact Bool.false_ne_true (unheld.symm.trans bears.2.1)
      | registration =>
          intro deployment _ text _ bears
          exact Bool.false_ne_true (unheld.symm.trans bears.2)
      | tenantInstance =>
          exact absurd (sound.held.symm.trans free) (List.cons_ne_nil _ _)
      | tenantSpace | target | scheduling => trivial
  | marked kept unmarked now =>
      cases kind with
      | target => exact coherent.replace present rfl sound fun key held => .inl held
      | deployment =>
          exact coherent.replace present rfl ⟨sound.own, sound.named⟩
            ⟨fun text held => .inl held, id⟩
      | tenantInstance =>
          exact coherent.replace present rfl ⟨sound.held, sound.labelled, sound.targeted⟩
            ⟨rfl, rfl⟩
      | registration => exact coherent.replace present rfl sound id
      | tenantSpace | scheduling => exact coherent.replace present rfl trivial trivial

/-- A marked object that nothing refers to goes with the finalizer. -/
theorem letGo (coherent : store.IsCoherent) {stored : Object kind}
    (present : stored ∈ store.list kind) (marked : stored.isMarked = true)
    (own : stored.metadata.HasOwnFinalizers) (spared : store.Spares stored) :
    (store.supplant stored (store.replacement stored stored.letGo)).IsCoherent := by
  rw [supplant_of_spent (isSpent_letGo marked own)]
  exact (coherent.remove present spared).with_lastVersion _

/-- A registration may have any status. -/
theorem restate_registration (coherent : store.IsCoherent) {stored : Registration}
    (present : stored ∈ store.list .registration) (status : RegistrationStatus) :
    (store.write (some stored) (store.restated stored status)).IsCoherent :=
  coherent.replace present rfl (coherent.sound .registration stored present) id

/-- An instance may have any status. -/
theorem restate_instance (coherent : store.IsCoherent) {stored : TenantInstance}
    (present : stored ∈ store.list .tenantInstance) (status : InstanceStatus) :
    (store.write (some stored) (store.restated stored status)).IsCoherent := by
  have sound := coherent.sound_instance present
  exact coherent.replace present rfl ⟨sound.held, sound.labelled, sound.targeted⟩ ⟨rfl, rfl⟩

/-- A deployment may have any status that names no instance but one that was made for it. -/
theorem restate_deployment (coherent : store.IsCoherent) {stored : Deployment}
    (present : stored ∈ store.list .deployment) {status : DeploymentStatus}
    (named : ∀ key, status.instanceKey = some key → key.IsNamedAfter stored.key) :
    (store.write (some stored) (store.restated stored status)).IsCoherent := by
  have sound : Deployment.IsSound stored := coherent.sound .deployment stored present
  exact coherent.replace present rfl ⟨sound.own, named⟩ ⟨fun text held => .inl held, id⟩

/-- An instance that the index has under the label of a deployment bears that label. -/
theorem label_eq_of_mem_labelled (coherent : store.IsCoherent) {realised : TenantInstance}
    {value : String} (listed : realised ∈ store.labelled .tenantInstance deploymentLabel value) :
    realised.metadata.label? deploymentLabel = some value := by
  obtain ⟨text, isLabels⟩ := (coherent.sound_instance (mem_labelled.1 listed).1).labelled
  rw [coherent.indexed.value_eq_of_mem_labelled coherent.plain.nulFree isLabels listed]
  simp [Metadata.label?, isLabels]

/-- What realises a deployment was made for it. -/
theorem isNamedAfter_of_realises (coherent : store.IsCoherent) {deployment : Deployment}
    {realised : TenantInstance} (isStored : deployment ∈ store.list .deployment)
    (realises : store.Realises deployment realised) :
    realised.key.IsNamedAfter deployment.key := by
  obtain ⟨present, ⟨key, isKey, sameText⟩ | listed⟩ := realises
  · have sound : Deployment.IsSound deployment := coherent.sound .deployment deployment isStored
    have named := sound.named key isKey
    have plain := named.isPlain (coherent.plain .deployment deployment isStored)
    have same : key = realised.key :=
      ObjectKey.eq_of_text_eq plain (coherent.plain .tenantInstance realised present) sameText
    exact same ▸ named
  · obtain ⟨owner, ownerStored, labelled, -, named⟩ := coherent.exists_owner present
    have sameText : owner.keyText = deployment.keyText :=
      Option.some.inj (labelled.symm.trans (coherent.label_eq_of_mem_labelled listed))
    exact eq_of_keyText_eq ownerStored isStored sameText ▸ named

/-- What realises a deployment bears its label. -/
theorem label_eq_of_realises (coherent : store.IsCoherent) {deployment : Deployment}
    {realised : TenantInstance} (isStored : deployment ∈ store.list .deployment)
    (realises : store.Realises deployment realised) :
    realised.metadata.label? deploymentLabel = some deployment.keyText :=
  coherent.label_eq_of_isNamedAfter realises.1
    (coherent.isNamedAfter_of_realises isStored realises)

/-- A target may give places back. -/
theorem release (coherent : store.IsCoherent) {target : Target}
    (present : target ∈ store.list .target) (instanceKey : ObjectKey) :
    (store.write (some target)
      (store.restated target (target.releasing instanceKey).status)).IsCoherent := by
  have sound : Target.IsSound target := coherent.sound .target target present
  exact coherent.replace present rfl (sound.filter _)
    fun key held => .inl (List.mem_filter.1 held).1

end IsCoherent

end Store

theorem TenantInstance.Write.isCoherent {key : ObjectKey} {store after : Store}
    (written : TenantInstance.Write key store after) (coherent : store.IsCoherent) :
    after.IsCoherent := by
  cases written with
  | held isFound unmarked unheld =>
      have sound := coherent.sound_instance (Store.mem_list_of_find? isFound)
      exact absurd sound.isHeld (by simp [unheld])
  | released isFound marked isHeld targetFound hosts =>
      exact coherent.release (Store.mem_list_of_find? targetFound) _
  | @letGo retiring isFound marked isHeld released =>
      have present := Store.mem_list_of_find? isFound
      have own : retiring.metadata.HasOwnFinalizers := .inr (coherent.sound_instance present).held
      -- a target that lists the instance is its own, and that has given the place back
      refine coherent.letGo present marked own fun target targetPresent listed holds bears => ?_
      obtain ⟨rfl, onTarget⟩ := bears
      have unlisted := released target (onTarget ▸ Store.find?_key_of_mem targetPresent)
      simp only [Target.hosts, List.contains_eq_mem, decide_eq_false_iff_not] at unlisted
      exact unlisted holds
  | recorded isFound record =>
      exact coherent.restate_instance (Store.mem_list_of_find? isFound) _

namespace Deployment

variable {store after : Store} {deployment : Deployment} {key : ObjectKey}

theorem IsNewInstance.isNamedAfter {made : TenantInstance}
    (isNew : IsNewInstance store deployment made) : made.key.IsNamedAfter deployment.key := by
  obtain ⟨rules, target, id, suffix, now, -, -, rfl, -⟩ := isNew
  exact ⟨rfl, suffix, rfl⟩

theorem IsNewInstance.label_eq {made : TenantInstance}
    (isNew : IsNewInstance store deployment made) :
    made.metadata.label? deploymentLabel = some deployment.key.text := by
  obtain ⟨rules, target, id, suffix, now, -, -, rfl, -⟩ := isNew
  rfl

theorem IsNewInstance.isSound {made : TenantInstance} (coherent : store.IsCoherent)
    (isNew : IsNewInstance store deployment made) : TenantInstance.IsSound made := by
  obtain ⟨rules, target, id, suffix, now, chosen, -, rfl, -⟩ := isNew
  exact ⟨rfl, ⟨_, rfl⟩, coherent.plain .target target (mem_pool_of_chosenTarget? chosen)⟩

/-- A new instance keeps the store coherent, because no other bears the label of its
deployment. -/
theorem isCoherent_of_create (coherent : store.IsCoherent)
    (isStored : deployment ∈ store.list .deployment) (isHeld : deployment.isHeld = true)
    (vacant : store.instanceOf? deployment = none) {made : TenantInstance}
    (isNew : IsNewInstance store deployment.withDefaults made) :
    (store.write none made).IsCoherent := by
  have named : made.key.IsNamedAfter deployment.key := isNew.isNamedAfter
  have free : store.find? .tenantInstance made.key = none := by
    obtain ⟨rules, target, id, suffix, now, -, -, -, free⟩ := isNew
    exact free
  refine coherent.create free (named.isPlain (coherent.plain .deployment deployment isStored))
    (isNew.isSound coherent) fun text ofMade => ?_
  obtain rfl : deployment.key.text = text := Option.some.inj (isNew.label_eq.symm.trans ofMade)
  exact ⟨⟨deployment, isStored, rfl, isHeld, named⟩, fun other present =>
    coherent.indexed.label_ne_of_labelled_eq_nil
      (Store.labelled_eq_nil_of_instanceOf? vacant) present⟩

theorem isCoherent_of_place (coherent : store.IsCoherent) {realised : TenantInstance}
    {target : Target} (present : realised ∈ store.list .tenantInstance)
    (targetFound : store.find? .target realised.spec.targetKey = some target)
    (unhosted : target.hosts realised.key = false) :
    (store.write (some target)
      (store.restated target (target.assigning realised.key).status)).IsCoherent := by
  have targetPresent := Store.mem_list_of_find? targetFound
  -- found under the same text, and plain keys of one text are equal
  have onTarget := coherent.eq_key_of_find? (coherent.sound_instance present).targeted targetFound
  have sound : Target.IsSound target := coherent.sound .target target targetPresent
  have unlisted : realised.key ∉ target.status.assigned := by
    simpa [Target.hosts] using unhosted
  refine coherent.replace targetPresent rfl ?_ fun listed holds => ?_
  · refine List.nodup_append.2 ⟨sound, by simp, ?_⟩
    intro before beforeMem added addedMem same
    rw [List.mem_singleton] at addedMem
    exact unlisted (addedMem ▸ same ▸ beforeMem)
  · rcases List.mem_append.1 holds with wasListed | isAdded
    · exact .inl wasListed
    · obtain rfl := List.mem_singleton.1 isAdded
      exact .inr ⟨realised, present, rfl, onTarget.symm⟩

theorem Write.isCoherent (written : Deployment.Write key store after)
    (coherent : store.IsCoherent) : after.IsCoherent := by
  cases written with
  | @held found isFound unmarked unheld =>
      have present := Store.mem_list_of_find? isFound
      have sound : Deployment.IsSound found := coherent.sound .deployment found present
      rw [Store.supplant_of_unmarked unmarked]
      refine coherent.replace present found.key_hold ⟨sound.own.heldBy, fun key isKey => ?_⟩
        ⟨fun text held => .inl ?_, fun _ => found.isHeld_hold⟩
      · rw [Store.key_replacement, found.key_hold]
        exact sound.named key isKey
      · simpa [originReference, Metadata.label?] using held
  | created isFound unmarked isHeld vacant isNew =>
      exact isCoherent_of_create coherent (Store.mem_list_of_find? isFound) isHeld vacant isNew
  | @renewed deployment existing isFound realises unmarked =>
      have sound := coherent.sound_instance realises.1
      exact coherent.replace realises.1 rfl ⟨sound.held, sound.labelled, sound.targeted⟩ ⟨rfl, rfl⟩
  | placed isFound realises unmarked targetFound unhosted =>
      exact isCoherent_of_place coherent realises.1 targetFound unhosted
  | settled isFound realises =>
      have present := Store.mem_list_of_find? isFound
      refine coherent.restate_deployment present fun key isKey => ?_
      obtain rfl := Option.some.inj isKey
      exact coherent.isNamedAfter_of_realises present realises
  | cleared isFound marked vacant =>
      refine coherent.restate_deployment (Store.mem_list_of_find? isFound) fun key isKey => ?_
      contradiction
  | @letGo deployment isFound marked vacant =>
      have present := Store.mem_list_of_find? isFound
      have sound : Deployment.IsSound deployment := coherent.sound .deployment deployment present
      refine coherent.letGo present marked sound.own
        fun realised realisedPresent text holds bears => ?_
      obtain ⟨rfl, -, -⟩ := bears
      exact coherent.indexed.label_ne_of_labelled_eq_nil
        (Store.labelled_eq_nil_of_instanceOf? vacant) realisedPresent holds
  | released isFound realises unheld targetFound hosts =>
      -- giving a place back is sound by itself, also of an instance that stays
      exact coherent.release (Store.mem_list_of_find? targetFound) _
  | deleted isFound marked realises unmarked deletion =>
      exact coherent.delete realises.1 deletion
  | @recorded current isFound record =>
      have present := Store.mem_list_of_find? isFound
      have sound : Deployment.IsSound current := coherent.sound .deployment current present
      exact coherent.restate_deployment present sound.named

theorem Report.isCoherent (written : Deployment.Report key store after)
    (coherent : store.IsCoherent) : after.IsCoherent := by
  cases written with
  | reported isFound named labelled spelled registrationFound =>
      exact coherent.restate_registration (Store.mem_list_of_find? registrationFound) _

end Deployment

namespace Registration

variable {store after : Store} {key : ObjectKey}

/-- A deployment that is made for a registration, or brought in line with it, leads back to it. -/
theorem bears_origin {registration : Registration} (isHeld : registration.isHeld = true)
    {deployment : Deployment} {text : String}
    (isLabel : deployment.metadata.label? registrationLabel = some registration.key.text)
    (holds : originReference.Holds deployment text) :
    originReference.Bears deployment text registration :=
  ⟨Option.some.inj (isLabel.symm.trans holds), isHeld⟩

theorem Write.isCoherent (written : Registration.Write key store after)
    (coherent : store.IsCoherent) : after.IsCoherent := by
  cases written with
  | @held found isFound unmarked unheld =>
      have present := Store.mem_list_of_find? isFound
      have sound : Registration.IsSound found := coherent.sound .registration found present
      rw [Store.supplant_of_unmarked unmarked]
      exact coherent.replace present found.key_hold sound.heldBy fun _ => found.isHeld_hold
  | @spaced registration isFound absent now =>
      have plain := coherent.plain .registration registration (Store.mem_list_of_find? isFound)
      have plainEmpty : IsPlainText "" := by decide
      exact coherent.create absent ⟨plainEmpty, plain.1⟩ trivial trivial
  | @derived registration due absent now =>
      have present := Store.mem_list_of_find? due.isFound
      have plain := coherent.plain .registration registration present
      refine coherent.create absent plain ⟨.inl rfl, fun key isKey => by contradiction⟩
        fun text holds => ?_
      exact ⟨registration, present, bears_origin due.isHeld rfl holds⟩
  | @carried registration existing due deploymentFound lasting =>
      have present := Store.mem_list_of_find? deploymentFound
      have sound : Deployment.IsSound existing := coherent.sound .deployment existing present
      refine coherent.replace present rfl ⟨sound.own, sound.named⟩
        ⟨fun text holds => .inr ?_, id⟩
      refine ⟨registration, Store.mem_list_of_find? due.isFound, bears_origin due.isHeld ?_ holds⟩
      simp [carriedInto, Metadata.label?]
  | synced due deploymentFound fitting =>
      exact coherent.restate_registration (Store.mem_list_of_find? due.isFound) _
  | deleted isFound marked present deletion => exact coherent.delete present deletion
  | @letGo registration isFound marked gone =>
      have present := Store.mem_list_of_find? isFound
      have sound : Registration.IsSound registration :=
        coherent.sound .registration registration present
      refine coherent.letGo present marked sound fun deployment isStored text holds bears => ?_
      obtain ⟨rfl, -⟩ := bears
      exact coherent.indexed.label_ne_of_labelled_eq_nil gone isStored holds
  | recorded due unnamed now =>
      exact coherent.restate_registration (Store.mem_list_of_find? due.isFound) _

end Registration

theorem Target.Write.isCoherent {store after : Store} {key : ObjectKey}
    (written : Target.Write key store after) (coherent : store.IsCoherent) :
    after.IsCoherent := by
  cases written with
  | @published target isFound stale =>
      have present := Store.mem_list_of_find? isFound
      have sound : Target.IsSound target := coherent.sound .target target present
      exact coherent.replace present rfl sound fun key held => .inl held

end TenantFleet
