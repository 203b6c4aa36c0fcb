import TenantFleet.Proofs.Reports.Anchors

/-!
# What a status report rests on, from write to write

A report goes from a deployment to the registration that the deployment's label
names, so what there is to report changes with the label and with the status of
the registration.  Every write leaves both as they were, except for the pass on
a registration that is due and for the reports themselves.
-/

namespace TenantFleet

namespace Store

/-- But for the keys that are `owned`, a deployment has its label, and a registration its status,
from before; a registration without a past is one that no deployment names. -/
structure Inherits (owned : String → Prop) (before after : Store) : Prop where
  labels : ∀ later ∈ after.list .deployment, ∀ text,
    later.metadata.label? registrationLabel = some text →
      (∃ deployment ∈ before.list .deployment, deployment.keyText = later.keyText ∧
        deployment.metadata.label? registrationLabel = some text) ∨
      text = later.keyText ∧ owned text
  statuses : ∀ later ∈ after.list .registration,
    (∃ registration ∈ before.list .registration, registration.keyText = later.keyText ∧
      registration.status = later.status) ∨
    owned later.keyText ∨
    ∀ deployment ∈ before.list .deployment,
      deployment.metadata.label? registrationLabel ≠ some later.keyText

/-- Every object comes from one of its key, with its status, and a deployment with its label. -/
def Descends (before after : Store) : Prop :=
  ∀ kind, ∀ later ∈ after.list kind, ∃ earlier ∈ before.list kind,
    earlier.keyText = later.keyText ∧ earlier.status = later.status ∧
      (kind = .deployment → earlier.metadata.label? registrationLabel =
        later.metadata.label? registrationLabel)

variable {store after : Store} {owned : String → Prop} {kind : Kind}

theorem descends_supplant {stored next : Object kind} (present : stored ∈ store.list kind)
    (sameText : next.keyText = stored.keyText)
    (sameLabel : kind = .deployment → next.metadata.label? registrationLabel =
      stored.metadata.label? registrationLabel) :
    store.Descends (store.supplant stored (store.replacement stored next)) := by
  intro read later laterMem
  unfold supplant at laterMem
  split at laterMem
  · rw [list_with_lastVersion] at laterMem
    exact ⟨later, mem_list_of_mem_list_remove laterMem, rfl, rfl, fun _ => rfl⟩
  · by_cases sameKind : read = kind
    · subst sameKind
      rcases mem_list_write.1 laterMem with rfl | ⟨wasStored, -⟩
      · exact ⟨stored, present, sameText.symm, rfl,
          fun isDeployment => (sameLabel isDeployment).symm⟩
      · exact ⟨later, wasStored, rfl, rfl, fun _ => rfl⟩
    · rw [list_write_of_ne _ _ _ sameKind] at laterMem
      exact ⟨later, laterMem, rfl, rfl, fun _ => rfl⟩

theorem descends_hold {stored : Object kind} (present : stored ∈ store.list kind) :
    store.Descends (store.supplant stored (store.replacement stored stored.hold)) :=
  descends_supplant present (congrArg ObjectKey.text stored.key_hold)
    fun _ => by simp [Metadata.label?]

theorem descends_letGo {stored : Object kind} (present : stored ∈ store.list kind) :
    store.Descends (store.supplant stored (store.replacement stored stored.letGo)) :=
  descends_supplant present rfl fun _ => rfl

theorem Deletion.descends {stored : Object kind} (deletion : store.Deletion stored after)
    (present : stored ∈ store.list kind) : store.Descends after := by
  intro read later laterMem
  cases deletion with
  | purged free => exact ⟨later, mem_list_of_mem_list_remove laterMem, rfl, rfl, fun _ => rfl⟩
  | marked kept unmarked now =>
      by_cases sameKind : read = kind
      · subst sameKind
        rcases mem_list_write.1 laterMem with rfl | ⟨wasStored, -⟩
        · exact ⟨stored, present, rfl, rfl, fun _ => rfl⟩
        · exact ⟨later, wasStored, rfl, rfl, fun _ => rfl⟩
      · rw [list_write_of_ne _ _ _ sameKind] at laterMem
        exact ⟨later, laterMem, rfl, rfl, fun _ => rfl⟩

theorem Descends.inherits (descends : store.Descends after) : store.Inherits owned after where
  labels later laterMem text labelled := by
    obtain ⟨earlier, earlierMem, sameText, -, sameLabel⟩ := descends _ later laterMem
    exact .inl ⟨earlier, earlierMem, sameText, (sameLabel rfl).trans labelled⟩
  statuses later laterMem := by
    obtain ⟨earlier, earlierMem, sameText, sameStatus, -⟩ := descends _ later laterMem
    exact .inl ⟨earlier, earlierMem, sameText, sameStatus⟩

theorem SameBeside.inherits (same : SameBeside kind store after)
    (notDeployment : Kind.deployment ≠ kind) (notRegistration : Kind.registration ≠ kind) :
    store.Inherits owned after where
  labels later laterMem text labelled := by
    rw [same.list notDeployment] at laterMem
    exact .inl ⟨later, laterMem, rfl, labelled⟩
  statuses later laterMem := by
    rw [same.list notRegistration] at laterMem
    exact .inl ⟨later, laterMem, rfl, rfl⟩

/-- A deployment may be written that is unlabelled, labelled as before, or labelled with its own key
where that is allowed. -/
theorem inherits_write_deployment {previous : Option Deployment} {next : Deployment}
    (labelled : ∀ text, next.metadata.label? registrationLabel = some text →
      (∃ deployment ∈ store.list .deployment, deployment.keyText = next.keyText ∧
        deployment.metadata.label? registrationLabel = some text) ∨
      text = next.keyText ∧ owned text) :
    store.Inherits owned (store.write previous next) where
  labels later laterMem text isLabel := by
    rcases mem_list_write.1 laterMem with rfl | ⟨wasStored, -⟩
    · exact labelled text isLabel
    · exact .inl ⟨later, wasStored, rfl, isLabel⟩
  statuses later laterMem := by
    rw [list_write_of_ne _ _ _ (by decide)] at laterMem
    exact .inl ⟨later, laterMem, rfl, rfl⟩

theorem inherits_write_registration {previous : Option Registration} {next : Registration}
    (allowed : owned next.keyText ∨ ∀ deployment ∈ store.list .deployment,
      deployment.metadata.label? registrationLabel ≠ some next.keyText) :
    store.Inherits owned (store.write previous next) where
  labels later laterMem text isLabel := by
    rw [list_write_of_ne _ _ _ (by decide)] at laterMem
    exact .inl ⟨later, laterMem, rfl, isLabel⟩
  statuses later laterMem := by
    rcases mem_list_write.1 laterMem with rfl | ⟨wasStored, -⟩
    · exact .inr allowed
    · exact .inl ⟨later, wasStored, rfl, rfl⟩

theorem inherits_restated_registration {stored : Registration} (status : RegistrationStatus)
    (allowed : owned stored.keyText) :
    store.Inherits owned (store.write (some stored) (store.restated stored status)) :=
  inherits_write_registration (.inl allowed)

theorem inherits_restated_deployment {stored : Deployment} (status : DeploymentStatus)
    (present : stored ∈ store.list .deployment) :
    store.Inherits owned (store.write (some stored) (store.restated stored status)) :=
  inherits_write_deployment fun _ labelled => .inl ⟨stored, present, rfl, labelled⟩

end Store

variable {store after : Store} {key : ObjectKey} {owned : String → Prop}

/-- The pass on a registration has its own key to itself, once the registration is due. -/
theorem Registration.Write.inherits (written : Registration.Write key store after) :
    store.Inherits (fun text => text = key.text ∧ ∃ registration, IsDue store key registration)
      after := by
  cases written with
  | held isFound unmarked unheld =>
      exact (Store.descends_hold (Store.mem_list_of_find? isFound)).inherits
  | spaced isFound absent now =>
      exact (Store.sameBeside_write _ _ _).inherits (by decide) (by decide)
  | @derived registration due absent now =>
      refine Store.inherits_write_deployment fun text labelled => .inr ?_
      have isOwn : registration.key.text = text :=
        Option.some.inj ((Labels.value?_set _ _ _).symm.trans labelled)
      have sameText : registration.keyText = key.text := Store.keyText_of_find? due.isFound
      exact ⟨isOwn.symm, isOwn.symm.trans sameText, registration, due⟩
  | @carried registration existing due deploymentFound lasting =>
      refine Store.inherits_write_deployment fun text labelled => .inr ?_
      have isOwn : registration.key.text = text :=
        Option.some.inj ((Labels.value?_set _ _ _).symm.trans labelled)
      have sameText : registration.keyText = key.text := Store.keyText_of_find? due.isFound
      have isKey : existing.keyText = registration.key.text :=
        Store.keyText_of_find? deploymentFound
      exact ⟨isOwn.symm.trans isKey.symm, isOwn.symm.trans sameText, registration, due⟩
  | synced due deploymentFound fitting =>
      exact Store.inherits_restated_registration _ ⟨Store.keyText_of_find? due.isFound, _, due⟩
  | deleted isFound marked present deletion => exact (deletion.descends present).inherits
  | letGo isFound marked gone =>
      exact (Store.descends_letGo (Store.mem_list_of_find? isFound)).inherits
  | recorded due unnamed now =>
      exact Store.inherits_restated_registration _ ⟨Store.keyText_of_find? due.isFound, _, due⟩

theorem Deployment.Write.inherits (written : Deployment.Write key store after) :
    store.Inherits owned after := by
  cases written with
  | held isFound unmarked unheld =>
      exact (Store.descends_hold (Store.mem_list_of_find? isFound)).inherits
  | created | renewed | placed | released =>
      exact (Store.sameBeside_write _ _ _).inherits (by decide) (by decide)
  | settled isFound realises =>
      exact Store.inherits_restated_deployment _ (Store.mem_list_of_find? isFound)
  | cleared isFound marked vacant =>
      exact Store.inherits_restated_deployment _ (Store.mem_list_of_find? isFound)
  | letGo isFound marked vacant =>
      exact (Store.descends_letGo (Store.mem_list_of_find? isFound)).inherits
  | deleted isFound marked realises unmarked deletion =>
      exact (deletion.descends realises.1).inherits
  | recorded isFound record =>
      exact Store.inherits_restated_deployment _ (Store.mem_list_of_find? isFound)

/-- A report has the key to itself that the label spells. -/
theorem Deployment.Report.inherits (written : Deployment.Report key store after)
    (labelsOwn : store.LabelsOwn) : store.Inherits (· = key.text) after := by
  cases written with
  | reported isFound named labelled spelled registrationFound =>
      refine Store.inherits_restated_registration _ ?_
      have isOwn := labelsOwn _ (Store.mem_list_of_find? isFound) _ labelled
      rw [Store.keyText_of_find? registrationFound,
        ObjectKey.text_of_ofText? spelled, isOwn]
      exact Store.keyText_of_find? isFound

theorem TenantInstance.Write.inherits (written : TenantInstance.Write key store after) :
    store.Inherits owned after := by
  cases written with
  | held isFound unmarked unheld =>
      exact (Store.descends_hold (Store.mem_list_of_find? isFound)).inherits
  | letGo isFound marked isHeld released =>
      exact (Store.descends_letGo (Store.mem_list_of_find? isFound)).inherits
  | released | recorded =>
      exact (Store.sameBeside_write _ _ _).inherits (by decide) (by decide)

theorem Target.Write.inherits (written : Target.Write key store after) :
    store.Inherits owned after := by
  cases written with
  | published => exact (Store.sameBeside_write _ _ _).inherits (by decide) (by decide)

namespace Admission

variable {kind : Kind} {object : Object kind}

/-- What a document creates has no past, and no label that leads to a registration. -/
theorem inherits_of_create (anchored : store.IsAnchored) {next : Object kind}
    (unlabelled : kind = .deployment → next.metadata.label? registrationLabel = none)
    (absent : store.find? kind next.key = none) :
    store.Inherits owned (store.write none next) := by
  cases kind with
  | deployment =>
      refine Store.inherits_write_deployment fun text labelled => ?_
      rw [unlabelled rfl] at labelled
      contradiction
  | registration =>
      refine Store.inherits_write_registration (.inr fun deployment present labelled => ?_)
      -- a deployment that names the new registration would have one of its key stored
      obtain ⟨registration, isStored, sameText, -⟩ := anchored.exists_origin present labelled
      exact Store.keyText_ne_of_find?_eq_none absent isStored sameText
  | tenantSpace | target | tenantInstance | scheduling =>
      exact (Store.sameBeside_write _ _ _).inherits (by decide) (by decide)

theorem Write.inherits (written : Write object store after) (anchored : store.IsAnchored)
    (unclaimed : object.IsUnclaimed) : store.Inherits owned after := by
  cases written with
  | @created complete name now sameMetadata sameStatus isName isMade absent =>
      refine inherits_of_create anchored (fun isDeployment => ?_) absent
      have unlabelled := unclaimed.unlabelled isDeployment
      rw [← sameMetadata] at unlabelled
      exact unlabelled
  | updated isFound sameMetadata permitted =>
      exact (Store.descends_supplant (Store.mem_list_of_find? isFound)
        (keyText_of_update isFound sameMetadata)
        (label?_of_update unclaimed.unlabelled sameMetadata)).inherits

end Admission

end TenantFleet
