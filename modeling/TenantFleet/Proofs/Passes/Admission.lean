import TenantFleet.Document.Manifest
import TenantFleet.Proofs.Passes.Running

/-!
# What users write

A document that is applied creates its object or replaces the stored one of the
same key; what replaces it keeps the finalizers, the owners and the labels of the
control plane.
-/

namespace TenantFleet

namespace Object

variable {kind : Kind}

@[simp]
theorem metadata_withDefaults (object : Object kind) :
    object.withDefaults.metadata = object.metadata := by
  cases kind with
  | target =>
      simp only [withDefaults]
      split <;> rfl
  | tenantSpace | deployment | tenantInstance | registration | scheduling => rfl

@[simp]
theorem status_withDefaults (object : Object kind) :
    object.withDefaults.status = object.status := by
  cases kind with
  | target =>
      simp only [withDefaults]
      split <;> rfl
  | tenantSpace | deployment | tenantInstance | registration | scheduling => rfl

/-- What is filled in depends on the spec and on the namespace. -/
theorem spec_withDefaults_of_sameNamespace {first second : Object kind}
    (sameSpec : first.spec = second.spec)
    (sameScope : first.metadata.scope = second.metadata.scope) :
    first.withDefaults.spec = second.withDefaults.spec := by
  cases kind with
  | target =>
      simp only [withDefaults, sameSpec, sameScope]
      split <;> simp [sameSpec]
  | tenantSpace | deployment | tenantInstance | registration | scheduling =>
      simp [withDefaults, sameSpec]

theorem eq_of_acceptedWith {object accepted : Object kind} {errors : List FieldError}
    (isAccepted : object.acceptedWith errors = .ok accepted) :
    accepted = object ∧ errors = [] := by
  unfold acceptedWith at isAccepted
  split at isAccepted
  next faultless => exact ⟨(Except.ok.inj isAccepted).symm, by simpa using faultless⟩
  next => contradiction

theorem acceptedWith_of_nil {object : Object kind} {errors : List FieldError}
    (faultless : errors = []) : object.acceptedWith errors = .ok object := by
  simp [acceptedWith, faultless]

theorem reviewed_of_errors {object : Object kind} (faultless : object.withDefaults.errors = []) :
    object.reviewed = .ok object.withDefaults :=
  acceptedWith_of_nil faultless

end Object

namespace Admission

variable {kind : Kind} {object : Object kind} {world : World}

/-- A write of a user's object, which has no errors; a scheduling is reviewed as it is spelled. -/
inductive Write (object : Object kind) (store : Store) : Store → Prop
  | created {complete : Object kind} {name : String} (now : Nat)
      (sameMetadata : complete.metadata = object.metadata)
      (sameStatus : complete.status = object.status)
      (isName : object.metadata.name ≠ "" → name = object.metadata.name)
      (isMade : object.metadata.name = "" →
        ∃ suffix, name = object.metadata.generateName ++ NameSuffix.text suffix)
      (absent : store.find? kind (store.initialObject complete name now).key = none)
      (faultless : kind ≠ .scheduling → complete.errors = [])
      (sameSpec : complete.spec = object.withDefaults.spec) :
      Write object store (store.write none (store.initialObject complete name now))
  | updated {stored complete : Object kind}
      (isFound : store.find? kind object.key = some stored)
      (sameMetadata : complete.metadata = object.metadata.withManaged stored.metadata)
      (permitted : complete.changeErrors stored = [])
      (faultless : kind ≠ .scheduling → complete.errors = [])
      (sameSpec : complete.spec = object.withDefaults.spec) :
      Write object store (store.supplant stored (store.replacement stored complete))

theorem Write.sameBeside {store after : Store} (written : Write object store after) :
    Store.SameBeside kind store after := by
  cases written with
  | created => exact Store.sameBeside_write _ _ _
  | updated => exact Store.sameBeside_supplant _ _ _

theorem keyText_of_update {store : Store} {stored complete : Object kind}
    (isFound : store.find? kind object.key = some stored)
    (sameMetadata : complete.metadata = object.metadata.withManaged stored.metadata) :
    complete.keyText = stored.keyText :=
  (congrArg (fun metadata => metadata.key.text) sameMetadata).trans
    (Store.keyText_of_find? isFound).symm

/-- What replaces a stored object keeps its finalizers. -/
theorem finalizers_of_update {stored complete : Object kind}
    (sameMetadata : complete.metadata = object.metadata.withManaged stored.metadata) :
    complete.metadata.finalizers = stored.metadata.finalizers :=
  (congrArg Metadata.finalizers sameMetadata).trans rfl

/-- What replaces a stored object is not spent if that is not. -/
theorem isSpent_replacement (store : Store) {stored complete : Object kind}
    (sameMetadata : complete.metadata = object.metadata.withManaged stored.metadata)
    (kept : Store.isSpent stored = false) :
    Store.isSpent (store.replacement stored complete) = false := by
  simpa only [Store.isSpent, Store.isMarked_replacement, Store.finalizers_replacement,
    finalizers_of_update sameMetadata] using kept

theorem runOn_ofReview_bind {α β : Type} (review : Except Rejection α)
    (next : α → Pass WriteRefusal β) (world : World) :
    (ofReview review >>= next).runOn world =
      match review with
      | .ok accepted => (next accepted).runOn world
      | .error rejection => (.error (.rejected rejection), world) := by
  cases review <;> rfl

/-- Creating an object that review has completed. -/
theorem through_createReviewed {complete : Object kind}
    (sameMetadata : complete.metadata = object.metadata)
    (sameStatus : complete.status = object.status)
    (faultless : kind ≠ .scheduling → complete.errors = [])
    (sameSpec : complete.spec = object.withDefaults.spec) :
    World.Through (Write object) world
      (((World.create complete).mapError WriteRefusal.store).runOn world).2 := by
  rw [Pass.runOn_mapError]
  cases done : world.store.create complete world.clock.next world.suffixes.ahead with
  | error error =>
      rw [World.runOn_create_of_error done]
      exact .idle rfl rfl
  | ok result =>
      obtain ⟨created, after⟩ := result
      rw [World.runOn_create_of_ok done]
      obtain ⟨name, named, rfl, absent, rfl⟩ := Store.stored_of_create done
      have names := Store.nameFor_eq_ok named
      rw [sameMetadata] at names
      refine .of_create
        (.created _ sameMetadata sameStatus (fun own => ?_) (fun unnamed => ?_) absent faultless
          sameSpec)
      · exact (names.resolve_right fun completed => own completed.1).2
      · obtain ⟨-, -, attempt, isMade⟩ := names.resolve_left fun isOwn => isOwn.1 unnamed
        exact ⟨_, isMade⟩

/-- What takes in a user's version of a stored object puts it in the place of that object. -/
theorem eq_supplant_of_update {store after : Store} {stored complete updated : Object kind}
    (isFound : store.find? kind object.key = some stored)
    (sameMetadata : complete.metadata = object.metadata.withManaged stored.metadata)
    (done : store.update complete = .ok (updated, after)) :
    updated = store.replacement stored complete ∧ after = store.supplant stored updated := by
  obtain ⟨current, present, sameText, rfl, rfl⟩ := Store.stored_of_update done
  have isStored : current = stored :=
    Store.eq_of_keyText_eq present (Store.mem_list_of_find? isFound)
      (sameText.trans (keyText_of_update isFound sameMetadata))
  exact isStored ▸ ⟨rfl, rfl⟩

/-- Replacing a stored object by a user's version that review has completed. -/
theorem through_updateReviewed {stored complete : Object kind}
    (isFound : world.store.find? kind object.key = some stored)
    (sameMetadata : complete.metadata = object.metadata.withManaged stored.metadata)
    (permitted : complete.changeErrors stored = [])
    (faultless : kind ≠ .scheduling → complete.errors = [])
    (sameSpec : complete.spec = object.withDefaults.spec) :
    World.Through (Write object) world
      (((World.update complete).mapError WriteRefusal.store).runOn world).2 := by
  rw [Pass.runOn_mapError]
  cases done : world.store.update complete with
  | error error =>
      rw [World.runOn_update_of_error done]
      exact .refl world
  | ok result =>
      obtain ⟨updated, after⟩ := result
      rw [World.runOn_update_of_ok done]
      obtain ⟨rfl, rfl⟩ := eq_supplant_of_update isFound sameMetadata done
      exact .of_commit (.updated isFound sameMetadata permitted faultless sameSpec)

theorem through_create : World.Through (Write object) world ((create object).runOn world).2 := by
  unfold create
  rw [runOn_ofReview_bind]
  cases review : object.reviewed with
  | error rejection => exact .refl world
  | ok complete =>
      obtain ⟨rfl, faultless⟩ := Object.eq_of_acceptedWith review
      exact through_createReviewed object.metadata_withDefaults object.status_withDefaults
        (fun _ => faultless) rfl

theorem through_update : World.Through (Write object) world ((update object).runOn world).2 := by
  unfold update
  rw [Pass.runOn_bind, Pass.runOn_mapError, World.runOn_reading]
  cases isRead : world.store.read kind object.key with
  | error error => exact .refl world
  | ok found =>
      cases found with
      | none => exact .refl world
      | some stored =>
          rw [Pass.mapError_ok]
          simp only
          rw [runOn_ofReview_bind]
          cases review : reviewUpdate stored object with
          | error rejection => exact .refl world
          | ok complete =>
              obtain ⟨rfl, unopposed⟩ := Object.eq_of_acceptedWith review
              obtain ⟨faultless, permitted⟩ := List.append_eq_nil_iff.1 unopposed
              exact through_updateReviewed (Store.find?_of_read isRead)
                (Object.metadata_withDefaults _) permitted (fun _ => faultless)
                (Object.spec_withDefaults_of_sameNamespace rfl rfl)

theorem through_apply (object : Object kind) (world : World) :
    World.Through (Write object) world ((apply object).runOn world).2 := by
  have creating : World.Through (Write object) world
      (((create object) >>= fun created =>
        pure (ApplyEffect.created, created) : Pass WriteRefusal _).runOn world).2 :=
    .bind through_create fun _ after _ => .refl after
  unfold apply
  by_cases unnamed : object.metadata.name = ""
  · rw [if_pos unnamed]
    exact creating
  · rw [if_neg unnamed, Pass.runOn_bind, Pass.runOn_mapError, World.runOn_reading]
    cases isRead : world.store.read kind object.key with
    | error error => exact .refl world
    | ok found =>
        cases found with
        | none => exact creating
        | some stored => exact .bind through_update fun _ after _ => .refl after

theorem through_applyScheduling {draft : SchedulingDraft} {scheduling : Scheduling}
    (accepted : draft.reviewed = .ok scheduling) (world : World) :
    World.Through (Write scheduling) world ((applyScheduling draft).runOn world).2 := by
  unfold applyScheduling
  rw [runOn_ofReview_bind, accepted]
  simp only
  rw [Pass.runOn_bind, Pass.runOn_mapError, World.runOn_reading]
  cases isRead : world.store.read .scheduling scheduling.key with
  | error error => exact .refl world
  | ok found =>
      cases found with
      | none =>
          exact .bind (through_createReviewed rfl rfl (fun other => absurd rfl other) rfl)
            fun _ after _ => .refl after
      | some stored =>
          exact .bind (through_updateReviewed (Store.find?_of_read isRead) rfl rfl
            (fun other => absurd rfl other) rfl) fun _ after _ => .refl after

end Admission

namespace Manifest

/-- A write of an object that a user hands in. -/
inductive Write : Manifest → Store → Store → Prop
  | tenantSpace {object : TenantSpace} {before after : Store}
      (written : Admission.Write object before after) : Write (.tenantSpace object) before after
  | target {object : Target} {before after : Store}
      (written : Admission.Write object before after) : Write (.target object) before after
  | deployment {object : Deployment} {before after : Store}
      (written : Admission.Write object before after) : Write (.deployment object) before after
  | registration {object : Registration} {before after : Store}
      (written : Admission.Write object before after) : Write (.registration object) before after
  | scheduling {draft : SchedulingDraft} {scheduling : Scheduling} {before after : Store}
      (accepted : draft.reviewed = .ok scheduling)
      (written : Admission.Write scheduling before after) : Write (.scheduling draft) before after

theorem through_report {kind : Kind} {object : Object kind} (world : World)
    {wider : Store → Store → Prop}
    (included : ∀ {before after : Store}, Admission.Write object before after →
      wider before after) :
    World.Through wider world
      ((do return Report.on (← Admission.apply object) : Pass WriteRefusal Report).runOn world).2 :=
  .bind ((Admission.through_apply object world).mono included) fun _ after _ => .refl after

theorem through_apply (manifest : Manifest) (world : World) :
    World.Through (Write manifest) world (manifest.apply.runOn world).2 := by
  cases manifest with
  | tenantSpace object => exact through_report world .tenantSpace
  | target object => exact through_report world .target
  | deployment object => exact through_report world .deployment
  | registration object => exact through_report world .registration
  | scheduling draft =>
      cases accepted : draft.reviewed with
      | error rejection =>
          change World.Through _ world
            ((Admission.applyScheduling draft >>= fun outcome =>
              pure (Report.on outcome) : Pass WriteRefusal Report).runOn world).2
          rw [Pass.runOn_bind]
          unfold Admission.applyScheduling
          rw [Admission.runOn_ofReview_bind, accepted]
          exact .refl world
      | ok scheduling =>
          exact .bind ((Admission.through_applyScheduling accepted world).mono
            (.scheduling accepted)) fun _ after _ => .refl after

end Manifest

end TenantFleet
