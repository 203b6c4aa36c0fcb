import TenantFleet.Proofs.Coherence.Documents
import TenantFleet.Proofs.Isolation.Causes

/-!
# Documents that stay in their namespaces

What users hand in may have labels, finalizers and owners of their choice.  It
keeps a store isolated when its names have no separators in them, when it has no
status, and when no deployment is labelled with a registration of another
namespace; a managed label that is carried over from the stored object was put
on an object of the same namespace.
-/

namespace TenantFleet

/-- Neither the namespace nor the name, given or to be completed, has a separator in it. -/
structure Metadata.HasPlainParts (metadata : Metadata) : Prop where
  scope : IsPlainText metadata.scope
  name : IsPlainText metadata.name
  start : IsPlainText metadata.generateName

/-- The object of a user has no status, and names nothing of another namespace. -/
structure Object.StaysHome {kind : Kind} (object : Object kind) : Prop where
  parts : object.metadata.HasPlainParts
  blank : object.status = kind.initialStatus
  home : kind = .deployment → object.metadata.PointsHome

def Manifest.StaysHome : Manifest → Prop
  | .tenantSpace object => object.StaysHome
  | .target object => object.StaysHome
  | .deployment object => object.StaysHome
  | .registration object => object.StaysHome
  | .scheduling draft => draft.metadata.HasPlainParts

theorem Metadata.PointsHome.withManaged {metadata stored : Metadata} (home : metadata.PointsHome)
    (storedHome : stored.PointsHome) (sameScope : metadata.scope = stored.scope) :
    (metadata.withManaged stored).PointsHome := by
  intro text key labelled spelled
  have isScope : (metadata.withManaged stored).scope = metadata.scope := rfl
  rw [isScope]
  rw [Metadata.label?_withManaged, if_pos isManaged_registrationLabel] at labelled
  cases own : metadata.label? registrationLabel with
  | some value =>
      rw [own, Option.some_or] at labelled
      exact home text key (own.trans labelled) spelled
  | none =>
      rw [own, Option.none_or] at labelled
      rw [sameScope]
      exact storedHome text key labelled spelled

namespace Admission

variable {store after : Store} {deliveries : List Delivery} {kind : Kind} {object : Object kind}

theorem isIsolated_of_create (isolated : store.IsIsolated deliveries)
    (notInstance : kind ≠ .tenantInstance) (stays : object.StaysHome) {complete : Object kind}
    (sameMetadata : complete.metadata = object.metadata)
    (sameStatus : complete.status = object.status) {name : String} (plainName : IsPlainText name)
    (now : Nat) (absent : store.find? kind (store.initialObject complete name now).key = none) :
    (store.write none (store.initialObject complete name now)).IsIsolated deliveries := by
  have blank : complete.status = kind.initialStatus := sameStatus.trans stays.blank
  have plainScope : IsPlainText complete.metadata.scope := sameMetadata ▸ stays.parts.scope
  refine isolated.create absent ⟨plainScope, plainName⟩ ?_
  cases kind with
  | deployment =>
      have home : complete.metadata.PointsHome := sameMetadata ▸ stays.home rfl
      refine ⟨home.congr rfl rfl, fun key isKey => ?_⟩
      simp [blank, Kind.initialStatus] at isKey
  | registration => exact .inl (congrArg RegistrationStatus.userKubeconfig blank)
  | tenantInstance => contradiction
  | tenantSpace | target | scheduling => trivial

theorem isIsolated_of_update (isolated : store.IsIsolated deliveries) (stays : object.StaysHome)
    {stored complete : Object kind} (isFound : store.find? kind object.key = some stored)
    (sameMetadata : complete.metadata = object.metadata.withManaged stored.metadata)
    (notInstance : kind ≠ .tenantInstance) :
    (store.supplant stored (store.replacement stored complete)).IsIsolated deliveries := by
  have present := Store.mem_list_of_find? isFound
  have isKey := isolated.eq_key_of_find? ⟨stays.parts.scope, stays.parts.name⟩ isFound
  have sameKey : complete.key = stored.key := (congrArg Metadata.key sameMetadata).trans isKey.symm
  have apart := isolated.apart kind stored present
  refine isolated.supplant present sameKey ?_
  cases kind with
  | deployment =>
      have sameScope : object.metadata.scope = stored.metadata.scope :=
        congrArg ObjectKey.scope isKey.symm
      have home : complete.metadata.PointsHome :=
        sameMetadata ▸ (stays.home rfl).withManaged apart.home sameScope
      refine ⟨home.congr rfl rfl, fun key isNamed => ?_⟩
      rw [Store.key_replacement, sameKey]
      exact apart.realised key isNamed
  | registration =>
      change IsDelivered deliveries complete.key.scope _
      rw [sameKey]
      exact apart
  | tenantInstance => contradiction
  | tenantSpace | target | scheduling => trivial

theorem Write.isIsolated (written : Write object store after)
    (isolated : store.IsIsolated deliveries) (notInstance : kind ≠ .tenantInstance)
    (stays : object.StaysHome) : after.IsIsolated deliveries := by
  cases written with
  | @created complete name now sameMetadata sameStatus isName isMade absent =>
      have plainName : IsPlainText name := by
        by_cases named : object.metadata.name = ""
        · obtain ⟨suffix, rfl⟩ := isMade named
          exact stays.parts.start.append (NameSuffix.isPlainText_text suffix)
        · rw [isName named]
          exact stays.parts.name
      exact isIsolated_of_create isolated notInstance stays sameMetadata sameStatus plainName now
        absent
  | updated isFound sameMetadata permitted =>
      exact isIsolated_of_update isolated stays isFound sameMetadata notInstance

theorem Write.changesAtHome (written : Write object store after) (stays : object.StaysHome) :
    store.ChangesAtHome after := by
  cases written with
  | created now sameMetadata sameStatus isName isMade absent =>
      exact Store.changesAtHome_create absent (sameStatus.trans stays.blank)
  | updated isFound sameMetadata permitted =>
      exact Store.changesAtHome_supplant (Store.mem_list_of_find? isFound)
        ((congrArg (fun metadata => metadata.key.text) sameMetadata).trans
          (Store.keyText_of_find? isFound).symm)

end Admission

/-- What a document that stays in its namespace writes is one object that does. -/
theorem Manifest.Write.exists_object {manifest : Manifest} {store after : Store}
    (written : manifest.Write store after) (stays : manifest.StaysHome) :
    ∃ (kind : Kind) (object : Object kind), kind ≠ .tenantInstance ∧ object.StaysHome ∧
      Admission.Write object store after := by
  cases written with
  | tenantSpace written => exact ⟨_, _, by decide, stays, written⟩
  | target written => exact ⟨_, _, by decide, stays, written⟩
  | deployment written => exact ⟨_, _, by decide, stays, written⟩
  | registration written => exact ⟨_, _, by decide, stays, written⟩
  | @scheduling draft scheduling _ _ accepted written =>
      have parts : scheduling.metadata.HasPlainParts :=
        (SchedulingDraft.metadata_of_reviewed accepted).symm ▸ stays
      exact ⟨_, _, by decide, ⟨parts, rfl, fun isDeployment => by contradiction⟩, written⟩

end TenantFleet
