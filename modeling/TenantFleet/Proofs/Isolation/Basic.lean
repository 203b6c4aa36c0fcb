import TenantFleet.Proofs.Coherence.Naming
import TenantFleet.Proofs.Store.Outcome

/-!
# Isolated stores

A store is isolated when each of its objects keeps to its own namespace: the
label of a deployment spells no registration of another, its status names no
instance of another, an instance belongs to a deployment of its own, and the
access files of instances and registrations were delivered there.  All of it is
said of one object at a time, so a change of one object has to answer for that
object only.
-/

namespace TenantFleet

/-- An access file that the runtime has put on an instance of a namespace. -/
structure Delivery where
  scope : String
  access : String
deriving DecidableEq, Repr

/-- The access file is empty, or was delivered to the namespace. -/
def IsDelivered (deliveries : List Delivery) (scope access : String) : Prop :=
  access = "" ∨ ⟨scope, access⟩ ∈ deliveries

instance (deliveries : List Delivery) (scope access : String) :
    Decidable (IsDelivered deliveries scope access) :=
  inferInstanceAs (Decidable (_ ∨ _))

/-- The registration label, where it spells a key, spells one of the object's own namespace. -/
def Metadata.PointsHome (metadata : Metadata) : Prop :=
  ∀ text key, metadata.label? registrationLabel = some text → ObjectKey.ofText? text = some key →
    key.scope = metadata.scope

structure Deployment.IsApart (deployment : Deployment) : Prop where
  home : deployment.metadata.PointsHome
  realised : ∀ key, deployment.status.instanceKey = some key →
    key.IsPlain ∧ key.scope = deployment.key.scope

/-- The instance belongs to a deployment of its own namespace, and so does what it holds. -/
structure TenantInstance.IsApart (deliveries : List Delivery) (realised : TenantInstance) :
    Prop where
  owner : ∃ owner : ObjectKey, owner.IsPlain ∧ owner.scope = realised.key.scope ∧
    realised.metadata.labels = Labels.set .empty deploymentLabel owner.text
  delivered : IsDelivered deliveries realised.key.scope realised.status.userKubeconfig

def Registration.IsApart (deliveries : List Delivery) (registration : Registration) : Prop :=
  IsDelivered deliveries registration.key.scope registration.status.userKubeconfig

/-- The object keeps to its namespace. -/
def Object.IsApart (deliveries : List Delivery) : {kind : Kind} → Object kind → Prop
  | .deployment, deployment => Deployment.IsApart deployment
  | .tenantInstance, realised => TenantInstance.IsApart deliveries realised
  | .registration, registration => Registration.IsApart deliveries registration
  | .tenantSpace, _ | .target, _ | .scheduling, _ => True

theorem IsDelivered.mono {deliveries more : List Delivery} {scope access : String}
    (delivered : IsDelivered deliveries scope access) (included : deliveries ⊆ more) :
    IsDelivered more scope access :=
  delivered.imp_right fun isOne => included isOne

theorem Object.IsApart.mono {deliveries more : List Delivery} {kind : Kind} {object : Object kind}
    (apart : object.IsApart deliveries) (included : deliveries ⊆ more) : object.IsApart more := by
  cases kind with
  | tenantInstance => exact ⟨apart.owner, apart.delivered.mono included⟩
  | registration => exact IsDelivered.mono apart included
  | deployment | tenantSpace | target | scheduling => exact apart

namespace Store

/-- Every object of the store keeps to its namespace. -/
structure IsIsolated (store : Store) (deliveries : List Delivery) : Prop where
  plain : store.HasPlainKeys
  indexed : store.IsIndexed
  apart : ∀ kind, ∀ object ∈ store.list kind, Object.IsApart deliveries object

variable {store after : Store} {deliveries more : List Delivery} {kind : Kind}

theorem isIsolated_empty (deliveries : List Delivery) : ({} : Store).IsIsolated deliveries where
  plain kind object present := by simp at present
  indexed := isIndexed_empty
  apart kind object present := by simp at present

namespace IsIsolated

theorem mono (isolated : store.IsIsolated deliveries) (included : deliveries ⊆ more) :
    store.IsIsolated more :=
  { isolated with
    apart := fun kind object present => (isolated.apart kind object present).mono included }

theorem eq_key_of_find? (isolated : store.IsIsolated deliveries) {key : ObjectKey}
    {object : Object kind} (plain : key.IsPlain) (found : store.find? kind key = some object) :
    object.key = key :=
  ObjectKey.eq_of_text_eq (isolated.plain kind object (mem_list_of_find? found)) plain
    (keyText_of_find? found)

theorem create (isolated : store.IsIsolated deliveries) {next : Object kind}
    (absent : store.find? kind next.key = none) (plain : next.key.IsPlain)
    (apart : next.IsApart deliveries) : (store.write none next).IsIsolated deliveries where
  plain := forall_mem_list_write isolated.plain plain
  indexed := isolated.indexed.write isolated.plain.nulFree absent
  apart := forall_mem_list_write isolated.apart apart

theorem replace (isolated : store.IsIsolated deliveries) {stored next : Object kind}
    (present : stored ∈ store.list kind) (sameKey : next.key = stored.key)
    (apart : next.IsApart deliveries) :
    (store.write (some stored) next).IsIsolated deliveries := by
  have plain : next.key.IsPlain := sameKey ▸ isolated.plain kind stored present
  exact {
    plain := forall_mem_list_write isolated.plain plain
    indexed := isolated.indexed.write isolated.plain.nulFree (sameKey ▸ find?_key_of_mem present)
    apart := forall_mem_list_write isolated.apart apart }

theorem remove (isolated : store.IsIsolated deliveries) {current : Object kind}
    (present : current ∈ store.list kind) : (store.remove current).IsIsolated deliveries where
  plain read object isStored := isolated.plain read object (mem_list_of_mem_list_remove isStored)
  indexed := isolated.indexed.remove isolated.plain.nulFree present
  apart read object isStored := isolated.apart read object (mem_list_of_mem_list_remove isStored)

theorem with_lastVersion (isolated : store.IsIsolated deliveries) (version : Nat) :
    ({ store with lastVersion := version } : Store).IsIsolated deliveries where
  plain read object isStored := isolated.plain read object (by simpa using isStored)
  indexed := by simpa [IsIndexed] using isolated.indexed
  apart read object isStored := isolated.apart read object (by simpa using isStored)

theorem supplant (isolated : store.IsIsolated deliveries) {stored next : Object kind}
    (present : stored ∈ store.list kind) (sameKey : next.key = stored.key)
    (apart : (store.replacement stored next).IsApart deliveries) :
    (store.supplant stored (store.replacement stored next)).IsIsolated deliveries := by
  unfold Store.supplant
  split
  · exact (isolated.remove present).with_lastVersion _
  · exact isolated.replace present sameKey apart

/-- What keeps to its namespace still does with other finalizers, another version or another time
of deletion. -/
theorem deletion (isolated : store.IsIsolated deliveries) {stored : Object kind}
    (present : stored ∈ store.list kind) (deletion : store.Deletion stored after) :
    after.IsIsolated deliveries := by
  cases deletion with
  | purged free => exact isolated.remove present
  | marked kept unmarked now =>
      refine isolated.replace present rfl ?_
      have apart := isolated.apart kind stored present
      cases kind with
      | deployment => exact ⟨apart.home, apart.realised⟩
      | tenantInstance => exact ⟨apart.owner, apart.delivered⟩
      | registration => exact apart
      | tenantSpace | target | scheduling => trivial

theorem restate_target (isolated : store.IsIsolated deliveries) {stored : Target}
    (present : stored ∈ store.list .target) (status : TargetStatus) :
    (store.write (some stored) (store.restated stored status)).IsIsolated deliveries :=
  isolated.replace present rfl trivial

theorem restate_registration (isolated : store.IsIsolated deliveries) {stored : Registration}
    (present : stored ∈ store.list .registration) {status : RegistrationStatus}
    (delivered : IsDelivered deliveries stored.key.scope status.userKubeconfig) :
    (store.write (some stored) (store.restated stored status)).IsIsolated deliveries :=
  isolated.replace present rfl delivered

theorem restate_deployment (isolated : store.IsIsolated deliveries) {stored : Deployment}
    (present : stored ∈ store.list .deployment) {status : DeploymentStatus}
    (realised : ∀ key, status.instanceKey = some key →
      key.IsPlain ∧ key.scope = stored.key.scope) :
    (store.write (some stored) (store.restated stored status)).IsIsolated deliveries := by
  have apart : Deployment.IsApart stored := isolated.apart .deployment stored present
  exact isolated.replace present rfl ⟨apart.home, realised⟩

theorem restate_instance (isolated : store.IsIsolated deliveries) {stored : TenantInstance}
    (present : stored ∈ store.list .tenantInstance) {status : InstanceStatus}
    (delivered : IsDelivered deliveries stored.key.scope status.userKubeconfig) :
    (store.write (some stored) (store.restated stored status)).IsIsolated deliveries := by
  have apart : TenantInstance.IsApart deliveries stored :=
    isolated.apart .tenantInstance stored present
  exact isolated.replace present rfl ⟨apart.owner, delivered⟩

end IsIsolated

end Store

end TenantFleet
