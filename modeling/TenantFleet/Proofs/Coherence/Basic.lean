import TenantFleet.Placement.Score
import TenantFleet.Proofs.Coherence.Naming
import TenantFleet.Proofs.Store.Reference

/-!
# Coherent stores

A store is coherent when what its objects say of each other is true.  A target
lists stored instances that were placed on it; an instance names a stored
deployment that is held back by the finalizer; a deployment that was derived
from a registration names a stored one that is held back likewise.  Coherence
also has what these rest on: plain keys, an exact index, and one instance for a
deployment at most.
-/

namespace TenantFleet

/-- A target refers to the instances that it lists. -/
def placeReference : Reference .target .tenantInstance where
  Token := ObjectKey
  Holds target key := key ∈ target.status.assigned
  Bears target key realised := realised.key = key ∧ realised.spec.targetKey = target.key
  distinct := by decide

/-- An instance refers to its deployment by the label that it was made with. -/
def ownerReference : Reference .tenantInstance .deployment where
  Token := String
  Holds realised text := realised.metadata.label? deploymentLabel = some text
  Bears realised text deployment :=
    deployment.keyText = text ∧ deployment.isHeld = true ∧
      realised.key.IsNamedAfter deployment.key
  distinct := by decide

/-- A deployment refers to the registration that it was derived from by a label. -/
def originReference : Reference .deployment .registration where
  Token := String
  Holds deployment text := deployment.metadata.label? registrationLabel = some text
  Bears _ text registration := registration.keyText = text ∧ registration.isHeld = true
  distinct := by decide

/-- The target lists no instance twice. -/
def Target.IsSound (target : Target) : Prop :=
  target.status.assigned.Nodup

/-- There is no finalizer, or that of the control plane alone. -/
def Metadata.HasOwnFinalizers (metadata : Metadata) : Prop :=
  metadata.finalizers = [] ∨ metadata.finalizers = [finalizer]

/-- Only the control plane keeps the deployment, whose status names an instance that was made for
it, if any. -/
structure Deployment.IsSound (deployment : Deployment) : Prop where
  own : deployment.metadata.HasOwnFinalizers
  named : ∀ key, deployment.status.instanceKey = some key → key.IsNamedAfter deployment.key

/-- Only the control plane keeps the registration. -/
def Registration.IsSound (registration : Registration) : Prop :=
  registration.metadata.HasOwnFinalizers

/-- The instance has what it was made with: the finalizer, and the label of a deployment. -/
structure TenantInstance.IsSound (realised : TenantInstance) : Prop where
  held : realised.metadata.finalizers = [finalizer]
  labelled : ∃ text, realised.metadata.labels = Labels.set .empty deploymentLabel text
  targeted : realised.spec.targetKey.IsPlain

/-- The object by itself is as it should be. -/
def Object.IsSound : {kind : Kind} → Object kind → Prop
  | .target, target => Target.IsSound target
  | .deployment, deployment => Deployment.IsSound deployment
  | .tenantInstance, realised => TenantInstance.IsSound realised
  | .registration, registration => Registration.IsSound registration
  | .tenantSpace, _ | .scheduling, _ => True

namespace Store

/-- No two instances bear the label of one deployment. -/
def IsSingle (store : Store) : Prop :=
  ∀ first ∈ store.list .tenantInstance, ∀ second ∈ store.list .tenantInstance, ∀ text,
    first.metadata.label? deploymentLabel = some text →
      second.metadata.label? deploymentLabel = some text → first = second

/-- What the stored objects say of each other is true. -/
structure IsCoherent (store : Store) : Prop where
  plain : store.HasPlainKeys
  indexed : store.IsIndexed
  sound : ∀ kind, ∀ object ∈ store.list kind, Object.IsSound object
  places : store.Honours placeReference
  owners : store.Honours ownerReference
  origins : store.Honours originReference
  single : store.IsSingle

theorem isCoherent_empty : ({} : Store).IsCoherent where
  plain kind object present := by simp at present
  indexed := isIndexed_empty
  sound kind object present := by simp at present
  places := honours_empty placeReference
  owners := honours_empty ownerReference
  origins := honours_empty originReference
  single first present := by simp at present

namespace IsCoherent

variable {store : Store} {kind : Kind}

theorem eq_key_of_find? (coherent : store.IsCoherent) {key : ObjectKey} {object : Object kind}
    (plain : key.IsPlain) (found : store.find? kind key = some object) : object.key = key :=
  ObjectKey.eq_of_text_eq (coherent.plain kind object (mem_list_of_find? found)) plain
    (keyText_of_find? found)

theorem sound_instance (coherent : store.IsCoherent) {realised : TenantInstance}
    (present : realised ∈ store.list .tenantInstance) : TenantInstance.IsSound realised :=
  coherent.sound .tenantInstance realised present

/-- Every instance has its deployment. -/
theorem exists_owner (coherent : store.IsCoherent) {realised : TenantInstance}
    (present : realised ∈ store.list .tenantInstance) :
    ∃ deployment ∈ store.list .deployment,
      realised.metadata.label? deploymentLabel = some deployment.keyText ∧
        deployment.isHeld = true ∧ realised.key.IsNamedAfter deployment.key := by
  obtain ⟨text, isLabels⟩ := (coherent.sound_instance present).labelled
  have labelled : realised.metadata.label? deploymentLabel = some text := by
    simp [Metadata.label?, isLabels]
  obtain ⟨deployment, deploymentPresent, rfl, isHeld, named⟩ :=
    coherent.owners realised present text labelled
  exact ⟨deployment, deploymentPresent, labelled, isHeld, named⟩

/-- The label of an instance is the key that its own key was made from. -/
theorem label_eq_of_isNamedAfter (coherent : store.IsCoherent) {realised : TenantInstance}
    (present : realised ∈ store.list .tenantInstance) {owner : ObjectKey}
    (named : realised.key.IsNamedAfter owner) :
    realised.metadata.label? deploymentLabel = some owner.text := by
  obtain ⟨deployment, -, labelled, -, namedAfter⟩ := coherent.exists_owner present
  rw [labelled, Object.keyText, named.owner_eq namedAfter]

end IsCoherent

end Store

end TenantFleet
