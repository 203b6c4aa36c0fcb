import TenantFleet.Proofs.Codec.Contents
import TenantFleet.Selector.DraftCodec

/-!
# What is written holds and how deep it nests

The only numbers in what is written are the numeric fields of what it stands
for, and nothing in it is garbled, so a manifest may be taken in as a whole
before any of it is read.  No part of an object but its selectors nests more than
a few containers.
-/

namespace TenantFleet

open Json

variable {allowed : Int → Prop}

/-! ### Parts of objects -/

section Parts

variable (key : ObjectKey) (secret : SecretEntry) (failure : FailureRecord) (owner : Owner)
  (configuration : Configuration) (availability : HighAvailability) (dataPlane : DataPlane)
  (metadata : Metadata)

@[simp]
theorem ObjectKey.holdsOnly_toJson : key.toJson.HoldsOnly allowed := by
  simp [toJson]

@[simp]
theorem ObjectKey.nesting_toJson : key.toJson.nesting = 1 := rfl

@[simp]
theorem Owner.holdsOnly_toJson : owner.toJson.HoldsOnly allowed := by
  simp [toJson]

@[simp]
theorem Owner.nesting_toJson : owner.toJson.nesting = 1 := rfl

@[simp]
theorem SecretEntry.holdsOnly_toJson : secret.toJson.HoldsOnly allowed := by
  simp [toJson]

@[simp]
theorem SecretEntry.nesting_toJson : secret.toJson.nesting = 1 := rfl

@[simp]
theorem FailureRecord.holdsOnly_toJson :
    failure.toJson.HoldsOnly allowed ↔
      allowed failure.lastTransitionTime ∧ allowed failure.lastUpdateTime := by
  simp [toJson]

@[simp]
theorem FailureRecord.nesting_toJson : failure.toJson.nesting = 1 := rfl

@[simp]
theorem Configuration.holdsOnly_toJson : configuration.toJson.HoldsOnly allowed := by
  simp [toJson]

@[simp]
theorem Configuration.nesting_toJson_le : configuration.toJson.nesting ≤ 2 := by
  simp [toJson]

@[simp]
theorem HighAvailability.holdsOnly_toJson : availability.toJson.HoldsOnly allowed := by
  simp [toJson]

@[simp]
theorem HighAvailability.nesting_toJson : availability.toJson.nesting = 1 := rfl

@[simp]
theorem DataPlane.holdsOnly_toJson : dataPlane.toJson.HoldsOnly allowed := by
  simp [toJson]

@[simp]
theorem DataPlane.nesting_toJson_le : dataPlane.toJson.nesting ≤ 2 := by
  simp [toJson]

theorem Metadata.holdsOnly_toJson :
    metadata.toJson.HoldsOnly allowed ↔
      allowed metadata.generation ∧ allowed metadata.resourceVersion ∧
        allowed metadata.creationTime ∧ ∀ time ∈ metadata.deletionTime, allowed time := by
  cases metadata with
  | mk _ _ _ _ _ _ _ _ _ _ deletion =>
      cases deletion <;> simp [toJson]

theorem Metadata.nesting_toJson_le : metadata.toJson.nesting ≤ 3 := by
  cases metadata with
  | mk _ _ _ _ _ _ _ _ _ _ deletion =>
      cases deletion <;> simp [toJson]

end Parts

/-! ### Specs and statuses -/

theorem TargetSpec.holdsOnly_toJson (spec : TargetSpec) :
    spec.toJson.HoldsOnly allowed ↔ allowed spec.priority := by
  simp [toJson]

theorem TargetSpec.nesting_toJson_le (spec : TargetSpec) : spec.toJson.nesting ≤ 3 := by
  simp [toJson]

theorem TargetStatus.holdsOnly_toJson (status : TargetStatus) :
    status.toJson.HoldsOnly allowed ↔ ∀ places ∈ status.capacity, allowed places := by
  simp [toJson]

theorem TargetStatus.nesting_toJson_le (status : TargetStatus) : status.toJson.nesting ≤ 3 := by
  simp [toJson]

theorem DeploymentSpec.holdsOnly_toJson (spec : DeploymentSpec) :
    spec.toJson.HoldsOnly allowed := by
  simp [toJson]

theorem DeploymentSpec.nesting_toJson_le (spec : DeploymentSpec) : spec.toJson.nesting ≤ 3 := by
  simp [toJson]

theorem DeploymentStatus.holdsOnly_toJson (status : DeploymentStatus) :
    status.toJson.HoldsOnly allowed ↔
      allowed status.observedGeneration ∧
        ∀ failure ∈ status.lastError, failure.toJson.HoldsOnly allowed := by
  simp [toJson, DataPlaneMode.toJson]

theorem DeploymentStatus.nesting_toJson_le (status : DeploymentStatus) :
    status.toJson.nesting ≤ 3 := by
  simp [toJson, DataPlaneMode.toJson]

theorem InstanceSpec.holdsOnly_toJson (spec : InstanceSpec) : spec.toJson.HoldsOnly allowed := by
  simp [toJson]

theorem InstanceSpec.nesting_toJson_le (spec : InstanceSpec) : spec.toJson.nesting ≤ 3 := by
  simp [toJson]

theorem InstanceStatus.holdsOnly_toJson (status : InstanceStatus) :
    status.toJson.HoldsOnly allowed ↔
      ∀ failure ∈ status.lastError, failure.toJson.HoldsOnly allowed := by
  simp [toJson]

theorem InstanceStatus.nesting_toJson_le (status : InstanceStatus) :
    status.toJson.nesting ≤ 3 := by
  simp [toJson]

theorem RegistrationSpec.holdsOnly_toJson (spec : RegistrationSpec) :
    spec.toJson.HoldsOnly allowed := by
  simp [toJson]

theorem RegistrationSpec.nesting_toJson_le (spec : RegistrationSpec) :
    spec.toJson.nesting ≤ 3 := by
  simp [toJson]

theorem RegistrationStatus.holdsOnly_toJson (status : RegistrationStatus) :
    status.toJson.HoldsOnly allowed ↔
      allowed status.observedGeneration ∧
        ∀ failure ∈ status.lastError, failure.toJson.HoldsOnly allowed := by
  simp [toJson]

theorem RegistrationStatus.nesting_toJson_le (status : RegistrationStatus) :
    status.toJson.nesting ≤ 3 := by
  simp [toJson]

/-! ### Selectors and rules -/

namespace Selector

mutual

theorem holdsOnly_toJson : (selector : Selector) → selector.toJson.HoldsOnly allowed
  | .matchTenant _ | .matchLabel _ _ => by simp [toJson]
  | .allOf children => by simpa [toJson] using holdsOnly_listToJson children
  | .anyOf children => by simpa [toJson] using holdsOnly_listToJson children
  | .negation child => by simpa [toJson] using holdsOnly_toJson child

theorem holdsOnly_listToJson :
    (children : List Selector) → ∀ json ∈ listToJson children, json.HoldsOnly allowed
  | [] => by simp [listToJson]
  | child :: rest => by simpa [listToJson, holdsOnly_toJson child] using holdsOnly_listToJson rest

end

end Selector

theorem SchedulingRule.holdsOnly_toJson (rule : SchedulingRule) :
    rule.toJson.HoldsOnly allowed ↔ allowed rule.priority := by
  simpa [toJson] using fun _ => Selector.holdsOnly_listToJson rule.selectors

theorem SchedulingSpec.holdsOnly_toJson (spec : SchedulingSpec) :
    spec.toJson.HoldsOnly allowed ↔ ∀ rule ∈ spec.rules, allowed rule.priority := by
  simp [toJson, SchedulingRule.holdsOnly_toJson]

namespace SelectorDraft

mutual

theorem holdsOnly_toJson : (draft : SelectorDraft) → draft.toJson.HoldsOnly allowed
  | .node _ _ allOf anyOf negation => by
      simpa [toJson, tenantToJson, LabelMatch.toJson] using
        ⟨holdsOnly_listPlace allOf, holdsOnly_listPlace anyOf, holdsOnly_place negation⟩

theorem holdsOnly_place :
    (child : Option SelectorDraft) → ∀ json ∈ place child, json.HoldsOnly allowed
  | none => by simp [place]
  | some child => by simp [place, holdsOnly_toJson child]

theorem holdsOnly_listPlace :
    (children : Option (List SelectorDraft)) → ∀ json ∈ listPlace children, json.HoldsOnly allowed
  | none => by simp [listPlace]
  | some children => by simpa [listPlace] using holdsOnly_listToJson children

theorem holdsOnly_listToJson :
    (drafts : List SelectorDraft) → ∀ json ∈ listToJson drafts, json.HoldsOnly allowed
  | [] => by simp [listToJson]
  | child :: rest => by simpa [listToJson, holdsOnly_toJson child] using holdsOnly_listToJson rest

end

end SelectorDraft

theorem RuleDraft.holdsOnly_toJson (rule : RuleDraft) :
    rule.toJson.HoldsOnly allowed ↔ allowed rule.priority := by
  simpa [toJson] using fun _ => SelectorDraft.holdsOnly_listToJson rule.selectors

theorem SchedulingDraft.holdsOnly_toJson (draft : SchedulingDraft) :
    draft.toJson.HoldsOnly allowed ↔
      draft.metadata.toJson.HoldsOnly allowed ∧
        ∀ rule ∈ draft.spec.rules, allowed rule.priority := by
  simp [toJson, RulesDraft.toJson, RuleDraft.holdsOnly_toJson]

theorem SchedulingDraft.isSound_toJson (draft : SchedulingDraft) : draft.toJson.isSound := by
  have held : draft.toJson.HoldsOnly fun _ => True := by
    rw [holdsOnly_toJson, Metadata.holdsOnly_toJson]
    simp
  exact held.isSound

/-! ### Objects -/

theorem Object.holdsOnly_toJson {kind : Kind} (object : Object kind) :
    object.toJson.HoldsOnly allowed ↔
      object.metadata.toJson.HoldsOnly allowed ∧
        (kind.specToJson object.spec).HoldsOnly allowed ∧
          (kind.statusToJson object.status).HoldsOnly allowed := by
  simp [toJson]

theorem Object.isSound_toJson {kind : Kind} (object : Object kind) : object.toJson.isSound := by
  have held : object.toJson.HoldsOnly fun _ => True := by
    rw [holdsOnly_toJson, Metadata.holdsOnly_toJson]
    cases kind <;> simp [Kind.specToJson, Kind.statusToJson, TargetSpec.holdsOnly_toJson,
      TargetStatus.holdsOnly_toJson, DeploymentSpec.holdsOnly_toJson,
      DeploymentStatus.holdsOnly_toJson, InstanceSpec.holdsOnly_toJson,
      InstanceStatus.holdsOnly_toJson, RegistrationSpec.holdsOnly_toJson,
      RegistrationStatus.holdsOnly_toJson, SchedulingSpec.holdsOnly_toJson]
  exact held.isSound

end TenantFleet
