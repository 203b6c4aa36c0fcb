import TenantFleet.Admission.Review
import TenantFleet.World

/-!
# Admitted writes

What users write goes through review before the store takes it.  What the
control plane keeps in the metadata of a stored object, its finalizers, its
owners and the labels under `tenantgrid.io/`, stays when a user's version of the
object does not mention it.
-/

namespace TenantFleet

/-- Why a user's write is refused: by review, or by the store. -/
inductive WriteRefusal where
  | rejected (rejection : Rejection)
  | store (error : StoreError)
deriving DecidableEq, Repr

/-- What applying an object did. -/
inductive ApplyEffect where
  | created
  | updated
deriving DecidableEq, Repr

/-- What applying an object did, as reports name it. -/
def ApplyEffect.title : ApplyEffect → String
  | .created => "created"
  | .updated => "updated"

/-- How the labels begin that belong to the control plane. -/
def managedStem : String := "tenantgrid.io/"

/-- The labels, with those of the control plane added from `stored` where they are missing. -/
def Labels.withManaged (labels stored : Labels) : Labels :=
  stored.entries.foldl
    (fun result (name, value) =>
      if beginsWith managedStem name && !result.contains name then result.set name value
      else result)
    labels

/-- The metadata of a user's version of an object with what the control plane keeps there; a
version without resource version is taken to be made from the stored one. -/
def Metadata.withManaged (metadata stored : Metadata) : Metadata :=
  { metadata with
    resourceVersion :=
      if metadata.resourceVersion = 0 then stored.resourceVersion else metadata.resourceVersion
    finalizers := stored.finalizers
    owners := stored.owners
    labels := metadata.labels.withManaged stored.labels }

namespace Admission

variable {kind : Kind}

/-- The outcome of a review as work that does nothing else. -/
def ofReview {α : Type} (review : Except Rejection α) : Pass WriteRefusal α :=
  match review with
  | .ok accepted => return accepted
  | .error rejection => throw (.rejected rejection)

def create (object : Object kind) : Pass WriteRefusal (Object kind) := do
  let reviewed ← ofReview object.reviewed
  (World.create reviewed).mapError .store

def reviewUpdate (stored object : Object kind) : Except Rejection (Object kind) :=
  Object.reviewedAgainst
    { object with metadata := object.metadata.withManaged stored.metadata } stored

/-- Review an object against the stored one of its key, and replace that. -/
def update (object : Object kind) : Pass WriteRefusal (Object kind) := do
  match ← (World.reading (·.read kind object.key)).mapError .store with
  | none => throw (.store (.notFound kind object.key))
  | some stored => do
      let reviewed ← ofReview (reviewUpdate stored object)
      (World.update reviewed).mapError .store

/-- Create the object, or replace the stored one of its key. -/
def apply (object : Object kind) : Pass WriteRefusal (ApplyEffect × Object kind) := do
  let stored ←
    if object.metadata.name = "" then pure none
    else (World.reading (·.read kind object.key)).mapError .store
  if stored.isSome then
    return (.updated, ← update object)
  else
    return (.created, ← create object)

/-- Review a scheduling document, and create the scheduling object that it spells or replace the
stored one of its key. -/
def applyScheduling (draft : SchedulingDraft) : Pass WriteRefusal (ApplyEffect × Scheduling) := do
  let scheduling ← ofReview draft.reviewed
  match ← (World.reading (·.read .scheduling scheduling.key)).mapError .store with
  | some stored =>
      let next : Scheduling :=
        { scheduling with metadata := scheduling.metadata.withManaged stored.metadata }
      return (.updated, ← (World.update next).mapError .store)
  | none => return (.created, ← (World.create scheduling).mapError .store)

end Admission

end TenantFleet
