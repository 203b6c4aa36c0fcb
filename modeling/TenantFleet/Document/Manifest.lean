import TenantFleet.Admission.Write
import TenantFleet.Document.Format
import TenantFleet.Selector.DraftCodec

/-!
# Manifests

A manifest is a document that names the kind of the object that it spells.  It
is applied by creating or replacing that object.  Scheduling objects are given
in the form of drafts; instances are not given by users at all.
-/

namespace TenantFleet

/-- An object that a user hands in. -/
inductive Manifest where
  | tenantSpace (object : TenantSpace)
  | target (object : Target)
  | deployment (object : Deployment)
  | registration (object : Registration)
  | scheduling (draft : SchedulingDraft)

namespace Manifest

def kind : Manifest → Kind
  | .tenantSpace _ => .tenantSpace
  | .target _ => .target
  | .deployment _ => .deployment
  | .registration _ => .registration
  | .scheduling _ => .scheduling

def ofBody? (kind : Kind) (body : Json) : Option Manifest :=
  match kind with
  | .tenantSpace => (Object.ofJson? .tagged .tenantSpace body).map .tenantSpace
  | .target => (Object.ofJson? .tagged .target body).map .target
  | .deployment => (Object.ofJson? .tagged .deployment body).map .deployment
  | .registration => (Object.ofJson? .tagged .registration body).map .registration
  | .scheduling => (SchedulingDraft.ofJson? .tagged body).map .scheduling
  | .tenantInstance => none

/-- The manifest that an object with the entry `kind` spells, or an array of which the kind is the
first item. -/
def ofJson? (json : Json) : Option Manifest := do
  if !json.isSound then none else
  match json with
  | .object entries =>
      if Json.hasRepeated ["kind"] entries then none else
      let kind ← Kind.ofTitle? (← Json.required entries "kind" Json.text?)
      ofBody? kind (.object (entries.filter fun entry => entry.1 ≠ "kind"))
  | .array (title :: items) => do
      let kind ← Kind.ofTitle? (← Json.text? title)
      ofBody? kind (.array items)
  | _ => none

/-- What applying a manifest did. -/
structure Report where
  kind : Kind
  key : ObjectKey
  applied : ApplyEffect
deriving DecidableEq, Repr

def Report.message (report : Report) : String :=
  report.kind.title ++ " " ++ report.key.text ++ " " ++ report.applied.title

def Report.on {kind : Kind} (outcome : ApplyEffect × Object kind) : Report :=
  ⟨kind, outcome.2.key, outcome.1⟩

/-- Create or replace the object that the manifest spells. -/
def apply : Manifest → Pass WriteRefusal Report
  | .tenantSpace object => return .on (← Admission.apply object)
  | .target object => return .on (← Admission.apply object)
  | .deployment object => return .on (← Admission.apply object)
  | .registration object => return .on (← Admission.apply object)
  | .scheduling draft => return .on (← Admission.applyScheduling draft)

end Manifest

end TenantFleet
