import TenantFleet.Object.Key
import TenantFleet.Table

/-!
# Metadata

The header that every stored object carries: its key, labels, finalizers,
owners, a generation that moves when the spec changes, and a resource version
that moves with every write.
-/

namespace TenantFleet

/-- Texts under names, in the order of the names. -/
abbrev Labels := Table (α := String × String) Prod.fst

namespace Labels

/-- The value of the label `name`. -/
def value? (labels : Labels) (name : String) : Option String :=
  (labels.find? name).map Prod.snd

/-- The labels with `name` set to `value`. -/
def set (labels : Labels) (name value : String) : Labels :=
  labels.insert (name, value)

end Labels

/-- The finalizer that the control plane puts on deployments, instances and registrations. -/
def finalizer : String := "finalizer.tenantgrid.io"

/-- The label that names the registration that a deployment was derived from. -/
def registrationLabel : String := "tenantgrid.io/registration"

/-- The label that names the deployment that an instance belongs to. -/
def deploymentLabel : String := "tenantgrid.io/deployment"

/-- A reference from an object to one that it depends on. -/
structure Owner where
  kind : String
  name : String
deriving DecidableEq, Repr, Inhabited

/-- The header of a stored object. -/
structure Metadata where
  name : String := ""
  scope : String := ""
  /-- The start of a name that the store completes when `name` is empty. -/
  generateName : String := ""
  labels : Labels := .empty
  annotations : Labels := .empty
  finalizers : List String := []
  owners : List Owner := []
  generation : Int := 0
  resourceVersion : Nat := 0
  creationTime : Nat := 0
  deletionTime : Option Nat := none
deriving DecidableEq, Inhabited

namespace Metadata

def key (metadata : Metadata) : ObjectKey :=
  ⟨metadata.scope, metadata.name⟩

/-- Whether the object is marked for deletion. -/
def isMarked (metadata : Metadata) : Bool :=
  metadata.deletionTime.isSome

/-- Whether the object carries the finalizer `name`. -/
def isHeldBy (metadata : Metadata) (name : String) : Bool :=
  metadata.finalizers.contains name

/-- The metadata with the finalizer `name`, at the end if it was not there. -/
def heldBy (metadata : Metadata) (name : String) : Metadata :=
  if metadata.isHeldBy name then
    metadata
  else
    { metadata with finalizers := metadata.finalizers ++ [name] }

/-- The metadata without the finalizer `name`. -/
def freedFrom (metadata : Metadata) (name : String) : Metadata :=
  { metadata with finalizers := metadata.finalizers.filter (· != name) }

/-- The value of the label `name`. -/
def label? (metadata : Metadata) (name : String) : Option String :=
  metadata.labels.value? name

/-- Whether the label `name` has the given value. -/
def hasLabel (metadata : Metadata) (name value : String) : Bool :=
  metadata.label? name == some value

/-- Whether an object of that kind and name is among the owners. -/
def hasOwner (metadata : Metadata) (kind name : String) : Bool :=
  metadata.owners.contains ⟨kind, name⟩

end Metadata

end TenantFleet
