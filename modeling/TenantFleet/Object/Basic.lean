import TenantFleet.Object.Workload
import TenantFleet.Selector.Basic

/-!
# Stored objects

The six kinds of objects that the store holds.  Each is a header, a spec that
says what is wanted and a status that says what there is; the kind determines
the types of the two.
-/

namespace TenantFleet

/-- The kinds of stored objects. -/
inductive Kind where
  | tenantSpace
  | target
  | deployment
  | tenantInstance
  | registration
  | scheduling
deriving DecidableEq, Repr, Inhabited

namespace Kind

def all : List Kind :=
  [.tenantSpace, .target, .deployment, .tenantInstance, .registration, .scheduling]

/-- The kind as messages and documents name it. -/
def title : Kind → String
  | .tenantSpace => "Namespace"
  | .target => "Target"
  | .deployment => "Deployment"
  | .tenantInstance => "Instance"
  | .registration => "Registration"
  | .scheduling => "TargetScheduling"

def ofTitle? (title : String) : Option Kind :=
  all.find? fun kind => kind.title == title

abbrev Spec : Kind → Type
  | .tenantSpace => Unit
  | .target => TargetSpec
  | .deployment => DeploymentSpec
  | .tenantInstance => InstanceSpec
  | .registration => RegistrationSpec
  | .scheduling => SchedulingSpec

abbrev Status : Kind → Type
  | .tenantSpace => Unit
  | .target => TargetStatus
  | .deployment => DeploymentStatus
  | .tenantInstance => InstanceStatus
  | .registration => RegistrationStatus
  | .scheduling => Unit

instance instDecidableEqSpec : (kind : Kind) → DecidableEq kind.Spec
  | .tenantSpace => inferInstanceAs (DecidableEq Unit)
  | .target => inferInstanceAs (DecidableEq TargetSpec)
  | .deployment => inferInstanceAs (DecidableEq DeploymentSpec)
  | .tenantInstance => inferInstanceAs (DecidableEq InstanceSpec)
  | .registration => inferInstanceAs (DecidableEq RegistrationSpec)
  | .scheduling => inferInstanceAs (DecidableEq SchedulingSpec)

instance instDecidableEqStatus : (kind : Kind) → DecidableEq kind.Status
  | .tenantSpace => inferInstanceAs (DecidableEq Unit)
  | .target => inferInstanceAs (DecidableEq TargetStatus)
  | .deployment => inferInstanceAs (DecidableEq DeploymentStatus)
  | .tenantInstance => inferInstanceAs (DecidableEq InstanceStatus)
  | .registration => inferInstanceAs (DecidableEq RegistrationStatus)
  | .scheduling => inferInstanceAs (DecidableEq Unit)

def initialStatus : (kind : Kind) → kind.Status
  | .tenantSpace => ()
  | .target => {}
  | .deployment => {}
  | .tenantInstance => {}
  | .registration => {}
  | .scheduling => ()

end Kind

/-- A stored object: its header, what is wanted, and what there is. -/
structure Object (kind : Kind) where
  metadata : Metadata
  spec : kind.Spec
  status : kind.Status
deriving DecidableEq

/-- The namespace of a tenant; it belongs to the whole cluster. -/
abbrev TenantSpace := Object .tenantSpace

/-- A cluster that can host instances. -/
abbrev Target := Object .target

/-- The request for one tenant instance. -/
abbrev Deployment := Object .deployment

/-- An instance: the unit that runs on a target for a deployment. -/
abbrev TenantInstance := Object .tenantInstance

/-- What a tenant asks for, in the namespace that bears the tenant's id. -/
abbrev Registration := Object .registration

/-- The scheduling rules that come before the automatic choice of a target. -/
abbrev Scheduling := Object .scheduling

namespace Object

variable {kind : Kind}

def key (object : Object kind) : ObjectKey :=
  object.metadata.key

/-- The text under which the store's tables hold the object. -/
def keyText (object : Object kind) : String :=
  object.key.text

def isMarked (object : Object kind) : Bool :=
  object.metadata.isMarked

/-- Whether the object carries the finalizer of the control plane. -/
def isHeld (object : Object kind) : Bool :=
  object.metadata.isHeldBy finalizer

/-- The object with the finalizer of the control plane. -/
def hold (object : Object kind) : Object kind :=
  { object with metadata := object.metadata.heldBy finalizer }

/-- The object without the finalizer of the control plane. -/
def letGo (object : Object kind) : Object kind :=
  { object with metadata := object.metadata.freedFrom finalizer }

end Object

end TenantFleet
