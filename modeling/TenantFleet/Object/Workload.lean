import TenantFleet.Object.Metadata

/-!
# Workloads and targets

What the specs and the statuses of the stored kinds hold: the target clusters
that run instances, the requests for instances, and the records of what came of
them.
-/

namespace TenantFleet

def deployerPlugins : List String := ["manifest", "helm", "container"]

/-- The failures that a control plane can be asked to tolerate. -/
def tolerableFailures : List String := ["zone", "node"]

/-- The length of tenant identifiers and instance ids. -/
def idLength : Nat := 8

structure SecretEntry where
  name : String := ""
  scope : String := ""
  entry : String := ""
deriving DecidableEq, Repr, Inhabited

/-- The last failure of the work on an object, as its status shows it. -/
structure FailureRecord where
  operation : String
  reason : String
  message : String
  lastTransitionTime : Nat
  lastUpdateTime : Nat
deriving DecidableEq, Repr, Inhabited

/-- The record of a failure after `previous`: the time of transition moves only when another
operation fails. -/
def FailureRecord.next (previous : Option FailureRecord) (operation reason message : String)
    (now : Nat) : FailureRecord :=
  let transition := match previous with
    | some record => if record.operation = operation then record.lastTransitionTime else now
    | none => now
  ⟨operation, reason, message, transition, now⟩

/-- The choice of deployer plugins. -/
structure Configuration where
  deployers : List String := []
deriving DecidableEq, Repr, Inhabited

/-- What failures the control plane of an instance tolerates. -/
structure HighAvailability where
  failureTolerance : String
deriving DecidableEq, Repr, Inhabited

/-- A data plane from elsewhere, with its access file inline or in a secret. -/
structure DataPlane where
  secret : Option SecretEntry := none
  kubeconfig : String := ""
deriving DecidableEq, Repr, Inhabited

/-- Whether a deployment runs its own data plane or uses one from elsewhere. -/
inductive DataPlaneMode where
  | internal
  | external
deriving DecidableEq, Repr, Inhabited

def DataPlaneMode.of (dataPlane : Option DataPlane) : DataPlaneMode :=
  if dataPlane.isSome then .external else .internal

/-- What is asked of a target cluster. -/
structure TargetSpec where
  /-- The higher one is preferred. -/
  priority : Int
  /-- Only a visible target takes new instances. -/
  visible : Bool := false
  /-- A restricted target is reached through a scheduling rule only. -/
  restricted : Bool := false
  region : Option String := none
  secret : SecretEntry := {}
  ingressDomain : String := ""
deriving DecidableEq, Repr, Inhabited

/-- What is known of a target cluster. -/
structure TargetStatus where
  /-- The instances that the target hosts. -/
  assigned : List ObjectKey := []
  /-- The places that are left, as published last. -/
  capacity : Option Int := none
deriving DecidableEq, Repr, Inhabited

/-- The request for one tenant instance. -/
structure DeploymentSpec where
  tenantId : String
  purpose : String
  region : Option String := none
  /-- Labels that a target must carry to be chosen. -/
  targetLabels : Labels := .empty
  configuration : Configuration := {}
  highAvailability : Option HighAvailability := none
  dataPlane : Option DataPlane := none
deriving DecidableEq, Inhabited

/-- What came of a request for an instance. -/
structure DeploymentStatus where
  observedGeneration : Int := 0
  instanceKey : Option ObjectKey := none
  lastError : Option FailureRecord := none
  phase : String := ""
  dataPlaneMode : DataPlaneMode := .internal
deriving DecidableEq, Repr, Inhabited

/-- The unit that runs on a target. -/
structure InstanceSpec where
  tenantId : String
  id : String
  targetKey : ObjectKey
  configuration : Configuration := {}
  highAvailability : Option HighAvailability := none
  dataPlane : Option DataPlane := none
deriving DecidableEq, Repr, Inhabited

/-- What the runtime reports of an instance. -/
structure InstanceStatus where
  lastError : Option FailureRecord := none
  adminKubeconfig : String := ""
  userKubeconfig : String := ""
  phase : String := ""
deriving DecidableEq, Repr, Inhabited

/-- What a tenant may ask for: a deployment of which the tenant is implied. -/
structure RegistrationSpec where
  purpose : String
  region : Option String := none
  targetLabels : Labels := .empty
  configuration : Configuration := {}
  highAvailability : Option HighAvailability := none
  dataPlane : Option DataPlane := none
deriving DecidableEq, Inhabited

/-- What a tenant is told. -/
structure RegistrationStatus where
  observedGeneration : Int := 0
  deploymentKey : Option ObjectKey := none
  lastError : Option FailureRecord := none
  userKubeconfig : String := ""
deriving DecidableEq, Repr, Inhabited

def RegistrationSpec.forTenant (spec : RegistrationSpec) (tenantId : String) :
    DeploymentSpec where
  tenantId := tenantId
  purpose := spec.purpose
  region := spec.region
  targetLabels := spec.targetLabels
  configuration := spec.configuration
  highAvailability := spec.highAvailability
  dataPlane := spec.dataPlane

end TenantFleet
