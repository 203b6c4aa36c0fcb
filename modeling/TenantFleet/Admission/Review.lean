import TenantFleet.Admission.Rules
import TenantFleet.Selector.Draft

/-!
# Review of objects

What is filled in on an object that a user writes, and what is required of it:
by itself, and compared with the stored object that it is to replace.
-/

namespace TenantFleet

/-- The configuration with all supported deployers, if it names none. -/
def Configuration.withDefaults (configuration : Configuration) : Configuration :=
  if configuration.deployers.isEmpty then ⟨deployerPlugins⟩ else configuration

/-- The parts of a deployment's spec that describe how it runs. -/
def DeploymentSpec.workload (spec : DeploymentSpec) : Workload :=
  ⟨spec.configuration, spec.highAvailability, spec.dataPlane⟩

/-- The parts of an instance's spec that describe how it runs. -/
def InstanceSpec.workload (spec : InstanceSpec) : Workload :=
  ⟨spec.configuration, spec.highAvailability, spec.dataPlane⟩

/-- The parts of a registration's spec that describe how it runs. -/
def RegistrationSpec.workload (spec : RegistrationSpec) : Workload :=
  ⟨spec.configuration, spec.highAvailability, spec.dataPlane⟩

namespace Object

/-- The object with its defaults filled in: the namespace of a target's secret is that of the
target, and a workload without deployers has all of them. -/
def withDefaults : {kind : Kind} → Object kind → Object kind
  | .target, object =>
      let spec : TargetSpec := object.spec
      if spec.secret.scope = "" then
        { object with spec :=
            { spec with secret := { spec.secret with scope := object.metadata.scope } } }
      else
        object
  | .deployment, object =>
      let spec : DeploymentSpec := object.spec
      { object with spec := { spec with configuration := spec.configuration.withDefaults } }
  | .tenantInstance, object =>
      let spec : InstanceSpec := object.spec
      { object with spec := { spec with configuration := spec.configuration.withDefaults } }
  | .registration, object =>
      let spec : RegistrationSpec := object.spec
      { object with spec := { spec with configuration := spec.configuration.withDefaults } }
  | .tenantSpace, object => object
  | .scheduling, object => object

end Object

def Target.specErrors (spec : TargetSpec) (path : FieldPath) : List FieldError :=
  reportIf (spec.priority < 0)
    (.invalid (path.field "priority") (toString spec.priority)
      "priority must be an integer >= 0") ++
  reportIf (spec.region = some "")
    (.required (path.field "region") "region may not be empty when set") ++
  reportIf (spec.ingressDomain = "")
    (.required (path.field "ingressDomain") "ingressDomain may not be empty") ++
  spec.secret.errors (path.field "secretRef")

def Deployment.specErrors (spec : DeploymentSpec) (path : FieldPath) : List FieldError :=
  idErrors spec.tenantId (path.field "tenantId") ++
  spec.targetLabels.hintErrors (path.field "targetLabels") ++
  spec.workload.requestErrors spec.purpose path

def TenantInstance.specErrors (spec : InstanceSpec) (path : FieldPath) : List FieldError :=
  spec.targetKey.errors (path.field "targetRef") ++
  idErrors spec.tenantId (path.field "tenantId") ++
  idErrors spec.id (path.field "id") ++
  spec.workload.errors path

/-- The errors of what a tenant asks for. -/
def Registration.specErrors (spec : RegistrationSpec) (path : FieldPath) : List FieldError :=
  spec.targetLabels.hintErrors (path.field "targetLabels") ++
  spec.workload.requestErrors spec.purpose path

def Registration.tenantErrors (metadata : Metadata) : List FieldError :=
  if metadata.scope = "" then []
  else idErrors metadata.scope (FieldPath.metadata.field "namespace")

/-- What is said of a change of a field that stays. -/
def immutableError (field : String) : FieldError :=
  .forbidden (FieldPath.spec.field field) "is immutable"

namespace Object

def errors : {kind : Kind} → Object kind → List FieldError
  | .tenantSpace, object => object.metadata.errors false .metadata
  | .target, object =>
      object.metadata.errors true .metadata ++ Target.specErrors object.spec .spec
  | .deployment, object =>
      object.metadata.errors true .metadata ++ Deployment.specErrors object.spec .spec
  | .tenantInstance, object =>
      object.metadata.errors true .metadata ++ TenantInstance.specErrors object.spec .spec
  | .registration, object =>
      object.metadata.errors true .metadata ++ Registration.tenantErrors object.metadata ++
        Registration.specErrors object.spec .spec
  | .scheduling, object => (SchedulingDraft.ofScheduling object).errors

def changeErrors : {kind : Kind} → (next stored : Object kind) → List FieldError
  | .deployment, next, stored =>
      let new : DeploymentSpec := next.spec
      let old : DeploymentSpec := stored.spec
      reportIf (new.tenantId ≠ old.tenantId) (immutableError "tenantId") ++
        new.workload.changeErrors old.workload .spec
  | .tenantInstance, next, stored =>
      let new : InstanceSpec := next.spec
      let old : InstanceSpec := stored.spec
      reportIf (new.tenantId ≠ old.tenantId) (immutableError "tenantId") ++
        reportIf (new.id ≠ old.id) (immutableError "id") ++
        reportIf (new.targetKey ≠ old.targetKey) (immutableError "targetRef") ++
        new.workload.changeErrors old.workload .spec
  | .registration, next, stored =>
      let new : RegistrationSpec := next.spec
      let old : RegistrationSpec := stored.spec
      new.workload.changeErrors old.workload .spec
  | .tenantSpace, _, _ => []
  | .target, _, _ => []
  | .scheduling, _, _ => []

end Object

/-- The refusal of an object, with all of its errors. -/
structure Rejection where
  kind : Kind
  key : ObjectKey
  errors : List FieldError
deriving DecidableEq, Repr

/-- The refusal in one line. -/
def Rejection.message (rejection : Rejection) : String :=
  rejection.kind.title ++ " " ++ rejection.key.text ++ " is invalid: " ++
    FieldError.messages rejection.errors

namespace Object

variable {kind : Kind}

/-- The object, unless there are errors. -/
def acceptedWith (object : Object kind) (errors : List FieldError) :
    Except Rejection (Object kind) :=
  if errors.isEmpty then .ok object else .error ⟨kind, object.key, errors⟩

/-- The object as it is to be created: its defaults filled in, and without errors. -/
def reviewed (object : Object kind) : Except Rejection (Object kind) :=
  let complete := object.withDefaults
  complete.acceptedWith complete.errors

/-- The object as it is to replace the stored one: its defaults filled in, and without errors by
itself or as a change. -/
def reviewedAgainst (object stored : Object kind) : Except Rejection (Object kind) :=
  let complete := object.withDefaults
  complete.acceptedWith (complete.errors ++ complete.changeErrors stored)

end Object

/-- The scheduling object that a document spells, if the document has no errors. -/
def SchedulingDraft.reviewed (draft : SchedulingDraft) : Except Rejection Scheduling :=
  match draft.toScheduling with
  | .ok scheduling => .ok scheduling
  | .error errors => .error ⟨.scheduling, draft.metadata.key, errors⟩

end TenantFleet
