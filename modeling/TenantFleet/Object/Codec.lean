import TenantFleet.Json.Record
import TenantFleet.Object.Basic

/-!
# Objects as JSON

How keys, metadata, specs, statuses and whole objects are written as JSON, and
how they are read back.  Every field is written, except for those that stand
for nothing when they are empty.
-/

namespace TenantFleet

open Json

def ObjectKey.toJson (key : ObjectKey) : Json :=
  .object [("namespace", .string key.scope), ("name", .string key.name)]

/-- The key that a record spells. -/
def ObjectKey.ofJson? (dialect : Dialect) (json : Json) : Option ObjectKey := do
  let entries ← json.record? dialect ["namespace", "name"]
  let scope ← defaulted entries "namespace" "" text?
  let name ← required entries "name" text?
  return ⟨scope, name⟩

def Owner.toJson (owner : Owner) : Json :=
  .object [("kind", .string owner.kind), ("name", .string owner.name)]

/-- The owner that a record spells. -/
def Owner.ofJson? (dialect : Dialect) (json : Json) : Option Owner := do
  let entries ← json.record? dialect ["kind", "name"]
  let kind ← required entries "kind" text?
  let name ← required entries "name" text?
  return ⟨kind, name⟩

namespace Metadata

def fields : List String :=
  ["name", "namespace", "generateName", "labels", "annotations", "finalizers", "ownerReferences",
    "generation", "resourceVersion", "creationTimestamp", "deletionTimestamp"]

def toJson (metadata : Metadata) : Json :=
  .object <|
    [("name", .string metadata.name), ("namespace", .string metadata.scope)] ++
    presentText "generateName" metadata.generateName ++
    [("labels", ofTexts metadata.labels),
     ("annotations", ofTexts metadata.annotations),
     ("finalizers", .array (metadata.finalizers.map .string)),
     ("ownerReferences", .array (metadata.owners.map Owner.toJson)),
     ("generation", .integer metadata.generation),
     ("resourceVersion", .integer metadata.resourceVersion),
     ("creationTimestamp", .integer metadata.creationTime)] ++
    present "deletionTimestamp" (metadata.deletionTime.map fun time => .integer time)

/-- The metadata that a record spells. -/
def ofJson? (dialect : Dialect) (json : Json) : Option Metadata := do
  let entries ← json.record? dialect fields
  let name ← defaulted entries "name" "" text?
  let scope ← defaulted entries "namespace" "" text?
  let generateName ← defaulted entries "generateName" "" text?
  let labels ← defaulted entries "labels" .empty texts?
  let annotations ← defaulted entries "annotations" .empty texts?
  let finalizers ← defaulted entries "finalizers" [] (list? text?)
  let owners ← defaulted entries "ownerReferences" [] (list? (Owner.ofJson? dialect))
  let generation ← defaulted entries "generation" 0 signed?
  let resourceVersion ← defaulted entries "resourceVersion" 0 (natural? 64)
  let creationTime ← defaulted entries "creationTimestamp" 0 (natural? 64)
  let deletionTime ← optional entries "deletionTimestamp" (natural? 64)
  return { name, scope, generateName, labels, annotations, finalizers, owners, generation,
           resourceVersion, creationTime, deletionTime }

end Metadata

def SecretEntry.toJson (secret : SecretEntry) : Json :=
  .object [("name", .string secret.name), ("namespace", .string secret.scope),
    ("key", .string secret.entry)]

/-- The secret's entry that a record spells. -/
def SecretEntry.ofJson? (dialect : Dialect) (json : Json) : Option SecretEntry := do
  let entries ← json.record? dialect ["name", "namespace", "key"]
  let name ← defaulted entries "name" "" text?
  let scope ← defaulted entries "namespace" "" text?
  let entry ← defaulted entries "key" "" text?
  return { name, scope, entry }

def FailureRecord.toJson (failure : FailureRecord) : Json :=
  .object [("operation", .string failure.operation), ("reason", .string failure.reason),
    ("message", .string failure.message),
    ("lastTransitionTime", .integer failure.lastTransitionTime),
    ("lastUpdateTime", .integer failure.lastUpdateTime)]

def FailureRecord.ofJson? (dialect : Dialect) (json : Json) : Option FailureRecord := do
  let entries ← json.record? dialect
    ["operation", "reason", "message", "lastTransitionTime", "lastUpdateTime"]
  let operation ← required entries "operation" text?
  let reason ← required entries "reason" text?
  let message ← required entries "message" text?
  let lastTransitionTime ← required entries "lastTransitionTime" (natural? 64)
  let lastUpdateTime ← required entries "lastUpdateTime" (natural? 64)
  return { operation, reason, message, lastTransitionTime, lastUpdateTime }

/-- A choice of deployers as a record. -/
def Configuration.toJson (configuration : Configuration) : Json :=
  .object [("deployers", .array (configuration.deployers.map .string))]

/-- The choice of deployers that a record spells. -/
def Configuration.ofJson? (dialect : Dialect) (json : Json) : Option Configuration := do
  let entries ← json.record? dialect ["deployers"]
  let deployers ← defaulted entries "deployers" [] (list? text?)
  return { deployers }

/-- The tolerated failures as a record. -/
def HighAvailability.toJson (availability : HighAvailability) : Json :=
  .object [("controlPlaneFailureTolerance", .string availability.failureTolerance)]

/-- The tolerated failures that a record spells. -/
def HighAvailability.ofJson? (dialect : Dialect) (json : Json) : Option HighAvailability := do
  let entries ← json.record? dialect ["controlPlaneFailureTolerance"]
  let failureTolerance ← required entries "controlPlaneFailureTolerance" text?
  return { failureTolerance }

def DataPlane.toJson (dataPlane : DataPlane) : Json :=
  .object (present "secretRef" (dataPlane.secret.map SecretEntry.toJson) ++
    presentText "kubeconfig" dataPlane.kubeconfig)

def DataPlane.ofJson? (dialect : Dialect) (json : Json) : Option DataPlane := do
  let entries ← json.record? dialect ["secretRef", "kubeconfig"]
  let secret ← optional entries "secretRef" (SecretEntry.ofJson? dialect)
  let kubeconfig ← defaulted entries "kubeconfig" "" text?
  return { secret, kubeconfig }

namespace DataPlaneMode

/-- The mode as documents name it. -/
def title : DataPlaneMode → String
  | .internal => "internal"
  | .external => "external"

def ofTitle? (title : String) : Option DataPlaneMode :=
  if title = "internal" then some .internal
  else if title = "external" then some .external
  else none

def toJson (mode : DataPlaneMode) : Json :=
  .string mode.title

/-- The mode that a text spells, or an object with the mode as its only entry and nothing in
it. -/
def ofJson? (dialect : Dialect) : Json → Option DataPlaneMode
  | .string title => ofTitle? title
  | .object [(title, content)] => do
      let mode ← ofTitle? title
      unit? dialect content
      return mode
  | _ => none

end DataPlaneMode

/-- What a target is asked for as a record. -/
def TargetSpec.toJson (spec : TargetSpec) : Json :=
  .object ([("priority", .integer spec.priority), ("visible", .bool spec.visible),
    ("restricted", .bool spec.restricted)] ++
    present "region" (spec.region.map .string) ++
    [("secretRef", spec.secret.toJson), ("ingressDomain", .string spec.ingressDomain)])

/-- What a record asks of a target. -/
def TargetSpec.ofJson? (dialect : Dialect) (json : Json) : Option TargetSpec := do
  let entries ← json.record? dialect
    ["priority", "visible", "restricted", "region", "secretRef", "ingressDomain"]
  let priority ← required entries "priority" signed?
  let visible ← defaulted entries "visible" false flag?
  let restricted ← defaulted entries "restricted" false flag?
  let region ← optional entries "region" text?
  let secret ← defaulted entries "secretRef" {} (SecretEntry.ofJson? dialect)
  let ingressDomain ← defaulted entries "ingressDomain" "" text?
  return { priority, visible, restricted, region, secret, ingressDomain }

/-- What is known of a target as a record. -/
def TargetStatus.toJson (status : TargetStatus) : Json :=
  .object ([("assignedInstances", .array (status.assigned.map ObjectKey.toJson))] ++
    present "capacity" (status.capacity.map .integer))

/-- What a record says of a target. -/
def TargetStatus.ofJson? (dialect : Dialect) (json : Json) : Option TargetStatus := do
  let entries ← json.record? dialect ["assignedInstances", "capacity"]
  let assigned ← defaulted entries "assignedInstances" [] (list? (ObjectKey.ofJson? dialect))
  let capacity ← optional entries "capacity" signed?
  return { assigned, capacity }

/-- The request for an instance as a record. -/
def DeploymentSpec.toJson (spec : DeploymentSpec) : Json :=
  .object ([("tenantId", .string spec.tenantId), ("purpose", .string spec.purpose)] ++
    present "region" (spec.region.map .string) ++
    (if spec.targetLabels.isEmpty then [] else [("targetLabels", ofTexts spec.targetLabels)]) ++
    [("configuration", spec.configuration.toJson)] ++
    present "highAvailability" (spec.highAvailability.map HighAvailability.toJson) ++
    present "dataPlane" (spec.dataPlane.map DataPlane.toJson))

/-- The request for an instance that a record spells. -/
def DeploymentSpec.ofJson? (dialect : Dialect) (json : Json) : Option DeploymentSpec := do
  let entries ← json.record? dialect
    ["tenantId", "purpose", "region", "targetLabels", "configuration", "highAvailability",
      "dataPlane"]
  let tenantId ← required entries "tenantId" text?
  let purpose ← required entries "purpose" text?
  let region ← optional entries "region" text?
  let targetLabels ← defaulted entries "targetLabels" .empty texts?
  let configuration ← defaulted entries "configuration" {} (Configuration.ofJson? dialect)
  let highAvailability ← optional entries "highAvailability" (HighAvailability.ofJson? dialect)
  let dataPlane ← optional entries "dataPlane" (DataPlane.ofJson? dialect)
  return { tenantId, purpose, region, targetLabels, configuration, highAvailability, dataPlane }

/-- What came of a request as a record. -/
def DeploymentStatus.toJson (status : DeploymentStatus) : Json :=
  .object ([("observedGeneration", .integer status.observedGeneration)] ++
    present "instanceRef" (status.instanceKey.map ObjectKey.toJson) ++
    present "lastError" (status.lastError.map FailureRecord.toJson) ++
    presentText "phase" status.phase ++
    [("dataPlaneType", status.dataPlaneMode.toJson)])

/-- What a record says of a request. -/
def DeploymentStatus.ofJson? (dialect : Dialect) (json : Json) : Option DeploymentStatus := do
  let entries ← json.record? dialect
    ["observedGeneration", "instanceRef", "lastError", "phase", "dataPlaneType"]
  let observedGeneration ← defaulted entries "observedGeneration" 0 signed?
  let instanceKey ← optional entries "instanceRef" (ObjectKey.ofJson? dialect)
  let lastError ← optional entries "lastError" (FailureRecord.ofJson? dialect)
  let phase ← defaulted entries "phase" "" text?
  let dataPlaneMode ← defaulted entries "dataPlaneType" .internal (DataPlaneMode.ofJson? dialect)
  return { observedGeneration, instanceKey, lastError, phase, dataPlaneMode }

def InstanceSpec.toJson (spec : InstanceSpec) : Json :=
  .object ([("tenantId", .string spec.tenantId), ("id", .string spec.id),
    ("targetRef", spec.targetKey.toJson), ("configuration", spec.configuration.toJson)] ++
    present "highAvailability" (spec.highAvailability.map HighAvailability.toJson) ++
    present "dataPlane" (spec.dataPlane.map DataPlane.toJson))

/-- The instance that a record spells. -/
def InstanceSpec.ofJson? (dialect : Dialect) (json : Json) : Option InstanceSpec := do
  let entries ← json.record? dialect
    ["tenantId", "id", "targetRef", "configuration", "highAvailability", "dataPlane"]
  let tenantId ← required entries "tenantId" text?
  let id ← required entries "id" text?
  let targetKey ← required entries "targetRef" (ObjectKey.ofJson? dialect)
  let configuration ← defaulted entries "configuration" {} (Configuration.ofJson? dialect)
  let highAvailability ← optional entries "highAvailability" (HighAvailability.ofJson? dialect)
  let dataPlane ← optional entries "dataPlane" (DataPlane.ofJson? dialect)
  return { tenantId, id, targetKey, configuration, highAvailability, dataPlane }

/-- What the runtime reports as a record. -/
def InstanceStatus.toJson (status : InstanceStatus) : Json :=
  .object (present "lastError" (status.lastError.map FailureRecord.toJson) ++
    presentText "adminKubeconfig" status.adminKubeconfig ++
    presentText "userKubeconfig" status.userKubeconfig ++
    presentText "phase" status.phase)

/-- What a record reports of an instance. -/
def InstanceStatus.ofJson? (dialect : Dialect) (json : Json) : Option InstanceStatus := do
  let entries ← json.record? dialect ["lastError", "adminKubeconfig", "userKubeconfig", "phase"]
  let lastError ← optional entries "lastError" (FailureRecord.ofJson? dialect)
  let adminKubeconfig ← defaulted entries "adminKubeconfig" "" text?
  let userKubeconfig ← defaulted entries "userKubeconfig" "" text?
  let phase ← defaulted entries "phase" "" text?
  return { lastError, adminKubeconfig, userKubeconfig, phase }

/-- What a tenant asks for as a record. -/
def RegistrationSpec.toJson (spec : RegistrationSpec) : Json :=
  .object ([("purpose", .string spec.purpose)] ++
    present "region" (spec.region.map .string) ++
    (if spec.targetLabels.isEmpty then [] else [("targetLabels", ofTexts spec.targetLabels)]) ++
    [("configuration", spec.configuration.toJson)] ++
    present "highAvailability" (spec.highAvailability.map HighAvailability.toJson) ++
    present "dataPlane" (spec.dataPlane.map DataPlane.toJson))

/-- What a tenant asks for in a record. -/
def RegistrationSpec.ofJson? (dialect : Dialect) (json : Json) : Option RegistrationSpec := do
  let entries ← json.record? dialect
    ["purpose", "region", "targetLabels", "configuration", "highAvailability", "dataPlane"]
  let purpose ← required entries "purpose" text?
  let region ← optional entries "region" text?
  let targetLabels ← defaulted entries "targetLabels" .empty texts?
  let configuration ← defaulted entries "configuration" {} (Configuration.ofJson? dialect)
  let highAvailability ← optional entries "highAvailability" (HighAvailability.ofJson? dialect)
  let dataPlane ← optional entries "dataPlane" (DataPlane.ofJson? dialect)
  return { purpose, region, targetLabels, configuration, highAvailability, dataPlane }

/-- What a tenant is told as a record. -/
def RegistrationStatus.toJson (status : RegistrationStatus) : Json :=
  .object ([("observedGeneration", .integer status.observedGeneration)] ++
    present "deploymentRef" (status.deploymentKey.map ObjectKey.toJson) ++
    present "lastError" (status.lastError.map FailureRecord.toJson) ++
    presentText "userKubeconfig" status.userKubeconfig)

/-- What a record tells a tenant. -/
def RegistrationStatus.ofJson? (dialect : Dialect) (json : Json) :
    Option RegistrationStatus := do
  let entries ← json.record? dialect
    ["observedGeneration", "deploymentRef", "lastError", "userKubeconfig"]
  let observedGeneration ← defaulted entries "observedGeneration" 0 signed?
  let deploymentKey ← optional entries "deploymentRef" (ObjectKey.ofJson? dialect)
  let lastError ← optional entries "lastError" (FailureRecord.ofJson? dialect)
  let userKubeconfig ← defaulted entries "userKubeconfig" "" text?
  return { observedGeneration, deploymentKey, lastError, userKubeconfig }

namespace Selector

mutual

/-- A selector as an object with its form as the only entry. -/
def toJson : Selector → Json
  | .matchTenant id => .object [("matchTenant", .object [("id", .string id)])]
  | .matchLabel name value =>
      .object [("matchLabel", .object [("name", .string name), ("value", .string value)])]
  | .allOf children => .object [("and", .array (listToJson children))]
  | .anyOf children => .object [("or", .array (listToJson children))]
  | .negation child => .object [("not", child.toJson)]

/-- Selectors, one after the other. -/
def listToJson : List Selector → List Json
  | [] => []
  | child :: rest => child.toJson :: listToJson rest

end

/-- The test of a tenant that an object spells. -/
def tenantOfEntries? (entries : List (String × Json)) : Option Selector := do
  if hasRepeated ["id"] entries then none else
  let id ← required entries "id" text?
  return .matchTenant id

/-- The test of a label that an object spells. -/
def labelOfEntries? (entries : List (String × Json)) : Option Selector := do
  if hasRepeated ["name", "value"] entries then none else
  let name ← required entries "name" text?
  let value ← required entries "value" text?
  return .matchLabel name value

mutual

def ofJson? : Json → Option Selector
  | .object [("matchTenant", .object entries)] => tenantOfEntries? entries
  | .object [("matchLabel", .object entries)] => labelOfEntries? entries
  | .object [("and", .array items)] => (listOfJson? items).map .allOf
  | .object [("or", .array items)] => (listOfJson? items).map .anyOf
  | .object [("not", child)] => (ofJson? child).map .negation
  | _ => none

/-- The selectors that the items spell, one after the other. -/
def listOfJson? : List Json → Option (List Selector)
  | [] => some []
  | item :: rest => do
      let child ← ofJson? item
      let children ← listOfJson? rest
      return child :: children

end

end Selector

def SchedulingRule.toJson (rule : SchedulingRule) : Json :=
  .object [("priority", .integer rule.priority),
    ("targets", .array (rule.targets.map ObjectKey.toJson)),
    ("selectors", .array (Selector.listToJson rule.selectors))]

def SchedulingRule.ofJson? (dialect : Dialect) (json : Json) : Option SchedulingRule := do
  let entries ← json.record? dialect ["priority", "targets", "selectors"]
  let priority ← required entries "priority" signed?
  let targets ← required entries "targets" (list? (ObjectKey.ofJson? dialect))
  let selectors ← defaulted entries "selectors" [] (list? Selector.ofJson?)
  return { priority, targets, selectors }

/-- Scheduling rules as a record. -/
def SchedulingSpec.toJson (spec : SchedulingSpec) : Json :=
  .object [("rules", .array (spec.rules.map SchedulingRule.toJson))]

/-- The scheduling rules that a record spells. -/
def SchedulingSpec.ofJson? (dialect : Dialect) (json : Json) : Option SchedulingSpec := do
  let entries ← json.record? dialect ["rules"]
  let rules ← defaulted entries "rules" [] (list? (SchedulingRule.ofJson? dialect))
  return { rules }

namespace Kind

def specToJson : (kind : Kind) → kind.Spec → Json
  | .tenantSpace, _ => .null
  | .target, spec => TargetSpec.toJson spec
  | .deployment, spec => DeploymentSpec.toJson spec
  | .tenantInstance, spec => InstanceSpec.toJson spec
  | .registration, spec => RegistrationSpec.toJson spec
  | .scheduling, spec => SchedulingSpec.toJson spec

def statusToJson : (kind : Kind) → kind.Status → Json
  | .tenantSpace, _ => .null
  | .target, status => TargetStatus.toJson status
  | .deployment, status => DeploymentStatus.toJson status
  | .tenantInstance, status => InstanceStatus.toJson status
  | .registration, status => RegistrationStatus.toJson status
  | .scheduling, _ => .null

/-- The spec in the entries of an object; only that of a tenant's namespace may be missing. -/
def specOf? (dialect : Dialect) (entries : List (String × Json)) :
    (kind : Kind) → Option kind.Spec
  | .tenantSpace => defaulted entries "spec" () (unit? dialect)
  | .target => required entries "spec" (TargetSpec.ofJson? dialect)
  | .deployment => required entries "spec" (DeploymentSpec.ofJson? dialect)
  | .tenantInstance => required entries "spec" (InstanceSpec.ofJson? dialect)
  | .registration => required entries "spec" (RegistrationSpec.ofJson? dialect)
  | .scheduling => required entries "spec" (SchedulingSpec.ofJson? dialect)

/-- The status in the entries of an object, or that of a new object. -/
def statusOf? (dialect : Dialect) (entries : List (String × Json)) :
    (kind : Kind) → Option kind.Status
  | .tenantSpace => read .tenantSpace (unit? dialect)
  | .target => read .target (TargetStatus.ofJson? dialect)
  | .deployment => read .deployment (DeploymentStatus.ofJson? dialect)
  | .tenantInstance => read .tenantInstance (InstanceStatus.ofJson? dialect)
  | .registration => read .registration (RegistrationStatus.ofJson? dialect)
  | .scheduling => read .scheduling (unit? dialect)
where
  /-- The status by a reader of its form. -/
  read (kind : Kind) (decode : Json → Option kind.Status) : Option kind.Status :=
    defaulted entries "status" kind.initialStatus decode

end Kind

namespace Object

variable {kind : Kind}

def toJson (object : Object kind) : Json :=
  .object [("metadata", object.metadata.toJson), ("spec", kind.specToJson object.spec),
    ("status", kind.statusToJson object.status)]

/-- The object of the given kind that a record spells. -/
def ofJson? (dialect : Dialect) (kind : Kind) (json : Json) : Option (Object kind) := do
  let entries ← json.record? dialect ["metadata", "spec", "status"]
  let metadata ← required entries "metadata" (Metadata.ofJson? dialect)
  let spec ← kind.specOf? dialect entries
  let status ← kind.statusOf? dialect entries
  return { metadata, spec, status }

end Object

end TenantFleet
