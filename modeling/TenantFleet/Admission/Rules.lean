import TenantFleet.Field.Error
import TenantFleet.Object.Basic

/-!
# Rules of validation

What is required of the parts that several kinds of objects share.  Each rule
looks at one part and lists the errors that it finds, with paths below the one
that it is given.
-/

namespace TenantFleet

/-- A lower-case letter of the English alphabet or a decimal digit. -/
def isLowerAlphanumeric (character : Char) : Bool :=
  ('a' ≤ character && character ≤ 'z') || ('0' ≤ character && character ≤ '9')

def longestName : Nat := 63

/-- Whether the text is a DNS label: lower-case letters, digits and hyphens, with a letter or a
digit at both ends, and not too long. -/
def isDnsLabel (text : String) : Bool :=
  let characters := text.toList
  characters.length ≤ longestName &&
    characters.head?.any isLowerAlphanumeric &&
    characters.getLast?.any isLowerAlphanumeric &&
    characters.all fun character => isLowerAlphanumeric character || character = '-'

namespace Metadata

/-- What is said of a name that is not a DNS label. -/
def nameRule : String :=
  "must consist of lower case alphanumeric characters or '-', start and end with an " ++
    "alphanumeric character, and be at most 63 characters"

/-- The errors of the name: it is a DNS label, or left to the store to complete. -/
def nameErrors (metadata : Metadata) (path : FieldPath) : List FieldError :=
  if metadata.name = "" then
    reportIf (metadata.generateName = "") (.required path "name or generateName is required")
  else
    reportIf (!isDnsLabel metadata.name) (.invalid path metadata.name nameRule)

/-- The errors of the namespace: an object of the whole cluster has none, any other has one. -/
def scopeErrors (metadata : Metadata) (namespaced : Bool) (path : FieldPath) :
    List FieldError :=
  if namespaced then
    reportIf (metadata.scope = "") (.required path "namespace may not be empty")
  else
    reportIf (metadata.scope ≠ "") (.forbidden path "not allowed on this type")

/-- The errors of the metadata of an object of a kind that is namespaced or not. -/
def errors (metadata : Metadata) (namespaced : Bool) (path : FieldPath) : List FieldError :=
  metadata.nameErrors (path.field "name") ++
    metadata.scopeErrors namespaced (path.field "namespace")

end Metadata

def Labels.hintErrors (labels : Labels) (path : FieldPath) : List FieldError :=
  reportIf (labels.entries.any fun entry => entry.1 = "")
    (.invalid path "\"\"" "label keys may not be empty")

/-- The errors of an identifier: it has its fixed length. -/
def idErrors (id : String) (path : FieldPath) : List FieldError :=
  reportIf (id.length ≠ idLength)
    (.invalid path id ("must be exactly of size " ++ toString idLength))

/-- The errors of a reference to a namespaced object: both parts are set. -/
def ObjectKey.errors (key : ObjectKey) (path : FieldPath) : List FieldError :=
  reportIf (key.name = "") (.required (path.field "name") "name may not be empty") ++
    reportIf (key.scope = "") (.required (path.field "namespace") "namespace may not be empty")

/-- The errors of a reference to a secret's entry: all three parts are set. -/
def SecretEntry.errors (secret : SecretEntry) (path : FieldPath) : List FieldError :=
  reportIf (secret.entry = "") (.required (path.field "key") "key may not be empty") ++
    ObjectKey.errors ⟨secret.scope, secret.name⟩ path

/-- The errors of a choice of deployers: each of them is supported. -/
def Configuration.errors (configuration : Configuration) (path : FieldPath) :
    List FieldError :=
  configuration.deployers.zipIdx.flatMap fun (deployer, position) =>
    reportIf (!deployerPlugins.contains deployer)
      (.notSupported ((path.field "deployers").item position) deployer deployerPlugins)

/-- The errors of the tolerated failures: they are among those that can be tolerated. -/
def HighAvailability.errors (availability : HighAvailability) (path : FieldPath) :
    List FieldError :=
  reportIf (!tolerableFailures.contains availability.failureTolerance)
    (.invalid (path.field "controlPlaneFailureTolerance") availability.failureTolerance
      "allowed values: \"zone\", \"node\"")

/-- The errors of a data plane from elsewhere: it has its access file, or says where it is. -/
def DataPlane.errors (dataPlane : DataPlane) (path : FieldPath) : List FieldError :=
  if dataPlane.kubeconfig ≠ "" then
    []
  else
    match dataPlane.secret with
    | some secret => secret.errors (path.field "secretRef")
    | none => [.required path "either kubeconfig or secretRef must be set"]

/-- The parts of a spec that describe how a workload runs. -/
structure Workload where
  configuration : Configuration
  highAvailability : Option HighAvailability
  dataPlane : Option DataPlane
deriving DecidableEq, Repr

namespace Workload

/-- The errors of a workload: a data plane from elsewhere excludes a tolerance of failures, and
each part is in order. -/
def errors (workload : Workload) (path : FieldPath) : List FieldError :=
  reportIf (workload.dataPlane.isSome && workload.highAvailability.isSome)
    (.forbidden (path.field "dataPlane")
      "dataPlane can't be used in combination with highAvailability") ++
  (match workload.highAvailability with
    | some availability => availability.errors (path.field "highAvailability")
    | none => []) ++
  (match workload.dataPlane with
    | some dataPlane => dataPlane.errors (path.field "dataPlane")
    | none => []) ++
  workload.configuration.errors (path.field "configuration")

def requestErrors (workload : Workload) (purpose : String) (path : FieldPath) :
    List FieldError :=
  reportIf (purpose = "") (.required (path.field "purpose") "purpose may not be empty") ++
    workload.errors path

/-- The errors of a change of a workload: the tolerated failures stay while there are some, and
the data plane stays what it is, its own or from elsewhere. -/
def changeErrors (next stored : Workload) (path : FieldPath) : List FieldError :=
  (match next.highAvailability, stored.highAvailability with
    | some new, some old =>
        reportIf (new.failureTolerance ≠ old.failureTolerance)
          (.forbidden ((path.field "highAvailability").field "controlPlaneFailureTolerance")
            "is immutable")
    | _, _ => []) ++
  reportIf (next.dataPlane.isSome != stored.dataPlane.isSome)
    (.forbidden (path.field "dataPlane")
      "can't switch from external data plane to internal or vice versa")

end Workload

end TenantFleet
