import TenantFleet.Object.Codec
import TenantFleet.Proofs.Codec.Record

/-!
# Objects are read back as they were written

For each part of an object, from its key up to the object itself, what is written
is read back by the reader of every dialect, as long as the numbers fit into 64
bits; and whatever a reader accepts has numbers that fit.  So what has been read
once may be written and read again as often as one likes.
-/

namespace TenantFleet

open Json

variable {dialect : Dialect} {json : Json}

/-! ### Parts without numbers -/

@[simp]
theorem ObjectKey.toJson_ne_null (key : ObjectKey) : key.toJson ≠ .null := by
  simp [toJson]

@[simp]
theorem ObjectKey.ofJson?_toJson (key : ObjectKey) : ofJson? dialect key.toJson = some key := by
  simp [ofJson?, toJson, record?, required]

@[simp]
theorem Owner.ofJson?_toJson (owner : Owner) : ofJson? dialect owner.toJson = some owner := by
  simp [ofJson?, toJson, record?, required]

@[simp]
theorem SecretEntry.toJson_ne_null (secret : SecretEntry) : secret.toJson ≠ .null := by
  simp [toJson]

@[simp]
theorem SecretEntry.ofJson?_toJson (secret : SecretEntry) :
    ofJson? dialect secret.toJson = some secret := by
  simp [ofJson?, toJson, record?]

@[simp]
theorem Configuration.ofJson?_toJson (configuration : Configuration) :
    ofJson? dialect configuration.toJson = some configuration := by
  simp [ofJson?, toJson, record?]

@[simp]
theorem HighAvailability.toJson_ne_null (availability : HighAvailability) :
    availability.toJson ≠ .null := by
  simp [toJson]

@[simp]
theorem HighAvailability.ofJson?_toJson (availability : HighAvailability) :
    ofJson? dialect availability.toJson = some availability := by
  simp [ofJson?, toJson, record?, required]

@[simp]
theorem DataPlane.toJson_ne_null (dataPlane : DataPlane) : dataPlane.toJson ≠ .null := by
  simp [toJson]

@[simp]
theorem DataPlane.ofJson?_toJson (dataPlane : DataPlane) :
    ofJson? dialect dataPlane.toJson = some dataPlane := by
  simp [ofJson?, toJson, record?, readOptional_map]

@[simp]
theorem DataPlaneMode.ofJson?_toJson (mode : DataPlaneMode) :
    ofJson? dialect mode.toJson = some mode := by
  cases mode <;> rfl

/-! ### Failures -/

namespace FailureRecord

/-- The times of the record fit into 64 bits. -/
def Fits (failure : FailureRecord) : Prop :=
  FitsNatural failure.lastTransitionTime ∧ FitsNatural failure.lastUpdateTime

@[simp]
theorem toJson_ne_null (failure : FailureRecord) : failure.toJson ≠ .null := by
  simp [toJson]

-- Here and below the steps of `simp` are kept as proofs: left to the kernel to see, they have it
-- compare the bounds of the numbers.
@[simp]
theorem ofJson?_toJson {failure : FailureRecord} (fits : failure.Fits) :
    ofJson? dialect failure.toJson = some failure := by
  simp -implicitDefEqProofs [ofJson?, toJson, record?, required, fits.1, fits.2]

theorem fits_of_ofJson? {failure : FailureRecord} (read : ofJson? dialect json = some failure) :
    failure.Fits := by
  simp only [ofJson?, Option.bind_eq_bind, Option.bind_eq_some_iff, Option.pure_def,
    Option.some.injEq] at read
  obtain ⟨_, -, _, -, _, -, _, -, transition, readTransition, update, readUpdate, rfl⟩ := read
  exact ⟨of_required fitsNatural_of_natural? readTransition,
    of_required fitsNatural_of_natural? readUpdate⟩

/-- A failure that is told of is read back, and so is that there is none. -/
theorem readOptional_map_toJson {lastError : Option FailureRecord}
    (fits : ∀ failure ∈ lastError, failure.Fits) :
    readOptional (ofJson? dialect) (lastError.map toJson) = some lastError :=
  readOptional_map toJson_ne_null fun failure failureMem => ofJson?_toJson (fits failure failureMem)

end FailureRecord

/-! ### Metadata -/

namespace Metadata

/-- The numbers in the metadata fit into 64 bits. -/
structure Fits (metadata : Metadata) : Prop where
  generation : FitsSigned metadata.generation
  resourceVersion : FitsNatural metadata.resourceVersion
  creationTime : FitsNatural metadata.creationTime
  deletionTime : ∀ time ∈ metadata.deletionTime, FitsNatural time

theorem fits_blank : Fits {} := ⟨by decide, by decide, by decide, by simp⟩

theorem ofJson?_toJson {metadata : Metadata} (fits : metadata.Fits) :
    ofJson? dialect metadata.toJson = some metadata := by
  obtain ⟨generation, resourceVersion, creationTime, deletionTime⟩ := fits
  cases metadata with
  | mk name scope generateName labels annotations finalizers owners _ _ _ deletion =>
      cases deletion with
      | none =>
          simp -implicitDefEqProofs [ofJson?, toJson, record?, fields, list?_map, readOptional,
            generation, resourceVersion, creationTime]
      | some time =>
          have timeFits := deletionTime time rfl
          simp -implicitDefEqProofs [ofJson?, toJson, record?, fields, list?_map, readOptional,
            generation, resourceVersion, creationTime, timeFits]

theorem fits_of_ofJson? {metadata : Metadata} (read : ofJson? dialect json = some metadata) :
    metadata.Fits := by
  simp only [ofJson?, Option.bind_eq_bind, Option.bind_eq_some_iff, Option.pure_def,
    Option.some.injEq] at read
  obtain ⟨_, -, _, -, _, -, _, -, _, -, _, -, _, -, _, -, generation, readGeneration, version,
    readVersion, creation, readCreation, deletion, readDeletion, rfl⟩ := read
  exact {
    generation := of_defaulted (by decide) fitsSigned_of_signed? readGeneration
    resourceVersion := of_defaulted (by decide) fitsNatural_of_natural? readVersion
    creationTime := of_defaulted (by decide) fitsNatural_of_natural? readCreation
    deletionTime := of_optional fitsNatural_of_natural? readDeletion
  }

end Metadata

/-! ### Targets -/

namespace TargetSpec

def Fits (spec : TargetSpec) : Prop :=
  FitsSigned spec.priority

theorem ofJson?_toJson {spec : TargetSpec} (fits : spec.Fits) :
    ofJson? dialect spec.toJson = some spec := by
  have priority : FitsSigned spec.priority := fits
  simp -implicitDefEqProofs [ofJson?, toJson, record?, required, readOptional_map, priority]

theorem fits_of_ofJson? {spec : TargetSpec} (read : ofJson? dialect json = some spec) :
    spec.Fits := by
  simp only [ofJson?, Option.bind_eq_bind, Option.bind_eq_some_iff, Option.pure_def,
    Option.some.injEq] at read
  obtain ⟨_, -, priority, readPriority, _, -, _, -, _, -, _, -, _, -, rfl⟩ := read
  have priorityFits : FitsSigned priority := of_required fitsSigned_of_signed? readPriority
  exact priorityFits

end TargetSpec

namespace TargetStatus

def Fits (status : TargetStatus) : Prop :=
  ∀ places ∈ status.capacity, FitsSigned places

theorem ofJson?_toJson {status : TargetStatus} (fits : status.Fits) :
    ofJson? dialect status.toJson = some status := by
  have capacity : readOptional signed? (status.capacity.map .integer) = some status.capacity :=
    readOptional_map (by simp) fun places placesMem => signed?_integer (fits places placesMem)
  simp -implicitDefEqProofs [ofJson?, toJson, record?, list?_map, capacity]

theorem fits_of_ofJson? {status : TargetStatus} (read : ofJson? dialect json = some status) :
    status.Fits := by
  simp only [ofJson?, Option.bind_eq_bind, Option.bind_eq_some_iff, Option.pure_def,
    Option.some.injEq] at read
  obtain ⟨_, -, _, -, capacity, readCapacity, rfl⟩ := read
  exact of_optional fitsSigned_of_signed? readCapacity

end TargetStatus

/-! ### Deployments, instances and registrations -/

theorem DeploymentSpec.ofJson?_toJson (spec : DeploymentSpec) :
    ofJson? dialect spec.toJson = some spec := by
  simp [ofJson?, toJson, record?, required, readOptional_map]

namespace DeploymentStatus

/-- The numbers in the status fit into 64 bits. -/
structure Fits (status : DeploymentStatus) : Prop where
  observedGeneration : FitsSigned status.observedGeneration
  lastError : ∀ failure ∈ status.lastError, failure.Fits

theorem ofJson?_toJson {status : DeploymentStatus} (fits : status.Fits) :
    ofJson? dialect status.toJson = some status := by
  simp -implicitDefEqProofs [ofJson?, toJson, record?, readOptional_map, fits.observedGeneration,
    FailureRecord.readOptional_map_toJson fits.lastError]

theorem fits_of_ofJson? {status : DeploymentStatus} (read : ofJson? dialect json = some status) :
    status.Fits := by
  simp only [ofJson?, Option.bind_eq_bind, Option.bind_eq_some_iff, Option.pure_def,
    Option.some.injEq] at read
  obtain ⟨_, -, generation, readGeneration, _, -, lastError, readError, _, -, _, -, rfl⟩ := read
  exact ⟨of_defaulted (by decide) fitsSigned_of_signed? readGeneration,
    of_optional FailureRecord.fits_of_ofJson? readError⟩

end DeploymentStatus

theorem InstanceSpec.ofJson?_toJson (spec : InstanceSpec) :
    ofJson? dialect spec.toJson = some spec := by
  simp [ofJson?, toJson, record?, required, readOptional_map]

namespace InstanceStatus

def Fits (status : InstanceStatus) : Prop :=
  ∀ failure ∈ status.lastError, failure.Fits

theorem ofJson?_toJson {status : InstanceStatus} (fits : status.Fits) :
    ofJson? dialect status.toJson = some status := by
  simp [ofJson?, toJson, record?, FailureRecord.readOptional_map_toJson fits]

theorem fits_of_ofJson? {status : InstanceStatus} (read : ofJson? dialect json = some status) :
    status.Fits := by
  simp only [ofJson?, Option.bind_eq_bind, Option.bind_eq_some_iff, Option.pure_def,
    Option.some.injEq] at read
  obtain ⟨_, -, lastError, readError, _, -, _, -, _, -, rfl⟩ := read
  exact of_optional FailureRecord.fits_of_ofJson? readError

end InstanceStatus

theorem RegistrationSpec.ofJson?_toJson (spec : RegistrationSpec) :
    ofJson? dialect spec.toJson = some spec := by
  simp [ofJson?, toJson, record?, required, readOptional_map]

namespace RegistrationStatus

/-- The numbers in the status fit into 64 bits. -/
structure Fits (status : RegistrationStatus) : Prop where
  observedGeneration : FitsSigned status.observedGeneration
  lastError : ∀ failure ∈ status.lastError, failure.Fits

theorem ofJson?_toJson {status : RegistrationStatus} (fits : status.Fits) :
    ofJson? dialect status.toJson = some status := by
  simp -implicitDefEqProofs [ofJson?, toJson, record?, readOptional_map, fits.observedGeneration,
    FailureRecord.readOptional_map_toJson fits.lastError]

theorem fits_of_ofJson? {status : RegistrationStatus}
    (read : ofJson? dialect json = some status) : status.Fits := by
  simp only [ofJson?, Option.bind_eq_bind, Option.bind_eq_some_iff, Option.pure_def,
    Option.some.injEq] at read
  obtain ⟨_, -, generation, readGeneration, _, -, lastError, readError, _, -, rfl⟩ := read
  exact ⟨of_defaulted (by decide) fitsSigned_of_signed? readGeneration,
    of_optional FailureRecord.fits_of_ofJson? readError⟩

end RegistrationStatus

end TenantFleet
