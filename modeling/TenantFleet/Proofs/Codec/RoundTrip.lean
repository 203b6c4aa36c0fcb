import TenantFleet.Document.Manifest
import TenantFleet.Proofs.Codec.Selectors
import TenantFleet.Proofs.Codec.Soundness

/-!
# What is stored is read back

Objects of every kind, and the documents from which scheduling objects are made,
are read back from the JSON that they are written as, in every dialect and for
all numbers that their fields can hold.  The same JSON with a kind beside it, at
whatever place, is the manifest of the object.
-/

namespace TenantFleet

open Json (Dialect required of_required of_defaulted record? isSound)

variable {dialect : Dialect} {json : Json} {kind : Kind}

/-- Values that fit are written as JSON that is read back in every dialect. -/
structure Json.Faithful {α : Type} (fits : α → Prop) (encode : α → Json)
    (decode : Dialect → Json → Option α) : Prop where
  readBack : ∀ dialect value, fits value → decode dialect (encode value) = some value
  /-- What has been read is written as JSON that is read as the same, whatever the first one
  was like. -/
  settled : ∀ first second json value,
    decode first json = some value → decode second (encode value) = some value
  /-- What fits is all that can be read. -/
  complete : ∀ dialect value, fits value ↔ ∃ json, decode dialect json = some value

theorem Json.Faithful.of_fits {α : Type} {fits : α → Prop} {encode : α → Json}
    {decode : Dialect → Json → Option α}
    (readBack : ∀ {dialect value}, fits value → decode dialect (encode value) = some value)
    (fitsOf : ∀ {dialect json value}, decode dialect json = some value → fits value) :
    Json.Faithful fits encode decode where
  readBack _ _ valueFits := readBack valueFits
  settled _ _ _ _ read := readBack (fitsOf read)
  complete _ value := ⟨fun valueFits => ⟨encode value, readBack valueFits⟩,
    fun ⟨_, read⟩ => fitsOf read⟩

/-! ### Objects -/

namespace Kind

/-- The numbers in a spec of the kind fit into 64 bits. -/
def SpecFits : (kind : Kind) → kind.Spec → Prop
  | .target, spec => TargetSpec.Fits spec
  | .scheduling, spec => SchedulingSpec.Fits spec
  | .tenantSpace, _ | .deployment, _ | .tenantInstance, _ | .registration, _ => True

/-- The numbers in a status of the kind fit into 64 bits. -/
def StatusFits : (kind : Kind) → kind.Status → Prop
  | .target, status => TargetStatus.Fits status
  | .deployment, status => DeploymentStatus.Fits status
  | .tenantInstance, status => InstanceStatus.Fits status
  | .registration, status => RegistrationStatus.Fits status
  | .tenantSpace, _ | .scheduling, _ => True

variable {entries : List (String × Json)}

theorem specOf?_of_lookup {spec : kind.Spec} (fits : kind.SpecFits spec)
    (found : entries.lookup "spec" = some (kind.specToJson spec)) :
    kind.specOf? dialect entries = some spec := by
  cases kind with
  | tenantSpace => simp [specOf?, found, specToJson]
  | target => simpa [specOf?, required, found, specToJson] using TargetSpec.ofJson?_toJson fits
  | deployment => simpa [specOf?, required, found, specToJson] using
      DeploymentSpec.ofJson?_toJson spec
  | tenantInstance => simpa [specOf?, required, found, specToJson] using
      InstanceSpec.ofJson?_toJson spec
  | registration => simpa [specOf?, required, found, specToJson] using
      RegistrationSpec.ofJson?_toJson spec
  | scheduling => simpa [specOf?, required, found, specToJson] using
      SchedulingSpec.ofJson?_toJson fits

theorem statusOf?_of_lookup {status : kind.Status} (fits : kind.StatusFits status)
    (found : entries.lookup "status" = some (kind.statusToJson status)) :
    kind.statusOf? dialect entries = some status := by
  cases kind with
  | tenantSpace => simp [statusOf?, statusOf?.read, found, statusToJson]
  | target => simpa [statusOf?, statusOf?.read, found, statusToJson] using
      TargetStatus.ofJson?_toJson fits
  | deployment => simpa [statusOf?, statusOf?.read, found, statusToJson] using
      DeploymentStatus.ofJson?_toJson fits
  | tenantInstance => simpa [statusOf?, statusOf?.read, found, statusToJson] using
      InstanceStatus.ofJson?_toJson fits
  | registration => simpa [statusOf?, statusOf?.read, found, statusToJson] using
      RegistrationStatus.ofJson?_toJson fits
  | scheduling => simp [statusOf?, statusOf?.read, found, statusToJson]

theorem specFits_of_specOf? {spec : kind.Spec}
    (read : kind.specOf? dialect entries = some spec) : kind.SpecFits spec := by
  cases kind with
  | target => exact of_required TargetSpec.fits_of_ofJson? read
  | scheduling => exact of_required SchedulingSpec.fits_of_ofJson? read
  | tenantSpace | deployment | tenantInstance | registration => trivial

theorem statusFits_initialStatus : kind.StatusFits kind.initialStatus := by
  cases kind with
  | target => simp [StatusFits, initialStatus, TargetStatus.Fits]
  | deployment => exact ⟨by decide, by simp [initialStatus]⟩
  | tenantInstance => simp [StatusFits, initialStatus, InstanceStatus.Fits]
  | registration => exact ⟨by decide, by simp [initialStatus]⟩
  | tenantSpace | scheduling => trivial

theorem statusFits_of_statusOf? {status : kind.Status}
    (read : kind.statusOf? dialect entries = some status) : kind.StatusFits status := by
  have initial : kind.StatusFits kind.initialStatus := statusFits_initialStatus
  cases kind with
  | target => exact of_defaulted initial TargetStatus.fits_of_ofJson? read
  | deployment => exact of_defaulted initial DeploymentStatus.fits_of_ofJson? read
  | tenantInstance => exact of_defaulted initial InstanceStatus.fits_of_ofJson? read
  | registration => exact of_defaulted initial RegistrationStatus.fits_of_ofJson? read
  | tenantSpace | scheduling => trivial

end Kind

namespace Object

variable {object : Object kind}

/-- The numbers in the object fit into 64 bits. -/
structure Fits (object : Object kind) : Prop where
  metadata : object.metadata.Fits
  spec : kind.SpecFits object.spec
  status : kind.StatusFits object.status

theorem ofJson?_toJson (fits : object.Fits) :
    Object.ofJson? dialect kind object.toJson = some object := by
  have metadata : Metadata.ofJson? dialect object.metadata.toJson = some object.metadata :=
    Metadata.ofJson?_toJson fits.metadata
  simp [Object.ofJson?, toJson, record?, required, metadata,
    Kind.specOf?_of_lookup fits.spec, Kind.statusOf?_of_lookup fits.status]

theorem fits_of_ofJson? (read : Object.ofJson? dialect kind json = some object) :
    object.Fits := by
  simp only [Object.ofJson?, Option.bind_eq_bind, Option.bind_eq_some_iff, Option.pure_def,
    Option.some.injEq] at read
  obtain ⟨_, -, metadata, readMetadata, spec, readSpec, status, readStatus, rfl⟩ := read
  exact ⟨of_required Metadata.fits_of_ofJson? readMetadata, Kind.specFits_of_specOf? readSpec,
    Kind.statusFits_of_statusOf? readStatus⟩

end Object

/-! ### Manifests -/

namespace Manifest

/-- The JSON of what the manifest spells. -/
def body : Manifest → Json
  | .tenantSpace object => object.toJson
  | .target object => object.toJson
  | .deployment object => object.toJson
  | .registration object => object.toJson
  | .scheduling draft => draft.toJson

/-- The numbers in what the manifest spells fit into 64 bits. -/
def Fits : Manifest → Prop
  | .tenantSpace object => object.Fits
  | .target object => object.Fits
  | .deployment object => object.Fits
  | .registration object => object.Fits
  | .scheduling draft => draft.Fits

theorem ofBody?_body {manifest : Manifest} (fits : manifest.Fits) :
    ofBody? manifest.kind manifest.body = some manifest := by
  cases manifest with
  | scheduling draft => simp [kind, body, ofBody?, SchedulingDraft.ofJson?_toJson fits]
  | _ object => simp [kind, body, ofBody?, Object.ofJson?_toJson fits]

theorem isSound_body (manifest : Manifest) : manifest.body.isSound := by
  cases manifest with
  | scheduling draft => exact draft.isSound_toJson
  | tenantSpace object | target object | deployment object | registration object =>
      exact object.isSound_toJson

/-- No manifest says its kind in what it spells. -/
theorem ne_kind_of_body {manifest : Manifest} {entries : List (String × Json)}
    (spelled : manifest.body = .object entries) : ∀ entry ∈ entries, entry.1 ≠ "kind" := by
  cases manifest <;>
    simp only [body, Object.toJson, SchedulingDraft.toJson, Json.object.injEq] at spelled <;>
    subst spelled <;> simp

/-- A kind beside the entries of an object, wherever it stands, says how the rest is read. -/
theorem ofJson?_insert {kind : Kind} {before after : List (String × Json)}
    (sound : (Json.object (before ++ after)).isSound)
    (unnamed : ∀ entry ∈ before ++ after, entry.1 ≠ "kind") :
    ofJson? (.object (before ++ ("kind", .string kind.title) :: after)) =
      ofBody? kind (.object (before ++ after)) := by
  have soundWhole :
      (Json.object (before ++ ("kind", .string kind.title) :: after)).isSound := by
    simpa using sound
  have title : Kind.ofTitle? kind.title = some kind := by cases kind <;> rfl
  have unnamedBefore : ∀ entry ∈ before, entry.1 ≠ "kind" := fun entry entryMem =>
    unnamed entry (List.mem_append_left after entryMem)
  simp only [ofJson?, soundWhole, required, Json.hasRepeated_insert _ unnamed,
    Json.lookup_insert _ unnamedBefore, Json.filter_insert _ unnamed]
  simp [title]

theorem ofJson?_body_insert {manifest : Manifest} {before after : List (String × Json)}
    (fits : manifest.Fits) (spelled : manifest.body = .object (before ++ after)) :
    ofJson? (.object (before ++ ("kind", .string manifest.kind.title) :: after)) =
      some manifest := by
  have sound := manifest.isSound_body
  rw [spelled] at sound
  rw [ofJson?_insert sound (ne_kind_of_body spelled), ← spelled, ofBody?_body fits]

theorem fits_of_ofBody? {kind : Kind} {body : Json} {manifest : Manifest}
    (read : ofBody? kind body = some manifest) : manifest.Fits := by
  cases kind with
  | tenantInstance => simp [ofBody?] at read
  | scheduling =>
      obtain ⟨draft, readDraft, rfl⟩ := Option.map_eq_some_iff.1 read
      exact SchedulingDraft.fits_of_ofJson? readDraft
  | tenantSpace | target | deployment | registration =>
      obtain ⟨object, readObject, rfl⟩ := Option.map_eq_some_iff.1 read
      exact Object.fits_of_ofJson? readObject

/-- The manifests that documents spell are those with numbers that fit. -/
theorem fits_iff_exists_ofJson? {manifest : Manifest} :
    manifest.Fits ↔ ∃ json, ofJson? json = some manifest := by
  constructor
  · intro fits
    obtain ⟨entries, spelled⟩ : ∃ entries, manifest.body = .object entries := by
      cases manifest <;> exact ⟨_, rfl⟩
    have spelledAfter : manifest.body = .object ([] ++ entries) := spelled
    exact ⟨_, ofJson?_body_insert fits spelledAfter⟩
  · rintro ⟨json, read⟩
    unfold ofJson? at read
    split at read
    · contradiction
    · split at read
      · split at read
        · contradiction
        · simp only [Option.bind_eq_bind, Option.bind_eq_some_iff] at read
          obtain ⟨title, -, kind, -, readBody⟩ := read
          exact fits_of_ofBody? readBody
      · simp only [Option.bind_eq_bind, Option.bind_eq_some_iff] at read
        obtain ⟨title, -, kind, -, readBody⟩ := read
        exact fits_of_ofBody? readBody
      · contradiction

end Manifest

/-- Objects of all kinds, documents of scheduling rules and their parts are read back from what
they are written as, and what has been read is settled: written and read again it is the same.
The JSON of what a manifest spells, with the kind put in at any place, is read as the manifest. -/
theorem Json.stored_values_are_read_back :
    (∀ kind, Faithful Object.Fits Object.toJson fun dialect => Object.ofJson? dialect kind) ∧
      Faithful SchedulingDraft.Fits SchedulingDraft.toJson SchedulingDraft.ofJson? ∧
      Faithful RuleDraft.Fits RuleDraft.toJson RuleDraft.ofJson? ∧
      Faithful (fun _ => True) SelectorDraft.toJson SelectorDraft.ofJson? ∧
      ∀ (manifest : Manifest) (before after : List (String × Json)), manifest.Fits →
        manifest.body = .object (before ++ after) →
        Manifest.ofJson? (.object (before ++ ("kind", .string manifest.kind.title) :: after)) =
          some manifest :=
  ⟨fun _ => .of_fits Object.ofJson?_toJson Object.fits_of_ofJson?,
    .of_fits SchedulingDraft.ofJson?_toJson SchedulingDraft.fits_of_ofJson?,
    .of_fits RuleDraft.ofJson?_toJson RuleDraft.fits_of_ofJson?,
    .of_fits (fun _ => SelectorDraft.ofJson?_toJson _) (fun _ => trivial),
    fun _ _ _ fits spelled => Manifest.ofJson?_body_insert fits spelled⟩

/-- Metadata whose numbers are the largest that fit. -/
def Metadata.brimming : Metadata where
  name := "rules"
  scope := "fleet"
  labels := .ofList Prod.fst [("", "\x00"), ("a \"b\"", "")]
  finalizers := ["", finalizer]
  generation := Int.pow 2 63 - 1
  resourceVersion := Nat.pow 2 64 - 1
  creationTime := Nat.pow 2 64 - 1
  deletionTime := some (Nat.pow 2 64 - 1)

theorem Metadata.fits_brimming : brimming.Fits where
  generation := by decide
  resourceVersion := by decide
  creationTime := by decide
  deletionTime := by
    intro time timeMem
    obtain rfl := Option.some.inj timeMem
    decide

/-- A target of the least priority. -/
def Target.brimming : Target :=
  ⟨.brimming, ({ priority := -(Int.pow 2 63), region := some "" } : TargetSpec),
    ({} : TargetStatus)⟩

/-- A scheduling object with the least priority, and with selectors in and beside each other. -/
def Scheduling.brimming : Scheduling where
  metadata := .brimming
  spec := ⟨[⟨-(Int.pow 2 63), [⟨"", ""⟩], [.negation (.allOf []), .anyOf [.matchLabel "" "/"]]⟩]⟩
  status := ()

/-- A draft in which one node fills in two places and another none is read back like a scheduling
object of the least priority; a rule that an array spells in part is settled once it was written;
and the kind of a manifest may stand at its end. -/
theorem Json.stored_values_are_read_back_at_the_bounds :
    Object.ofJson? .plain .scheduling Scheduling.brimming.toJson = some Scheduling.brimming ∧
      SelectorDraft.ofJson? .plain
          (SelectorDraft.node (some "") none (some [.blank]) none none).toJson =
        some (.node (some "") none (some [.blank]) none none) ∧
      RuleDraft.ofJson? .plain (.array [.integer 1, .array []]) = some ⟨1, [], []⟩ ∧
      RuleDraft.ofJson? .tagged (RuleDraft.toJson ⟨1, [], []⟩) = some ⟨1, [], []⟩ ∧
      Manifest.ofJson? (.object [("metadata", Metadata.brimming.toJson),
          ("spec", Kind.specToJson .target Target.brimming.spec),
          ("status", Kind.statusToJson .target Target.brimming.status),
          ("kind", .string "Target")]) = some (.target .brimming) := by
  obtain ⟨objects, -, rules, selectors, manifests⟩ := Json.stored_values_are_read_back
  have leastPriority : FitsSigned (-(Int.pow 2 63)) := by decide
  have schedulingFits : Scheduling.brimming.Fits := by
    refine ⟨Metadata.fits_brimming, ?_, trivial⟩
    intro rule ruleMem
    obtain rfl := List.mem_singleton.1 ruleMem
    exact leastPriority
  have targetFits : Target.brimming.Fits :=
    ⟨Metadata.fits_brimming, leastPriority, Kind.statusFits_initialStatus⟩
  have spelled : RuleDraft.ofJson? .plain (.array [.integer 1, .array []]) =
      some ⟨1, [], []⟩ := rfl
  exact ⟨(objects .scheduling).readBack .plain _ schedulingFits,
    selectors.readBack .plain _ trivial, spelled, rules.settled .plain .tagged _ _ spelled,
    manifests (.target .brimming) [_, _, _] [] targetFits rfl⟩

end TenantFleet
