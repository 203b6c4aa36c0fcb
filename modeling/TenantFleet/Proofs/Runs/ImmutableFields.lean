import TenantFleet.Proofs.Runs.FixedFields
import TenantFleet.Proofs.Runs.Statuses
import TenantFleet.Proofs.Store.Keeping

/-!
# What users cannot change

Review compares what a user hands in with the one version that is stored.  That
carries over to all versions, as long as an object is there, for the fields that
every version has: the tenant, the id, the target, and whether the data plane is
from elsewhere.  It carries over for the tolerated failures as long as every
version has some.  They may be dropped, though, and the next version that has
some is compared with one that has none.
-/

namespace TenantFleet

/-- The fields that do not change, as far as the kind of the object has them. -/
structure FixedFields where
  tenantId : Option String := none
  id : Option String := none
  targetKey : Option ObjectKey := none
  /-- Whether the data plane is from elsewhere. -/
  external : Option Bool := none
deriving DecidableEq, Repr

namespace Kind

/-- How the workload runs, if the objects of the kind are workloads. -/
def workload? : (kind : Kind) → kind.Spec → Option Workload
  | .deployment, spec => some (DeploymentSpec.workload spec)
  | .tenantInstance, spec => some (InstanceSpec.workload spec)
  | .registration, spec => some (RegistrationSpec.workload spec)
  | .tenantSpace, _ | .target, _ | .scheduling, _ => none

def fixedFields (kind : Kind) (spec : kind.Spec) : FixedFields :=
  let external := (kind.workload? spec).map fun workload => workload.dataPlane.isSome
  match kind, spec with
  | .deployment, spec => { tenantId := some (DeploymentSpec.tenantId spec), external }
  | .tenantInstance, spec =>
      { tenantId := some (InstanceSpec.tenantId spec)
        id := some (InstanceSpec.id spec)
        targetKey := some (InstanceSpec.targetKey spec)
        external }
  | .registration, _ => { external }
  | .tenantSpace, _ | .target, _ | .scheduling, _ => {}

/-- The failures that are tolerated, if any are. -/
def tolerance? (kind : Kind) (spec : kind.Spec) : Option String :=
  (kind.workload? spec).bind fun workload =>
    workload.highAvailability.map HighAvailability.failureTolerance

end Kind

theorem Workload.sameTolerance_of_changeErrors {next stored : Workload} {path : FieldPath}
    (permitted : next.changeErrors stored path = []) :
    ∀ first ∈ stored.highAvailability, ∀ second ∈ next.highAvailability,
      second.failureTolerance = first.failureTolerance := by
  intro first firstMem second secondMem
  have noChange := (List.append_eq_nil_iff.1 permitted).1
  rw [Option.mem_def.1 firstMem, Option.mem_def.1 secondMem] at noChange
  simpa [reportIf] using noChange

namespace Object

variable {kind : Kind}

def fixedFields (object : Object kind) : FixedFields :=
  kind.fixedFields object.spec

def tolerance? (object : Object kind) : Option String :=
  kind.tolerance? object.spec

/-- What a user cannot change from one version to the next is in both. -/
structure KeepsImmutable (kind : Kind) (earlier later : Object kind) : Prop where
  fields : later.fixedFields = earlier.fixedFields
  tolerance : ∀ first ∈ earlier.tolerance?, ∀ second ∈ later.tolerance?, second = first

theorem KeepsImmutable.of_spec {earlier later : Object kind}
    (sameSpec : later.spec = earlier.spec) : KeepsImmutable kind earlier later := by
  constructor
  · rw [fixedFields, sameSpec]
    rfl
  · intro first firstMem second secondMem
    rw [tolerance?, sameSpec] at secondMem
    exact Option.some.inj (secondMem.symm.trans firstMem)

/-- Workloads that review lets follow each other have the same data plane and tolerate the same. -/
theorem KeepsImmutable.of_workload {earlier later : Object kind} {first second : Workload}
    (isFirst : kind.workload? earlier.spec = some first)
    (isSecond : kind.workload? later.spec = some second) {path : FieldPath}
    (permitted : second.changeErrors first path = [])
    (fields : second.dataPlane.isSome = first.dataPlane.isSome →
      later.fixedFields = earlier.fixedFields) :
    KeepsImmutable kind earlier later := by
  refine ⟨fields (Workload.sameDataPlane_of_changeErrors permitted), ?_⟩
  simp only [tolerance?, Kind.tolerance?, isFirst, isSecond, Option.bind_some, Option.mem_def,
    Option.map_eq_some_iff]
  rintro _ ⟨before, isBefore, rfl⟩ _ ⟨after, isAfter, rfl⟩
  exact Workload.sameTolerance_of_changeErrors permitted before isBefore after isAfter

/-- What review lets replace a stored object keeps what cannot change. -/
theorem KeepsImmutable.of_changeErrors {stored next : Object kind}
    (permitted : next.changeErrors stored = []) : KeepsImmutable kind stored next := by
  cases kind with
  | deployment =>
      obtain ⟨noOther, workload⟩ := List.append_eq_nil_iff.1 permitted
      have tenantId : DeploymentSpec.tenantId next.spec = DeploymentSpec.tenantId stored.spec := by
        simpa [reportIf] using noOther
      refine .of_workload rfl rfl workload fun sameDataPlane => ?_
      simp [fixedFields, Kind.fixedFields, Kind.workload?, tenantId, sameDataPlane]
  | tenantInstance =>
      obtain ⟨noOther, workload⟩ := List.append_eq_nil_iff.1 permitted
      have others : InstanceSpec.tenantId next.spec = InstanceSpec.tenantId stored.spec ∧
          InstanceSpec.id next.spec = InstanceSpec.id stored.spec ∧
            InstanceSpec.targetKey next.spec = InstanceSpec.targetKey stored.spec := by
        simpa [reportIf] using noOther
      refine .of_workload rfl rfl workload fun sameDataPlane => ?_
      simp [fixedFields, Kind.fixedFields, Kind.workload?, others, sameDataPlane]
  | registration =>
      refine .of_workload rfl rfl permitted fun sameDataPlane => ?_
      simp [fixedFields, Kind.fixedFields, Kind.workload?, sameDataPlane]
  | tenantSpace | target | scheduling =>
      exact ⟨rfl, fun _ isNone => by simp [tolerance?, Kind.tolerance?, Kind.workload?] at isNone⟩

end Object

/-! ### Writes -/

namespace Store

variable {store after : Store} {kind : Kind}

/-- What a user cannot change is in both stores, if its object is. -/
def KeepsImmutable (before after : Store) : Prop :=
  Keeps Object.KeepsImmutable before after

theorem keepsImmutable_revise {stored next : Object kind} (present : stored ∈ store.list kind)
    (sameText : next.keyText = stored.keyText) (follows : Object.KeepsImmutable kind stored next) :
    store.KeepsImmutable (store.supplant stored (store.replacement stored next)) :=
  keeps_supplant _ (fun _ _ => .of_spec rfl) present sameText ⟨follows.fields, follows.tolerance⟩

theorem keepsImmutable_restate {stored : Object kind} (present : stored ∈ store.list kind)
    (status : kind.Status) :
    store.KeepsImmutable (store.write (some stored) (store.restated stored status)) :=
  keeps_replace _ (fun _ _ => .of_spec rfl) present rfl (.of_spec rfl)

end Store

section Writes

variable {store after : Store} {key : ObjectKey}

theorem Admission.Write.keepsImmutable {kind : Kind} {object : Object kind}
    (written : Admission.Write object store after) : store.KeepsImmutable after := by
  cases written with
  | created now sameMetadata sameStatus isName isMade absent =>
      exact Store.keeps_create _ (fun _ _ => .of_spec rfl) absent
  | updated isFound sameMetadata permitted =>
      exact Store.keepsImmutable_revise (Store.mem_list_of_find? isFound)
        (keyText_of_update isFound sameMetadata) (.of_changeErrors permitted)

theorem Manifest.Write.keepsImmutable {manifest : Manifest} (written : manifest.Write store after) :
    store.KeepsImmutable after := by
  cases written with
  | tenantSpace written | target written | deployment written | registration written
  | scheduling accepted written => exact written.keepsImmutable

theorem TenantInstance.Write.keepsImmutable (written : TenantInstance.Write key store after) :
    store.KeepsImmutable after := by
  cases written with
  | held isFound =>
      exact Store.keepsImmutable_revise (Store.mem_list_of_find? isFound)
        (congrArg ObjectKey.text (Object.key_hold _)) (.of_spec rfl)
  | released isFound marked isHeld targetFound =>
      exact Store.keepsImmutable_restate (Store.mem_list_of_find? targetFound) _
  | letGo isFound =>
      exact Store.keepsImmutable_revise (Store.mem_list_of_find? isFound) rfl (.of_spec rfl)
  | recorded isFound => exact Store.keepsImmutable_restate (Store.mem_list_of_find? isFound) _

end Writes

/-! ### Runs -/

namespace Step

/-- Whether it is left to users what the specs say.  The passes on registrations and on deployments
write the specs that they derive past the review. -/
def leavesSpecs : Step → Bool
  | .act (.reconcileRegistration _) | .act (.reconcileDeployment _ _) | .act (.tick _ _) => false
  | _ => true

theorem through_keepsImmutable (step : Step) (leaves : step.leavesSpecs = true) (world : World) :
    World.Through Store.KeepsImmutable world (step.perform world) := by
  cases step with
  | ask call =>
      exact (call.through_perform world).mono fun ⟨_, _, _, written⟩ => written.keepsImmutable
  | act action =>
      refine (action.through_perform world).mono fun written => ?_
      cases written with
      | apply written => exact written.keepsImmutable
      | delete present sameText deletion =>
          exact deletion.keeps _ (fun _ _ => .of_spec rfl) present fun _ => .of_spec rfl
      | report present => exact Store.keepsImmutable_restate present _
      | forget present => exact Store.keepsImmutable_restate present _
      | reconcileInstance written => exact written.keepsImmutable
      | reconcileTarget written =>
          cases written with
          | published isFound =>
              exact Store.keepsImmutable_restate (Store.mem_list_of_find? isFound) _
      | syncStatus written =>
          cases written with
          | reported isFound named labelled spelled registrationFound =>
              exact Store.keepsImmutable_restate (Store.mem_list_of_find? registrationFound) _
      | reconcileRegistration | reconcileDeployment | tick => contradiction

end Step

namespace World

variable {world : World} {stores : List Store}

/-- What stays from each store to the next, and is there in all of them, is the same in all. -/
theorem eq_of_isChain {α : Type} {value : Store → Option α}
    (chain : stores.IsChain fun earlier later =>
      ∀ first ∈ value earlier, ∀ second ∈ value later, second = first)
    (present : ∀ store ∈ stores, (value store).isSome = true) :
    ∀ earlier ∈ stores, ∀ later ∈ stores, value later = value earlier := by
  have sameNext : (stores.map value).IsChain (· = ·) := by
    refine (List.isChain_map value).2 (chain.imp_of_mem_imp ?_)
    intro earlier later earlierMem laterMem stays
    obtain ⟨first, isFirst⟩ := Option.isSome_iff_exists.1 (present earlier earlierMem)
    obtain ⟨second, isSecond⟩ := Option.isSome_iff_exists.1 (present later laterMem)
    rw [isFirst, isSecond, stays first isFirst second isSecond]
  intro earlier earlierMem later laterMem
  exact sameNext.pairwise.forall_of_forall (fun _ _ => rfl) (List.mem_map_of_mem laterMem)
    (List.mem_map_of_mem earlierMem)

/-- Whatever users call and do, and whatever the passes do that leave the specs to them: throughout
every stretch of stores with an object under a key, the fields of that which do not change have
one value each; and throughout every stretch in which it tolerates failures, these are the same. -/
theorem immutable_fields_stay (unwritten : world.journal = []) (steps : List Step)
    (leaves : ∀ step ∈ steps, step.leavesSpecs = true)
    (stretch : stores <:+: world.store :: (steps.foldl Step.perform world).journal)
    (kind : Kind) (key : ObjectKey) :
    ((∀ store ∈ stores, (store.find? kind key).isSome = true) →
      ∀ earlier ∈ stores, ∀ later ∈ stores,
        (later.find? kind key).map Object.fixedFields =
          (earlier.find? kind key).map Object.fixedFields) ∧
    ((∀ store ∈ stores, ((store.find? kind key).bind Object.tolerance?).isSome = true) →
      ∀ earlier ∈ stores, ∀ later ∈ stores,
        (later.find? kind key).bind Object.tolerance? =
          (earlier.find? kind key).bind Object.tolerance?) := by
  have through : Through Store.KeepsImmutable world (steps.foldl Step.perform world) :=
    .foldl steps world fun step stepMem => step.through_keepsImmutable (leaves step stepMem)
  have atStart : Traces Store.KeepsImmutable world.store world :=
    ⟨by simp [unwritten], by simp [unwritten]⟩
  have ⟨_, traces⟩ := through.traces (fun _ => True) (fun _ => True)
    (fun _ _ kept => ⟨trivial, kept⟩) (fun _ _ => trivial) trivial atStart
  have chain : stores.IsChain Store.KeepsImmutable := traces.chain.infix stretch
  refine ⟨fun lives => eq_of_isChain (chain.imp fun {earlier later} kept => ?fields) ?present,
    fun tolerates => eq_of_isChain (chain.imp fun {earlier later} kept => ?tolerance) tolerates⟩
  case present => simpa using lives
  case fields =>
    simp only [Option.mem_def, Option.map_eq_some_iff]
    rintro _ ⟨first, found, rfl⟩ _ ⟨second, foundLater, rfl⟩
    exact (kept kind key first second found foundLater).fields
  case tolerance =>
    simp only [Option.mem_def, Option.bind_eq_some_iff]
    rintro tolerated ⟨first, found, isFirst⟩ other ⟨second, foundLater, isSecond⟩
    exact (kept kind key first second found foundLater).tolerance tolerated isFirst other isSecond

/-- A deployment that tolerates failures or does not. -/
def tolerant (purpose : String) (tolerance : Option String) : Deployment where
  metadata := { name := "web", scope := "tenant01" }
  spec :=
    { tenantId := "tenant01"
      purpose := purpose
      highAvailability := tolerance.map HighAvailability.mk }
  status := {}

/-- The deployment gets another purpose, and would get another tolerance. -/
def revised : List Step :=
  [.ask (.apply .deployment (tolerant "demo" (some "zone"))),
    .ask (.update .deployment (tolerant "demo" (some "node"))),
    .act (.apply (.deployment (tolerant "live" (some "zone"))))]

/-- The purpose changes, and what cannot change stays. -/
theorem immutable_fields_stay_once_revised :
    let journal := (revised.foldl Step.perform uniform).journal
    journal.map (fun store => (store.find? .deployment ⟨"tenant01", "web"⟩).map
        fun deployment => DeploymentSpec.purpose deployment.spec) =
      [some "demo", some "live"] ∧
    ∀ earlier ∈ journal, ∀ later ∈ journal,
      (later.find? .deployment ⟨"tenant01", "web"⟩).map Object.fixedFields =
          (earlier.find? .deployment ⟨"tenant01", "web"⟩).map Object.fixedFields ∧
        (later.find? .deployment ⟨"tenant01", "web"⟩).bind Object.tolerance? =
          (earlier.find? .deployment ⟨"tenant01", "web"⟩).bind Object.tolerance? := by
  intro journal
  have stretch : journal <:+: uniform.store :: journal := (List.suffix_cons _ _).isInfix
  have stays := immutable_fields_stay rfl revised (by decide) stretch .deployment
    ⟨"tenant01", "web"⟩
  have lives : ∀ store ∈ journal,
      (store.find? .deployment ⟨"tenant01", "web"⟩).isSome = true := by decide +kernel
  have tolerates : ∀ store ∈ journal,
      ((store.find? .deployment ⟨"tenant01", "web"⟩).bind Object.tolerance?).isSome = true := by
    decide +kernel
  exact ⟨by decide +kernel, fun earlier earlierMem later laterMem =>
    ⟨stays.1 lives earlier earlierMem later laterMem,
      stays.2 tolerates earlier earlierMem later laterMem⟩⟩

/-- The deployment is applied with a tolerance, without, and with another. -/
def loosened : List Step :=
  [some "zone", none, some "node"].map fun tolerance =>
    .ask (.apply .deployment (tolerant "demo" tolerance))

/-- Review takes all three versions, so the tolerance of one deployment changes. -/
theorem tolerance_switches :
    let journal := (loosened.foldl Step.perform uniform).journal
    (∀ store ∈ journal, (store.find? .deployment ⟨"tenant01", "web"⟩).isSome = true) ∧
      ¬ ∃ tolerance, ∀ store ∈ journal,
        ∀ other ∈ (store.find? .deployment ⟨"tenant01", "web"⟩).bind Object.tolerance?,
          other = tolerance := by
  intro journal
  have zone : ∃ store ∈ journal,
      (store.find? .deployment ⟨"tenant01", "web"⟩).bind Object.tolerance? = some "zone" := by
    decide +kernel
  have node : ∃ store ∈ journal,
      (store.find? .deployment ⟨"tenant01", "web"⟩).bind Object.tolerance? = some "node" := by
    decide +kernel
  refine ⟨by decide +kernel, ?_⟩
  rintro ⟨tolerance, single⟩
  obtain ⟨earlier, earlierMem, isZone⟩ := zone
  obtain ⟨later, laterMem, isNode⟩ := node
  have different : "zone" ≠ "node" := by decide
  exact different ((single earlier earlierMem _ isZone).trans (single later laterMem _ isNode).symm)

end World

end TenantFleet
