import TenantFleet.Proofs.Reapplying.Confirmation
import TenantFleet.Proofs.Reapplying.Defaults

/-!
# Manifests that are applied again

A manifest that was accepted says nothing new about what it was accepted as, and
the manifest that is made of a stored object says nothing new about that object.
Either is applied as an update that touches the object and nothing else, as long
as the store can read the object back; if it cannot, the manifest is refused for
that.
-/

namespace TenantFleet

variable {kind : Kind} {world after : World}

/-- The store has the object, and neither the version nor review has anything to add. -/
structure Store.Upholds (store : Store) (version stored : Object kind) : Prop
    extends store.Knows version stored where
  named : stored.metadata.name ≠ ""
  faultless : stored.errors = []

/-- The world in which the stored object has been written again at the next version. -/
def World.touching (world : World) (stored : Object kind) : World :=
  world.commit (world.store.write (some stored) (stored.touched (world.store.lastVersion + 1)))

namespace Manifest

variable {manifest : Manifest} {report : Report} {version : Object kind}

/-- The store has the object that the manifest was accepted as. -/
def IsKnownAs (store : Store) : (manifest : Manifest) → Object manifest.kind → Prop
  | .tenantSpace version, stored => store.Upholds version stored
  | .target version, stored => store.Upholds version stored
  | .deployment version, stored => store.Upholds version stored
  | .registration version, stored => store.Upholds version stored
  | .scheduling draft, stored =>
      ∃ scheduling, draft.reviewed = .ok scheduling ∧ store.Knows scheduling stored

theorem IsKnownAs.isPresent {store : Store} {stored : Object manifest.kind}
    (isKnown : manifest.IsKnownAs store stored) : stored ∈ store.list manifest.kind := by
  cases manifest with
  | scheduling draft =>
      obtain ⟨scheduling, -, knows⟩ := isKnown
      exact knows.present
  | _ version => exact isKnown.present

/-- What an object in a manifest was accepted as. -/
theorem upholds_of_report (unspent : world.store.IsUnspent) (named : version.metadata.name ≠ "")
    (unversioned : version.metadata.resourceVersion = 0)
    (ran : (do return Report.on (← Admission.apply version) : Pass WriteRefusal Report).runOn
      world = (.ok report, after)) :
    ∃ first : Object kind, after.store.Upholds version first ∧ after.store.Lists first ∧
      ∃ effect, report = ⟨kind, first.key, effect⟩ := by
  obtain ⟨⟨effect, first⟩, applying, isReport⟩ := Pass.exists_of_answer_ok ran
  obtain ⟨knows, lists, faultless⟩ :=
    Admission.knows_of_apply unspent named unversioned applying
  have sameName : version.metadata.name = first.metadata.name :=
    congrArg ObjectKey.name knows.confirms.key_eq
  exact ⟨first, ⟨knows, sameName ▸ named, faultless⟩, lists, effect, isReport⟩

theorem isKnownAs_of_apply (unspent : world.store.IsUnspent) (named : manifest.metadata.name ≠ "")
    (unversioned : manifest.metadata.resourceVersion = 0)
    (ran : manifest.apply.runOn world = (.ok report, after)) :
    ∃ first, manifest.IsKnownAs after.store first ∧ after.store.Lists first ∧
      ∃ effect, report = ⟨manifest.kind, first.key, effect⟩ := by
  cases manifest with
  | scheduling draft =>
      obtain ⟨⟨effect, first⟩, applying, isReport⟩ := Pass.exists_of_answer_ok ran
      obtain ⟨scheduling, begun, reviewing, -⟩ := Pass.exists_of_bind_ok applying
      obtain ⟨accepted, -⟩ := Admission.eq_of_review_ok reviewing
      have sameMetadata := SchedulingDraft.metadata_of_reviewed accepted
      obtain ⟨knows, lists⟩ := Admission.knows_of_applyScheduling unspent accepted
        (sameMetadata ▸ unversioned) applying
      exact ⟨first, ⟨scheduling, accepted, knows⟩, lists, effect, isReport⟩
  | tenantSpace version | target version | deployment version | registration version =>
      exact upholds_of_report unspent named unversioned ran

theorem runOn_report {stored : Object kind} (upholds : world.store.Upholds version stored)
    (legible : stored.isLegible = true) :
    (do return Report.on (← Admission.apply version) : Pass WriteRefusal Report).runOn world =
      (.ok ⟨kind, stored.key, .updated⟩, world.touching stored) := by
  rw [Pass.runOn_bind, upholds.runOn_apply legible upholds.named upholds.faultless]
  rfl

/-- Applied again, the manifest is an update, which touches the object. -/
theorem IsKnownAs.runOn_apply {stored : Object manifest.kind}
    (isKnown : manifest.IsKnownAs world.store stored) (legible : stored.isLegible = true) :
    manifest.apply.runOn world =
      (.ok ⟨manifest.kind, stored.key, .updated⟩, world.touching stored) := by
  cases manifest with
  | scheduling draft =>
      obtain ⟨scheduling, accepted, knows⟩ := isKnown
      change (do return Report.on (← Admission.applyScheduling draft) :
        Pass WriteRefusal Report).runOn world = _
      rw [Pass.runOn_bind, knows.runOn_applyScheduling accepted legible]
      rfl
  | tenantSpace version | target version | deployment version | registration version =>
      exact runOn_report isKnown legible

/-- An object that cannot be read back is a scheduling object, and its manifest is refused. -/
theorem IsKnownAs.runOn_apply_of_illegible {stored : Object manifest.kind}
    (isKnown : manifest.IsKnownAs world.store stored) (illegible : stored.isLegible = false) :
    manifest.apply.runOn world = (.error (.store .illegible), world) := by
  cases manifest with
  | scheduling draft =>
      obtain ⟨scheduling, accepted, knows⟩ := isKnown
      have isRead : world.store.read .scheduling scheduling.key = .error .illegible := by
        rw [Store.read, knows.isFound]
        exact if_neg (ne_true_of_eq_false illegible)
      change (do return Report.on (← Admission.applyScheduling draft) :
        Pass WriteRefusal Report).runOn world = _
      unfold Admission.applyScheduling
      rw [Pass.runOn_bind, Admission.runOn_ofReview_bind, accepted]
      simp only
      rw [Pass.runOn_bind, Pass.runOn_mapError, World.runOn_reading, isRead]
      rfl
  | tenantSpace | target | deployment | registration => contradiction

/-- The manifest is applied as an update that touches the stored object and nothing else, unless
the object cannot be read back: then it is refused for that, and nothing changes. -/
structure Reapplies (manifest : Manifest) (world : World) (stored : Object kind) : Prop where
  legible : stored.isLegible = true → ∃ after,
    manifest.apply.runOn world = (.ok ⟨kind, stored.key, .updated⟩, after) ∧
      world.store.Touches after.store stored
  illegible : stored.isLegible = false →
    manifest.apply.runOn world = (.error (.store .illegible), world)

theorem IsKnownAs.reapplies {stored : Object manifest.kind}
    (isKnown : manifest.IsKnownAs world.store stored) : manifest.Reapplies world stored where
  legible isRead := ⟨_, isKnown.runOn_apply isRead, Store.touches_write world.store stored⟩
  illegible := isKnown.runOn_apply_of_illegible

end Manifest

/-! ### Exported objects -/

namespace Object

variable {stored : Object kind} {before behind : List (String × Json)}

/-- The rules of a stored scheduling object fit as those of its document. -/
theorem Fits.ofScheduling {scheduling : Scheduling} (fits : Object.Fits scheduling) :
    (SchedulingDraft.ofScheduling scheduling).Fits where
  metadata := fits.metadata
  spec := by
    intro draft draftMem
    obtain ⟨rule, ruleMem, rfl⟩ := List.mem_map.1 draftMem
    exact fits.spec rule ruleMem

/-- A stored scheduling object with its kind put in is read as the document that it spells. -/
theorem ofJson?_scheduling {scheduling : Scheduling} (fits : Object.Fits scheduling)
    (spelled : Object.toJson scheduling = .object (before ++ behind)) :
    Manifest.ofJson? (.object (before ++ ("kind", .string Kind.scheduling.title) :: behind)) =
      some (.scheduling (.ofScheduling scheduling)) := by
  have sound := Object.isSound_toJson scheduling
  have unnamed : ∀ entry ∈ before ++ behind, entry.1 ≠ "kind" := by
    have entries := Json.object.inj spelled
    rw [← entries]
    simp
  rw [spelled] at sound
  rw [Manifest.ofJson?_insert sound unnamed, ← spelled]
  simp only [Manifest.ofBody?, SchedulingDraft.ofJson?_toJson_scheduling fits.ofScheduling,
    Option.map_some]

/-- A complete object in the store is upheld by itself. -/
theorem upholds_self {store : Store} (present : stored ∈ store.list kind)
    (unspent : store.IsUnspent) (complete : stored.withDefaults = stored)
    (named : stored.metadata.name ≠ "") (faultless : stored.errors = []) :
    store.Upholds stored stored :=
  ⟨⟨present, unspent kind stored present, .refl complete⟩, named, faultless⟩

/-- The JSON of a stored object, with its kind put in at any place, is a manifest that says nothing
new. -/
theorem exists_reapplies (isUsers : kind ≠ .tenantSpace ∧ kind ≠ .tenantInstance)
    (present : stored ∈ world.store.list kind) (unspent : world.store.IsUnspent)
    (inOrder : stored.IsInOrder) (complete : stored.IsComplete) (fits : stored.Fits)
    (spelled : stored.toJson = .object (before ++ behind)) :
    ∃ manifest, Manifest.ofJson? (.object (before ++ ("kind", .string kind.title) :: behind)) =
      some manifest ∧ manifest.Reapplies world stored := by
  cases kind with
  | tenantSpace => exact absurd rfl isUsers.1
  | tenantInstance => exact absurd rfl isUsers.2
  | target =>
      have fitsManifest : (Manifest.target stored).Fits := fits
      have isKnown : (Manifest.target stored).IsKnownAs world.store stored :=
        upholds_self present unspent complete inOrder.1 inOrder.2
      exact ⟨_, Manifest.ofJson?_body_insert fitsManifest spelled, isKnown.reapplies⟩
  | deployment =>
      have fitsManifest : (Manifest.deployment stored).Fits := fits
      have isKnown : (Manifest.deployment stored).IsKnownAs world.store stored :=
        upholds_self present unspent complete inOrder.1 inOrder.2
      exact ⟨_, Manifest.ofJson?_body_insert fitsManifest spelled, isKnown.reapplies⟩
  | registration =>
      have fitsManifest : (Manifest.registration stored).Fits := fits
      have isKnown : (Manifest.registration stored).IsKnownAs world.store stored :=
        upholds_self present unspent complete inOrder.1 inOrder.2
      exact ⟨_, Manifest.ofJson?_body_insert fitsManifest spelled, isKnown.reapplies⟩
  | scheduling =>
      have admissible := SchedulingDraft.errors_eq_nil_iff.1 complete.2
      have isKnown : (Manifest.scheduling (.ofScheduling stored)).IsKnownAs world.store stored :=
        ⟨stored, SchedulingDraft.reviewed_ofScheduling admissible, present,
          unspent .scheduling stored present, .refl rfl⟩
      exact ⟨_, ofJson?_scheduling fits spelled, isKnown.reapplies⟩

end Object

end TenantFleet
