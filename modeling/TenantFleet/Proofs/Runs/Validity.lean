import TenantFleet.Proofs.Derivation.Validity
import TenantFleet.Proofs.Runs.Reports
import TenantFleet.Proofs.Runs.Standing

/-!
# Valid states

A run of documents with names of their own, deletions, reports and passes never
leaves anything in the store that review would not let in.  Documents go through
review; a pass leaves the key and the spec of most of what it writes, and where
the pass on a registration derives a deployment without a review, that is in order
since the registration is.
-/

namespace TenantFleet

variable {store after : Store}

/-- What the passes write is in order, since it rests on something that is. -/
theorem Object.IsInOrder.standing : Standing fun _ => Object.IsInOrder where
  congr inOrder sameKey sameSpec := inOrder.congr sameKey sameSpec
  housed _ _ := trivial
  realised _ _ := trivial
  renewed _ _ _ := trivial
  derived _ inOrder := Registration.isInOrder_newDeployment inOrder
  carried _ _ inOrder existingInOrder := Registration.isInOrder_carriedInto inOrder existingInOrder

/-! ### Documents -/

/-- An object that goes through review is in order once it is stored; a scheduling object has to be
so beforehand, since it is not reviewed as it is stored. -/
theorem Admission.Write.isInOrder {kind : Kind} {object : Object kind}
    (written : Admission.Write object store after) (inOrder : store.IsInOrder)
    (named : object.metadata.name ≠ "")
    (wasInOrder : kind = .scheduling → object.withDefaults.IsInOrder) : after.IsInOrder := by
  refine Object.IsInOrder.standing.document inOrder written named ?_
  intro complete sameKey sameSpec faultless
  by_cases isScheduling : kind = .scheduling
  · have keyOfDefaults : object.withDefaults.key = object.key :=
      congrArg Metadata.key object.metadata_withDefaults
    exact (wasInOrder isScheduling).congr (sameKey.trans keyOfDefaults.symm) sameSpec
  · have sameName : complete.metadata.name = object.metadata.name :=
      congrArg ObjectKey.name sameKey
    exact Object.isInOrder_of_errors isScheduling (sameName ▸ named) (faultless isScheduling)

/-- The metadata that the manifest spells. -/
def Manifest.metadata : Manifest → Metadata
  | .tenantSpace object => object.metadata
  | .target object => object.metadata
  | .deployment object => object.metadata
  | .registration object => object.metadata
  | .scheduling draft => draft.metadata

theorem Manifest.Write.isInOrder {manifest : Manifest} (written : manifest.Write store after)
    (inOrder : store.IsInOrder) (named : manifest.metadata.name ≠ "") (fits : manifest.Fits) :
    after.IsInOrder := by
  cases written with
  | tenantSpace written | target written | deployment written | registration written =>
      exact written.isInOrder inOrder named (by simp)
  | @scheduling draft scheduling _ _ accepted written =>
      have passes := SchedulingDraft.passesReview_of_reviewed fits accepted
      obtain ⟨-, rfl⟩ := SchedulingDraft.eq_ofScheduling_of_reviewed accepted
      exact written.isInOrder inOrder named fun _ => passes

/-! ### Runs -/

/-- A document that is applied is one that JSON spells, and names its object. -/
def Action.IsExplicit : Action → Prop
  | .apply manifest =>
      (∃ json, Manifest.ofJson? json = some manifest) ∧ manifest.metadata.name ≠ ""
  | _ => True

namespace World

variable {world : World}

theorem isInOrder_of_passed (empty : world.store = {}) (unwritten : world.journal = [])
    (actions : List Action) (explicit : ∀ action ∈ actions, action.IsExplicit) {store : Store}
    (passed : (actions.foldl Action.perform world).Passed store) : store.IsInOrder :=
  meets_of_passed Object.IsInOrder.standing Action.IsExplicit
    (fun explicit written inOrder => written.isInOrder inOrder explicit.2
      (Manifest.fits_iff_exists_ofJson?.2 explicit.1))
    empty unwritten actions explicit passed

/-- In every state of a run from an empty store, review finds nothing in a stored target,
deployment or registration, and every rule of a stored scheduling object passes the review of
rules when it is read back from its JSON.  That goes for the deployments as well that are derived
from registrations and never reviewed. -/
theorem stored_objects_stay_valid (empty : world.store = {}) (unwritten : world.journal = [])
    (actions : List Action) (explicit : ∀ action ∈ actions, action.IsExplicit) {store : Store}
    (passed : (actions.foldl Action.perform world).Passed store) :
    (∀ target ∈ store.list .target, Object.errors target = []) ∧
      (∀ deployment ∈ store.list .deployment, Object.errors deployment = []) ∧
      (∀ registration ∈ store.list .registration, Object.errors registration = []) ∧
      ∀ scheduling ∈ store.list .scheduling, ∀ rule ∈ SchedulingSpec.rules scheduling.spec,
        rule.PassesReview := by
  have inOrder := isInOrder_of_passed empty unwritten actions explicit passed
  exact ⟨fun target present => (inOrder .target target present).2,
    fun deployment present => (inOrder .deployment deployment present).2,
    fun registration present => (inOrder .registration registration present).2,
    inOrder .scheduling⟩

/-- There are rules, and a registration adopts a deployment that another tenant has in its place,
while one of a second tenant derives its own. -/
def ruled : List Action :=
  [.apply (.scheduling .nested), requested { name := "web", scope := "tenant01" }] ++
    onboarding ++ [joined "tenant02", .tick {} [], .tick {} []]

theorem isExplicit_ruled : ∀ action ∈ ruled, action.IsExplicit := by
  intro action actionMem
  simp only [ruled, onboarding, List.cons_append, List.nil_append, List.mem_cons, List.not_mem_nil,
    or_false] at actionMem
  have document {manifest : Manifest} (fits : manifest.Fits)
      (named : manifest.metadata.name ≠ "") : (Action.apply manifest).IsExplicit :=
    ⟨Manifest.fits_iff_exists_ofJson?.1 fits, named⟩
  have header (name scope : String) : Metadata.Fits { name := name, scope := scope } :=
    { Metadata.fits_blank with }
  have priority : Json.FitsSigned 1 := by decide
  rcases actionMem with rfl | rfl | rfl | rfl | rfl | rfl | rfl | rfl | rfl
  · exact document SchedulingDraft.fits_nested (by decide)
  · exact document ⟨header _ _, trivial, Kind.statusFits_initialStatus⟩ (by decide)
  · exact document ⟨header _ _, priority, Kind.statusFits_initialStatus⟩ (by decide)
  · exact document ⟨header _ _, trivial, Kind.statusFits_initialStatus⟩ (by decide)
  · trivial
  · trivial
  · exact document ⟨header _ _, trivial, Kind.statusFits_initialStatus⟩ (by decide)
  · trivial
  · trivial

/-- What there is in the end is valid, the deployment that was adopted and the derived one among
it. -/
theorem stored_objects_stay_valid_once_ruled :
    let store := (ruled.foldl Action.perform uniform).store
    (∃ target ∈ store.list .target, Object.errors target = []) ∧
      (∃ adopted ∈ store.list .deployment, Object.keyText adopted = "tenant01/web" ∧
        DeploymentSpec.tenantId adopted.spec = "tenant01" ∧ Object.errors adopted = []) ∧
      (∃ derived ∈ store.list .deployment, Object.keyText derived = "tenant02/web" ∧
        Object.errors derived = []) ∧
      ∃ scheduling ∈ store.list .scheduling, ∃ rule ∈ SchedulingSpec.rules scheduling.spec,
        rule.PassesReview := by
  intro store
  have isLast : (ruled.foldl Action.perform uniform).Passed store := .inl rfl
  obtain ⟨targets, deployments, -, rules⟩ :=
    stored_objects_stay_valid rfl rfl ruled isExplicit_ruled isLast
  have present : (∃ target ∈ store.list .target, Object.keyText target = "fleet/east") ∧
      (∃ adopted ∈ store.list .deployment, Object.keyText adopted = "tenant01/web" ∧
        DeploymentSpec.tenantId adopted.spec = "tenant01") ∧
      (∃ derived ∈ store.list .deployment, Object.keyText derived = "tenant02/web") ∧
      ∃ scheduling ∈ store.list .scheduling,
        ∃ rule ∈ SchedulingSpec.rules scheduling.spec, rule.priority = 7 := by
    decide +kernel
  obtain ⟨⟨target, targetMem, -⟩, ⟨adopted, adoptedMem, isAdopted⟩,
    ⟨derived, derivedMem, isDerived⟩, ⟨scheduling, schedulingMem, rule, ruleMem, -⟩⟩ := present
  exact ⟨⟨target, targetMem, targets target targetMem⟩,
    ⟨adopted, adoptedMem, isAdopted.1, isAdopted.2, deployments adopted adoptedMem⟩,
    ⟨derived, derivedMem, isDerived, deployments derived derivedMem⟩,
    ⟨scheduling, schedulingMem, rule, ruleMem, rules scheduling schedulingMem rule ruleMem⟩⟩

end World

end TenantFleet
