import TenantFleet.Onboarding.Registration
import TenantFleet.Proofs.Codec.RoundTrip
import TenantFleet.Proofs.Passes.Admission
import TenantFleet.Proofs.Selector.Review

/-!
# Objects in order

A target, a deployment or a registration is in order if it has a name and review
finds nothing in it; a scheduling object is in order if each of its rules, read
back from its JSON, passes the review of rules.  All of this rests on the key and
the spec of an object, so whatever leaves these two leaves the object in order.
What a registration derives is in order as well: the review of deployments asks
no more than that of registrations, except for the tenant, and that is the
namespace, which a registration has at the length of an id.
-/

namespace TenantFleet

/-! ### Rules that are read back -/

/-- Read back from its JSON, the rule passes the review, wherever it stands. -/
def SchedulingRule.PassesReview (rule : SchedulingRule) : Prop :=
  ∀ dialect, ∃ draft, RuleDraft.ofJson? dialect rule.toJson = some draft ∧
    ∀ path, draft.errors path = []

theorem SchedulingRule.passesReview_of_fits {rule : SchedulingRule}
    (fits : (RuleDraft.ofRule rule).Fits) (admissible : (RuleDraft.ofRule rule).IsAdmissible) :
    rule.PassesReview := by
  intro dialect
  refine ⟨.ofRule rule, ?_, fun path => (RuleDraft.errors_eq_nil_iff path _).2 admissible⟩
  rw [← RuleDraft.toJson_ofRule]
  exact RuleDraft.ofJson?_toJson fits

namespace SchedulingDraft

variable {draft : SchedulingDraft} {scheduling : Scheduling}

/-- What review accepts spells the document that it was given. -/
theorem eq_ofScheduling_of_reviewed (accepted : draft.reviewed = .ok scheduling) :
    draft.IsAdmissible ∧ draft = ofScheduling scheduling := by
  unfold reviewed at accepted
  split at accepted
  next other isOther => exact toScheduling_eq_ok_iff.1 (Except.ok.inj accepted ▸ isOther)
  next => contradiction

/-- The document of a scheduling object, if it is in order, is accepted as that object. -/
theorem reviewed_ofScheduling (admissible : (ofScheduling scheduling).IsAdmissible) :
    (ofScheduling scheduling).reviewed = .ok scheduling := by
  simp only [reviewed, toScheduling_eq_ok_iff.2 ⟨admissible, rfl⟩]

/-- The rules that a document spells pass the review once more when they are read back. -/
theorem passesReview_of_reviewed (fits : draft.Fits) (accepted : draft.reviewed = .ok scheduling) :
    ∀ rule ∈ SchedulingSpec.rules scheduling.spec, rule.PassesReview := by
  obtain ⟨admissible, rfl⟩ := eq_ofScheduling_of_reviewed accepted
  intro rule ruleMem
  have isSpelled : RuleDraft.ofRule rule ∈ (ofScheduling scheduling).spec.rules :=
    List.mem_map_of_mem ruleMem
  exact SchedulingRule.passesReview_of_fits (fits.spec _ isSpelled) (admissible.2 _ isSpelled)

end SchedulingDraft

/-! ### Objects -/

/-- Review looks at nothing but the key of an object with a name of its own. -/
theorem Metadata.errors_congr {first second : Metadata} (named : first.name ≠ "")
    (sameKey : second.key = first.key) (namespaced : Bool) (path : FieldPath) :
    second.errors namespaced path = first.errors namespaced path := by
  have sameName : second.name = first.name := congrArg ObjectKey.name sameKey
  have sameScope : second.scope = first.scope := congrArg ObjectKey.scope sameKey
  simp [errors, nameErrors, scopeErrors, sameName, sameScope, named]

namespace Object

variable {kind : Kind}

/-- Review finds the same in objects with one spec under one key with a name of its own. -/
theorem errors_congr {first second : Object kind} (named : first.metadata.name ≠ "")
    (sameKey : second.key = first.key) (sameSpec : second.spec = first.spec) :
    second.errors = first.errors := by
  have sameName : second.metadata.name = first.metadata.name := congrArg ObjectKey.name sameKey
  have sameScope : second.metadata.scope = first.metadata.scope :=
    congrArg ObjectKey.scope sameKey
  have inMetadata : ∀ namespaced path,
      second.metadata.errors namespaced path = first.metadata.errors namespaced path :=
    Metadata.errors_congr named sameKey
  cases kind with
  | tenantSpace | target | deployment | tenantInstance | registration =>
      simp [errors, Registration.tenantErrors, inMetadata, sameScope, sameSpec]
  | scheduling =>
      simp [errors, SchedulingDraft.errors, SchedulingDraft.ofScheduling, sameName, named, sameSpec]

/-- The object has what review asks of it, or its rules do. -/
def IsInOrder : {kind : Kind} → Object kind → Prop
  | .target, object => object.metadata.name ≠ "" ∧ object.errors = []
  | .deployment, object => object.metadata.name ≠ "" ∧ object.errors = []
  | .registration, object => object.metadata.name ≠ "" ∧ object.errors = []
  | .scheduling, object => ∀ rule ∈ SchedulingSpec.rules object.spec, rule.PassesReview
  | .tenantSpace, _ => True
  | .tenantInstance, _ => True

theorem isInOrder_of_errors {object : Object kind} (notScheduling : kind ≠ .scheduling)
    (named : object.metadata.name ≠ "") (faultless : object.errors = []) : object.IsInOrder := by
  cases kind with
  | target | deployment | registration => exact ⟨named, faultless⟩
  | tenantSpace | tenantInstance => trivial
  | scheduling => contradiction

/-- Whether an object is in order is a matter of its key and its spec. -/
theorem IsInOrder.congr {first second : Object kind} (inOrder : first.IsInOrder)
    (sameKey : second.key = first.key) (sameSpec : second.spec = first.spec) :
    second.IsInOrder := by
  have sameName : second.metadata.name = first.metadata.name := congrArg ObjectKey.name sameKey
  cases kind with
  | target | deployment | registration =>
      obtain ⟨named, faultless⟩ := inOrder
      exact ⟨sameName ▸ named, errors_congr named sameKey sameSpec ▸ faultless⟩
  | scheduling =>
      intro rule ruleMem
      rw [sameSpec] at ruleMem
      exact inOrder rule ruleMem
  | tenantSpace | tenantInstance => trivial

end Object

/-! ### What a registration derives -/

namespace Registration

variable {registration : Registration} {existing : Deployment}

/-- The review of a derived spec is that of the registration's, and of the tenant. -/
theorem specErrors_derivedSpec (registration : Registration) (path : FieldPath) :
    Deployment.specErrors registration.derivedSpec path =
      idErrors registration.key.scope (path.field "tenantId") ++
        specErrors registration.spec path := by
  simp [Deployment.specErrors, specErrors, derivedSpec, RegistrationSpec.forTenant,
    DeploymentSpec.workload, RegistrationSpec.workload]

/-- Review asks for a namespace of the length of an id. -/
theorem length_scope_of_errors {metadata : Metadata} {path : FieldPath}
    (inScope : metadata.scopeErrors true path = []) (inTenant : tenantErrors metadata = []) :
    metadata.scope.length = idLength := by
  have hasScope : metadata.scope ≠ "" := by
    simpa [Metadata.scopeErrors, reportIf] using inScope
  simpa [tenantErrors, hasScope, idErrors, reportIf] using inTenant

theorem specErrors_derivedSpec_of_length (hasLength : registration.metadata.scope.length = idLength)
    (inSpec : specErrors registration.spec .spec = []) :
    Deployment.specErrors registration.derivedSpec .spec = [] := by
  rw [specErrors_derivedSpec, inSpec, List.append_nil]
  simp [idErrors, Object.key, Metadata.key, hasLength]

/-- A spec that a registration in order derives has no errors. -/
theorem specErrors_derivedSpec_eq_nil (inOrder : registration.IsInOrder) :
    Deployment.specErrors registration.derivedSpec .spec = [] := by
  obtain ⟨-, faultless⟩ := inOrder
  simp only [Object.errors, List.append_eq_nil_iff] at faultless
  obtain ⟨⟨inMetadata, inTenant⟩, inSpec⟩ := faultless
  obtain ⟨-, inScope⟩ := List.append_eq_nil_iff.1 inMetadata
  exact specErrors_derivedSpec_of_length (length_scope_of_errors inScope inTenant) inSpec

/-- A deployment with the derived spec is in order if its metadata is that of something in order. -/
theorem isInOrder_of_derivedSpec {deployment : Deployment} {metadata : Metadata}
    (inOrder : registration.IsInOrder) (derived : deployment.spec = registration.derivedSpec)
    (named : metadata.name ≠ "") (noErrors : metadata.errors true .metadata = [])
    (sameKey : deployment.metadata.key = metadata.key) : deployment.IsInOrder := by
  have sameName : deployment.metadata.name = metadata.name := congrArg ObjectKey.name sameKey
  have inMetadata : deployment.metadata.errors true .metadata = [] :=
    (Metadata.errors_congr named sameKey true .metadata).trans noErrors
  have inSpec : Deployment.specErrors deployment.spec .spec = [] :=
    derived ▸ specErrors_derivedSpec_eq_nil inOrder
  exact ⟨sameName ▸ named, List.append_eq_nil_iff.2 ⟨inMetadata, inSpec⟩⟩

theorem isInOrder_newDeployment (inOrder : registration.IsInOrder) :
    Object.IsInOrder registration.newDeployment := by
  obtain ⟨inMetadata, -⟩ :=
    List.append_eq_nil_iff.1 (List.append_eq_nil_iff.1 inOrder.2).1
  exact isInOrder_of_derivedSpec inOrder rfl inOrder.1 inMetadata rfl

/-- A deployment in order stays so when the derived spec takes the place of its own. -/
theorem isInOrder_carriedInto (inOrder : registration.IsInOrder)
    (existingInOrder : existing.IsInOrder) :
    Object.IsInOrder (registration.carriedInto existing) := by
  obtain ⟨inMetadata, -⟩ := List.append_eq_nil_iff.1 existingInOrder.2
  exact isInOrder_of_derivedSpec inOrder rfl existingInOrder.1 inMetadata rfl

end Registration

/-- Every stored object is in order. -/
def Store.IsInOrder (store : Store) : Prop :=
  ∀ kind, ∀ object ∈ store.list kind, object.IsInOrder

end TenantFleet
