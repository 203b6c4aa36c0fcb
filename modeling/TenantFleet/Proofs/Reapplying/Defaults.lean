import TenantFleet.Proofs.Runs.Validity

/-!
# Stored objects are complete

What is filled in on an object is filled in once: there is nothing more to fill in
on the result.  So a target, a deployment or a registration is stored complete,
and a deployment that is derived is complete since its registration is.  A
scheduling object has no defaults; what review asks of it is asked of its
document, and it spells that document.
-/

namespace TenantFleet

namespace Object

variable {kind : Kind}

/-- All that there is to be filled in is in the spec. -/
theorem withDefaults_eq_iff {object : Object kind} :
    object.withDefaults = object ↔ object.withDefaults.spec = object.spec := by
  constructor
  · exact congrArg Object.spec
  · intro sameSpec
    have sameMetadata := object.metadata_withDefaults
    have sameStatus := object.status_withDefaults
    cases complete : object.withDefaults with
    | mk metadata spec status =>
        rw [complete] at sameSpec sameMetadata sameStatus
        obtain ⟨⟩ := object
        simp_all

end Object

theorem Configuration.withDefaults_withDefaults (configuration : Configuration) :
    configuration.withDefaults.withDefaults = configuration.withDefaults := by
  by_cases unset : configuration.deployers.isEmpty <;> simp [withDefaults, unset, deployerPlugins]

namespace Object

variable {kind : Kind}

theorem withDefaults_withDefaults (object : Object kind) :
    object.withDefaults.withDefaults = object.withDefaults := by
  cases kind with
  | target =>
      by_cases unset : (TargetSpec.secret object.spec).scope = "" <;>
        by_cases unscoped : object.metadata.scope = "" <;>
        simp [withDefaults, unset, unscoped]
  | deployment | tenantInstance | registration =>
      simp [withDefaults, Configuration.withDefaults_withDefaults]
  | tenantSpace | scheduling => rfl

/-- There is nothing to be filled in, or review finds nothing in the document that it spells. -/
def IsComplete : {kind : Kind} → Object kind → Prop
  | .target, object | .deployment, object | .registration, object => object.withDefaults = object
  | .scheduling, object => object.metadata.name ≠ "" ∧ object.errors = []
  | .tenantSpace, _ | .tenantInstance, _ => True

/-- A version whose defaults were filled in is complete. -/
theorem isComplete_of_spec {object next : Object kind} (notScheduling : kind ≠ .scheduling)
    (sameScope : next.metadata.scope = object.metadata.scope)
    (sameSpec : next.spec = object.withDefaults.spec) : next.IsComplete := by
  have scopeOfDefaults : next.metadata.scope = object.withDefaults.metadata.scope := by
    rw [sameScope, metadata_withDefaults]
  have complete : next.withDefaults = next := by
    rw [withDefaults_eq_iff, spec_withDefaults_of_sameNamespace sameSpec scopeOfDefaults,
      withDefaults_withDefaults, sameSpec]
  cases kind with
  | scheduling => contradiction
  | target | deployment | registration => exact complete
  | tenantSpace | tenantInstance => trivial

theorem IsComplete.congr {first second : Object kind} (complete : first.IsComplete)
    (sameKey : second.key = first.key) (sameSpec : second.spec = first.spec) :
    second.IsComplete := by
  have sameScope : second.metadata.scope = first.metadata.scope := congrArg ObjectKey.scope sameKey
  cases kind with
  | target | deployment | registration =>
      exact isComplete_of_spec (by decide) sameScope
        (sameSpec.trans (withDefaults_eq_iff.1 complete).symm)
  | scheduling =>
      have sameName : second.metadata.name = first.metadata.name := congrArg ObjectKey.name sameKey
      obtain ⟨named, faultless⟩ := complete
      exact ⟨sameName ▸ named, errors_congr named sameKey sameSpec ▸ faultless⟩
  | tenantSpace | tenantInstance => trivial

end Object

/-- What is derived from a complete registration has its deployers. -/
theorem Registration.isComplete_of_derivedSpec {registration : Registration}
    {deployment : Deployment} (complete : Object.IsComplete registration)
    (derived : deployment.spec = registration.derivedSpec) : Object.IsComplete deployment := by
  have sameSpec := Object.withDefaults_eq_iff.1 complete
  have filled : (RegistrationSpec.configuration registration.spec).withDefaults =
      RegistrationSpec.configuration registration.spec :=
    congrArg RegistrationSpec.configuration sameSpec
  refine Object.withDefaults_eq_iff.2 ?_
  simp only [Object.withDefaults, derived]
  simp only [derivedSpec, RegistrationSpec.forTenant, filled]

theorem Object.IsComplete.standing : Standing fun _ => Object.IsComplete where
  congr complete sameKey sameSpec := complete.congr sameKey sameSpec
  housed _ _ := trivial
  realised _ _ := trivial
  renewed _ _ _ := trivial
  derived _ complete := Registration.isComplete_of_derivedSpec complete rfl
  carried _ _ complete _ := Registration.isComplete_of_derivedSpec complete rfl

variable {store after : Store}

theorem Admission.Write.isComplete {kind : Kind} {object : Object kind}
    (written : Admission.Write object store after)
    (meets : store.Meets fun _ => Object.IsComplete) (named : object.metadata.name ≠ "")
    (ofDocument : kind = .scheduling → object.IsComplete) :
    after.Meets fun _ => Object.IsComplete := by
  refine Object.IsComplete.standing.document meets written named ?_
  intro complete sameKey sameSpec faultless
  by_cases isScheduling : kind = .scheduling
  · have specOfObject : object.withDefaults.spec = object.spec := by
      subst isScheduling
      rfl
    exact (ofDocument isScheduling).congr sameKey (sameSpec.trans specOfObject)
  · exact Object.isComplete_of_spec isScheduling (congrArg ObjectKey.scope sameKey) sameSpec

theorem SchedulingDraft.isComplete_of_reviewed {draft : SchedulingDraft} {scheduling : Scheduling}
    (accepted : draft.reviewed = .ok scheduling) : Object.IsComplete scheduling := by
  obtain ⟨admissible, rfl⟩ := eq_ofScheduling_of_reviewed accepted
  exact ⟨admissible.1, errors_eq_nil_iff.2 admissible⟩

theorem Manifest.Write.isComplete {manifest : Manifest} (written : manifest.Write store after)
    (meets : store.Meets fun _ => Object.IsComplete) (named : manifest.metadata.name ≠ "") :
    after.Meets fun _ => Object.IsComplete := by
  cases written with
  | tenantSpace written | target written | deployment written | registration written =>
      exact written.isComplete meets named (by simp)
  | scheduling accepted written =>
      have isComplete := SchedulingDraft.isComplete_of_reviewed accepted
      exact written.isComplete meets isComplete.1 fun _ => isComplete

end TenantFleet
