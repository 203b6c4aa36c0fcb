import TenantFleet.Proofs.Derivation.Tenancy
import TenantFleet.Proofs.Runs.Reports

/-!
# What admitted registrations derive

Review lets a registration through whatever the characters of its namespace are.
What is derived from it is well formed just as far as they allow: the namespace
of the cluster passes review if they make a DNS label, and the label on the
deployment leads back to the registration if there is no slash among them.
-/

namespace TenantFleet

namespace Registration

/-- What is in the store of the registration under `key` that has been carried out: its namespace
passes review if its name is a DNS label, and its deployment bears a label that is read back as
`key` if there is no slash in the namespace. -/
structure IsDerivedAs (store : Store) (key : ObjectKey) (space : TenantSpace)
    (deployment : Deployment) : Prop where
  spaceFound : store.find? .tenantSpace ⟨"", key.scope⟩ = some space
  spaceOwn : space.key = ⟨"", key.scope⟩
  spaceValid : Object.errors space = [] ↔ isDnsLabel key.scope = true
  deploymentFound : store.find? .deployment key = some deployment
  labelled : deployment.metadata.label? registrationLabel = some key.text
  spelled : ObjectKey.ofText? key.text = some key ↔ '/' ∉ key.scope.toList

/-- An accepted document is that of a reviewed key with a scope of the length of an id. -/
theorem isReviewed_of_accepted {document complete : Registration}
    (accepted : document.reviewed = .ok complete) (named : document.metadata.name ≠ "") :
    document.key.IsReviewed ∧ document.IsScoped := by
  obtain ⟨rfl, faultless⟩ := Object.eq_of_acceptedWith accepted
  have sameMetadata : document.withDefaults.metadata = document.metadata :=
    document.metadata_withDefaults
  have reviewed := isReviewed_of_errors faultless (sameMetadata ▸ named)
  rw [Object.key, sameMetadata] at reviewed
  exact ⟨reviewed, (Object.isScoped_of_errors faultless).congr
    (congrArg Metadata.scope sameMetadata.symm)⟩

/-- What the pass has seen to once it says that a registration is synced. -/
theorem exists_isDerivedAs {world after : World} {key : ObjectKey} (reviewed : key.IsReviewed)
    (hasLength : key.scope.length = idLength)
    (meets : world.store.Meets fun _ => Object.IsScoped)
    (ran : (reconcile key).runOn world = (.ok .synced, after)) :
    ∃ space deployment, IsDerivedAs after.store key space deployment := by
  obtain ⟨registration, due, carriedOut⟩ := exists_carryOut_of_synced ran
  have isScoped : Object.IsScoped registration :=
    meets .registration registration (Store.mem_list_of_find? due.isFound)
  obtain rfl : registration.key = key :=
    ObjectKey.eq_of_text_eq_of_length (Store.keyText_of_find? due.isFound)
      (Eq.trans isScoped hasLength.symm)
  obtain ⟨housed, derived, space, deployment, houses, derives, isLast, -⟩ :=
    exists_steps_of_carryOut due carriedOut
  have spaceOwn := houses.key_eq meets
  have sameName : space.metadata.name = registration.key.scope := congrArg ObjectKey.name spaceOwn
  have sameScope : space.metadata.scope = "" := congrArg ObjectKey.scope spaceOwn
  rw [isLast]
  refine ⟨space, deployment, derives.find?_space_synced houses, spaceOwn, ?_,
    derives.find?_deployment_synced, beq_iff_eq.1 derives.fitting.labelled,
    reviewed.ofText?_text_eq_some_iff⟩
  rw [TenantSpace.errors_eq_nil_iff sameScope (sameName ▸ reviewed.hasScope), sameName]

end Registration

namespace World

variable {world after : World}

/-- Whatever a run has done, once a pass says of an accepted registration that it is synced, the
namespace of the tenant passes review just if it is a DNS label, and the label on the deployment
is read back as the key of the registration just if there is no slash in the namespace.  As long
as the deployment bears that label, a report of its status fails for the label just if there is
a slash, and something to report. -/
theorem derived_objects_are_well_formed (empty : world.store = {})
    (unwritten : world.journal = []) (actions : List Action) {document complete : Registration}
    (accepted : document.reviewed = .ok complete) (named : document.metadata.name ≠ "")
    (ran : (Registration.reconcile document.key).runOn (actions.foldl Action.perform world) =
      (.ok .synced, after)) :
    (∃ space deployment,
      Registration.IsDerivedAs after.store document.key space deployment) ∧
    ∀ later : World, ∀ deployment : Deployment,
      later.store.find? .deployment document.key = some deployment →
      deployment.metadata.label? registrationLabel = some document.key.text →
        ((∃ failure owner label,
          (Deployment.reportStatus document.key).failure? later = some failure ∧
            failure.cause = .malformedLabel owner label) ↔
        '/' ∈ document.key.scope.toList ∧
          (deployment.status.instanceKey.bind
            (later.store.find? .tenantInstance)).isSome = true) := by
  obtain ⟨reviewed, isScoped⟩ := Registration.isReviewed_of_accepted accepted named
  have meets : (actions.foldl Action.perform world).store.Meets fun _ => Object.IsScoped :=
    meets_of_passed Object.IsScoped.standing (fun _ => True)
      (fun _ written meets => written.isScoped meets) empty unwritten actions
      (fun _ _ => trivial) (.inl rfl)
  refine ⟨Registration.exists_isDerivedAs reviewed isScoped meets ran, ?_⟩
  intro later deployment isFound labelled
  rw [Deployment.reportStatus_fails_iff isFound labelled, reviewed.ofText?_text]
  simp

/-- A registration that asks for no more than it has to. -/
def plainRegistration (scope : String) : Registration where
  metadata := { name := "web", scope := scope }
  spec := { purpose := "demo" }
  status := {}

/-- There is a target, and a registration, which has its finalizer. -/
def registering (scope : String) : World :=
  let actions := hosting ++
    [.apply (.registration (plainRegistration scope)), .reconcileRegistration ⟨scope, "web"⟩]
  actions.foldl Action.perform uniform

/-- Where the namespace is a DNS label, all is well. -/
theorem derived_objects_are_well_formed_once_registered :
    let key : ObjectKey := ⟨"tenant01", "web"⟩
    ∃ after space deployment,
      (Registration.reconcile key).runOn (registering "tenant01") = (.ok .synced, after) ∧
        Registration.IsDerivedAs after.store key space deployment ∧ Object.errors space = [] ∧
        ObjectKey.ofText? key.text = some key := by
  intro key
  have said : (Registration.reconcile key).outcome? (registering "tenant01") = some .synced := by
    decide +kernel
  obtain ⟨after, ran⟩ := Pass.exists_of_outcome? said
  have faultless : Object.errors (plainRegistration "tenant01").withDefaults = [] := by
    decide +kernel
  have accepted := Object.reviewed_of_errors faultless
  obtain ⟨⟨space, deployment, isDerived⟩, -⟩ :=
    derived_objects_are_well_formed rfl rfl _ accepted (by decide) ran
  exact ⟨after, space, deployment, ran, isDerived, isDerived.spaceValid.2 (by decide),
    isDerived.spelled.2 (by decide)⟩

/-- Review accepts the registration in the namespace, the pass says that it is synced, and yet the
namespace that it has made does not pass review. -/
def Misnames (scope : String) : Prop :=
  let key : ObjectKey := ⟨scope, "web"⟩
  let pass := Registration.reconcile key
  Object.errors (plainRegistration scope).withDefaults = [] ∧
    pass.outcome? (registering scope) = some .synced ∧
      ∃ space ∈ (pass.runOn (registering scope)).2.store.list .tenantSpace,
        Object.key space = ⟨"", scope⟩ ∧ Object.errors space ≠ []

instance (scope : String) : Decidable (Misnames scope) :=
  inferInstanceAs (Decidable (_ ∧ _ ∧ ∃ space ∈ _, _))

/-- It takes no more than an upper-case letter; and with a slash in the namespace, the label on the
deployment is read back as no key, and each report of its status fails for that. -/
theorem derived_objects_are_malformed :
    let key : ObjectKey := ⟨"ab/cdefg", "web"⟩
    let served := [Action.tick {} [], .tick {} [], .tick {} []].foldl Action.perform
      (registering key.scope)
    Misnames "Tenant01" ∧ Misnames key.scope ∧
      (served.store.find? .deployment key).bind (·.metadata.label? registrationLabel) =
        some key.text ∧
      ObjectKey.ofText? key.text = none ∧
      (Deployment.reportStatus key).failure? served =
        some ⟨.syncStatus, .parseLabel, .malformedLabel key key.text⟩ := by
  decide +kernel

end World

end TenantFleet
