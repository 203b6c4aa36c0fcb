import TenantFleet.Proofs.Derivation.Naming
import TenantFleet.Proofs.Reports.Anchors

/-!
# Registrations and deployments that agree

Two things stay in the spec of a deployment when a user changes it: the tenant,
and whether its data plane is from elsewhere.  The pass on a registration does
not ask for that when it writes the spec that it derives.  It leaves both as they
are in a deployment that bears its label, since it has put them there and neither
can change in a registration; one that it adopts agrees with it or not.
-/

namespace TenantFleet

/-- The registration derives the tenant and the sort of data plane that the deployment has. -/
def Registration.Agrees (registration : Registration) (deployment : Deployment) : Prop :=
  deployment.spec.tenantId = registration.key.scope ∧
    deployment.spec.dataPlane.isSome = registration.spec.dataPlane.isSome

instance (registration : Registration) (deployment : Deployment) :
    Decidable (registration.Agrees deployment) :=
  inferInstanceAs (Decidable (_ ∧ _))

/-- What stays in the spec of a deployment has stayed. -/
def Deployment.SameFixed (earlier later : Deployment) : Prop :=
  later.spec.tenantId = earlier.spec.tenantId ∧
    later.spec.dataPlane.isSome = earlier.spec.dataPlane.isSome

theorem Registration.agrees_of_isFitting {registration : Registration} {deployment : Deployment}
    (fitting : IsFitting registration deployment) : registration.Agrees deployment := by
  rw [Agrees, fitting.sameSpec]
  exact ⟨rfl, rfl⟩

theorem Registration.Agrees.sameFixed {registration : Registration} {earlier later : Deployment}
    (before : registration.Agrees earlier) (after : registration.Agrees later) :
    earlier.SameFixed later :=
  ⟨after.1.trans before.1.symm, after.2.trans before.2.symm⟩

theorem Workload.sameDataPlane_of_changeErrors {next stored : Workload} {path : FieldPath}
    (permitted : next.changeErrors stored path = []) :
    next.dataPlane.isSome = stored.dataPlane.isSome := by
  have noSwitch := (List.append_eq_nil_iff.1 permitted).2
  simpa [reportIf] using noSwitch

/-- Review keeps what stays in the spec of a deployment. -/
theorem Deployment.sameFixed_of_changeErrors {next stored : Deployment}
    (permitted : Object.changeErrors next stored = []) : stored.SameFixed next := by
  obtain ⟨sameTenant, sameWorkload⟩ := List.append_eq_nil_iff.1 permitted
  exact ⟨by simpa [reportIf] using sameTenant,
    Workload.sameDataPlane_of_changeErrors sameWorkload⟩

namespace Store

/-- A deployment agrees with the registration that its label names. -/
def IsAgreed (store : Store) : Prop :=
  ∀ registration ∈ store.list .registration, ∀ deployment ∈ store.list .deployment,
    deployment.metadata.label? registrationLabel = some registration.keyText →
      Registration.Agrees registration deployment

/-- A registration that is due agrees with the deployment of its key, should it have to adopt
that. -/
def AdoptsAlike (store : Store) : Prop :=
  ∀ registration ∈ store.list .registration, ∀ deployment ∈ store.list .deployment,
    registration.isMarked = false → registration.isHeld = true →
      registration.status.observedGeneration ≠ registration.metadata.generation →
        deployment.keyText = registration.keyText → deployment.isMarked = false →
          deployment.metadata.label? registrationLabel ≠ some registration.keyText →
            Registration.Agrees registration deployment

instance (store : Store) : Decidable store.AdoptsAlike :=
  inferInstanceAs (Decidable (∀ registration ∈ _, ∀ deployment ∈ _, _))

/-- What stays in the spec of a deployment is in both stores, if the deployment is. -/
def KeepsFixed (before after : Store) : Prop :=
  ∀ key earlier later, before.find? .deployment key = some earlier →
    after.find? .deployment key = some later → Deployment.SameFixed earlier later

/-- What it takes for registrations to agree with their deployments from write to write. -/
structure IsBound (store : Store) : Prop where
  anchored : store.IsAnchored
  reviewed : store.ReviewsRegistrations
  agreed : store.IsAgreed

variable {store after : Store} {kind : Kind}

theorem isBound_empty : ({} : Store).IsBound where
  anchored := isAnchored_empty
  reviewed := reviewsRegistrations_empty
  agreed registration present := by simp at present

theorem adoptsAlike_empty : ({} : Store).AdoptsAlike := by
  intro registration present
  simp at present

theorem Continues.isAgreed (continues : store.Continues after) (agreed : store.IsAgreed) :
    after.IsAgreed := by
  intro later laterMem laterDeployment laterDeploymentMem labelled
  obtain ⟨registration, present, same⟩ := continues.registrations later laterMem
  obtain ⟨deployment, deploymentPresent, sameDeployment⟩ :=
    continues.deployments laterDeployment laterDeploymentMem
  have agrees := agreed registration present deployment deploymentPresent <| by
    rw [Object.keyText, ← same.key, ← sameDeployment.label rfl]
    exact labelled
  rw [Registration.Agrees, sameDeployment.spec, same.key, same.spec]
  exact agrees

theorem Continues.keepsFixed (continues : store.Continues after) : store.KeepsFixed after := by
  intro key earlier later before found
  obtain ⟨deployment, present, same⟩ := continues.deployments later (mem_list_of_find? found)
  have isEarlier : deployment = earlier := by
    refine eq_of_keyText_eq present (mem_list_of_find? before) ?_
    rw [Object.keyText, ← same.key]
    exact (keyText_of_find? found).trans (keyText_of_find? before).symm
  rw [← isEarlier, Deployment.SameFixed, same.spec]
  exact ⟨rfl, rfl⟩

theorem SameBeside.keepsFixed (same : SameBeside kind store after)
    (notDeployment : Kind.deployment ≠ kind) : store.KeepsFixed after := by
  intro key earlier later before found
  rw [same.find? notDeployment, before] at found
  exact Option.some.inj found ▸ ⟨rfl, rfl⟩

theorem keepsFixed_write {previous : Option Deployment} {next : Deployment}
    (isPrevious : store.find? .deployment next.key = previous)
    (same : ∀ stored, previous = some stored → Deployment.SameFixed stored next) :
    store.KeepsFixed (store.write previous next) := by
  intro key earlier later before found
  rcases find?_of_write found with ⟨sameText, rfl⟩ | still
  · have isThere : store.find? .deployment later.key = some earlier :=
      find?_eq_some_of_mem (mem_list_of_find? before)
        ((keyText_of_find? before).trans sameText.symm)
    exact same earlier (isPrevious.symm.trans isThere)
  · rw [before] at still
    exact Option.some.inj still ▸ ⟨rfl, rfl⟩

/-- A deployment that is written has to agree with the registration that its label names. -/
theorem IsAgreed.write_deployment (agreed : store.IsAgreed) {previous : Option Deployment}
    {next : Deployment}
    (ofNext : ∀ registration ∈ store.list .registration,
      next.metadata.label? registrationLabel = some registration.keyText →
        Registration.Agrees registration next) : (store.write previous next).IsAgreed := by
  intro registration present deployment deploymentPresent labelled
  rw [list_write_of_ne _ _ _ (by decide)] at present
  rcases mem_list_write.1 deploymentPresent with rfl | ⟨wasStored, -⟩
  · exact ofNext registration present labelled
  · exact agreed registration present deployment wasStored labelled

/-- A registration that is written has to agree with the deployments whose labels name it. -/
theorem IsAgreed.write_registration (agreed : store.IsAgreed) {previous : Option Registration}
    {next : Registration}
    (ofNext : ∀ deployment ∈ store.list .deployment,
      deployment.metadata.label? registrationLabel = some next.keyText →
        next.Agrees deployment) : (store.write previous next).IsAgreed := by
  intro registration present deployment deploymentPresent labelled
  rw [list_write_of_ne _ _ _ (by decide)] at deploymentPresent
  rcases mem_list_write.1 present with rfl | ⟨wasStored, -⟩
  · exact ofNext deployment deploymentPresent labelled
  · exact agreed registration wasStored deployment deploymentPresent labelled

/-- The pass on a registration writes what it derives, in a deployment that it agrees with. -/
theorem IsBound.advance (bound : store.IsBound) (alike : store.AdoptsAlike) {key : ObjectKey}
    (advance : Registration.Advance key store after) :
    after.IsAgreed ∧ store.KeepsFixed after := by
  cases advance with
  | @supplied registration previous next due isPrevious lasting fitting =>
      have present := mem_list_of_find? due.isFound
      have agrees := Registration.agrees_of_isFitting fitting
      refine ⟨bound.agreed.write_deployment fun other otherMem labelled => ?_, ?_⟩
      · have isLabel := beq_iff_eq.1 fitting.labelled
        have isOther : other = registration :=
          eq_of_keyText_eq otherMem present (Option.some.inj (labelled.symm.trans isLabel))
        exact isOther ▸ agrees
      · have isThere : store.find? .deployment next.key = previous := by
          rw [← isPrevious, find?, find?]
          exact congrArg _ fitting.sameText
        refine keepsFixed_write isThere fun stored isStored => ?_
        have sameText := keyText_of_find? (isPrevious.trans isStored)
        have storedPresent := mem_list_of_find? (isPrevious.trans isStored)
        by_cases labelled : stored.metadata.label? registrationLabel = some registration.keyText
        · exact (bound.agreed registration present stored storedPresent labelled).sameFixed agrees
        · exact (alike registration present stored storedPresent due.unmarked due.isHeld due.unseen
            sameText (lasting stored isStored) labelled).sameFixed agrees
  | @synced registration deployment due deploymentFound fitting =>
      have present := mem_list_of_find? due.isFound
      exact ⟨bound.agreed.write_registration fun other otherMem labelled =>
          bound.agreed registration present other otherMem labelled,
        (sameBeside_write _ _ _).keepsFixed (by decide)⟩

end Store

namespace Admission

variable {store after : Store}

/-- A user's deployment has no label to begin with, and what replaces a stored one keeps its label
and what stays in the spec. -/
theorem Write.agrees_deployment {object : Deployment} (written : Write object store after)
    (bound : store.IsBound) (unclaimed : Object.IsUnclaimed object) :
    after.IsAgreed ∧ store.KeepsFixed after := by
  cases written with
  | @created complete name now sameMetadata sameStatus isName isMade absent faultless =>
      have unlabelled : complete.metadata.label? registrationLabel = none :=
        sameMetadata ▸ unclaimed.unlabelled rfl
      exact ⟨bound.agreed.write_deployment fun registration present labelled =>
          absurd (unlabelled.symm.trans labelled) (by simp),
        Store.keepsFixed_write absent fun stored isStored => by contradiction⟩
  | @updated stored complete isFound sameMetadata permitted faultless =>
      have present := Store.mem_list_of_find? isFound
      have sameText : complete.keyText = stored.keyText := keyText_of_update isFound sameMetadata
      have sameFixed := Deployment.sameFixed_of_changeErrors permitted
      cases spent : Store.isSpent (store.replacement stored complete) with
      | true =>
          have continues : store.Continues (store.supplant stored _) :=
            Store.continues_supplant_of_spent spent
          exact ⟨continues.isAgreed bound.agreed, continues.keepsFixed⟩
      | false =>
          rw [Store.supplant_of_kept spent]
          refine ⟨bound.agreed.write_deployment fun registration registrationMem labelled => ?_, ?_⟩
          · have wasLabelled : stored.metadata.label? registrationLabel =
                some registration.keyText :=
              (label?_of_update unclaimed.unlabelled sameMetadata rfl).symm.trans labelled
            have agrees := bound.agreed registration registrationMem stored present wasLabelled
            exact ⟨sameFixed.1.trans agrees.1, sameFixed.2.trans agrees.2⟩
          · refine Store.keepsFixed_write (Store.find?_eq_some_of_mem present sameText.symm)
              fun other isOther => ?_
            exact Option.some.inj isOther ▸ sameFixed

/-- No deployment names a registration that is new, and one that is changed agrees as before. -/
theorem Write.agrees_registration {object : Registration} (written : Write object store after)
    (bound : store.IsBound) (named : object.metadata.name ≠ "") : after.IsAgreed := by
  cases written with
  | @created complete name now sameMetadata sameStatus isName isMade absent faultless =>
      refine bound.agreed.write_registration fun deployment present labelled => ?_
      obtain ⟨registration, isStored, sameText, -⟩ := bound.anchored.exists_origin present labelled
      exact absurd sameText (Store.keyText_ne_of_find?_eq_none absent isStored)
  | @updated stored complete isFound sameMetadata permitted faultless =>
      have present := Store.mem_list_of_find? isFound
      have sameText : complete.keyText = stored.keyText := keyText_of_update isFound sameMetadata
      have isReviewed := Registration.isReviewed_of_errors (faultless (by decide))
        (sameMetadata ▸ named)
      have sameKey : complete.key = stored.key :=
        isReviewed.eq_of_text_eq (bound.reviewed stored present) sameText
      have sameDataPlane : (RegistrationSpec.dataPlane complete.spec).isSome =
          (RegistrationSpec.dataPlane stored.spec).isSome :=
        Workload.sameDataPlane_of_changeErrors permitted
      cases spent : Store.isSpent (store.replacement stored complete) with
      | true => exact (Store.continues_supplant_of_spent spent).isAgreed bound.agreed
      | false =>
          rw [Store.supplant_of_kept spent]
          refine bound.agreed.write_registration fun deployment isStored labelled => ?_
          obtain ⟨sameTenant, samePlane⟩ := bound.agreed stored present deployment isStored
            (labelled.trans (congrArg some sameText))
          exact ⟨sameTenant.trans (congrArg ObjectKey.scope sameKey.symm),
            samePlane.trans sameDataPlane.symm⟩

end Admission

theorem Manifest.Write.agrees {manifest : Manifest} {store after : Store}
    (written : manifest.Write store after) (bound : store.IsBound)
    (unclaimed : manifest.IsUnclaimed) (named : manifest.NamesRegistrations) :
    after.IsAgreed ∧ store.KeepsFixed after := by
  cases written with
  | tenantSpace written | target written | scheduling _ written =>
      have continues := written.sameBeside.continues (by decide) (by decide)
      exact ⟨continues.isAgreed bound.agreed, continues.keepsFixed⟩
  | deployment written => exact written.agrees_deployment bound unclaimed
  | registration written =>
      exact ⟨written.agrees_registration bound named, written.sameBeside.keepsFixed (by decide)⟩

end TenantFleet
