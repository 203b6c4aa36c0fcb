import TenantFleet.Proofs.Derivation.Continuation

/-!
# Seen generations are borne out

The pass on a registration goes by the generation that the status has: when that
is the present one, there is nothing to do.  For this to be sound the status must
tell the truth.  As long as users leave deployments to the control plane, it
does: no generation is seen before it is there, and a deployment under the key
of a registration that is up to date is derived from its present spec and bears
its label.
-/

namespace TenantFleet

/-- The registration has seen no generation that is yet to come, and if it has seen the present one,
a deployment under its key is what the registration makes of its spec. -/
structure Registration.IsTruthful (store : Store) (registration : Registration) : Prop where
  notAhead : registration.status.observedGeneration ≤ registration.metadata.generation
  borneOut : registration.status.observedGeneration = registration.metadata.generation →
    ∀ deployment : Deployment, store.find? .deployment registration.key = some deployment →
      deployment.spec = registration.derivedSpec ∧
        deployment.metadata.label? registrationLabel = some registration.key.text

namespace Store

/-- Registrations have plain keys and tell the truth. -/
def IsTruthful (store : Store) : Prop :=
  ∀ registration ∈ store.list .registration,
    registration.key.IsPlain ∧ Registration.IsTruthful store registration

variable {store after : Store}

theorem isTruthful_empty : ({} : Store).IsTruthful := by
  intro registration present
  simp at present

theorem IsTruthful.continues (truthful : store.IsTruthful) (continues : store.Continues after) :
    after.IsTruthful := by
  intro later laterMem
  obtain ⟨registration, present, same⟩ := continues.registrations later laterMem
  obtain ⟨plain, notAhead, borneOut⟩ := truthful registration present
  have sameObserved : later.status.observedGeneration = registration.status.observedGeneration :=
    same.observed
  have sameDerived : Registration.derivedSpec later = Registration.derivedSpec registration := by
    unfold Registration.derivedSpec
    rw [same.key, same.spec]
  refine ⟨same.key ▸ plain, ?_, fun upToDate deployment found => ?_⟩
  · rw [sameObserved, same.generation]
    exact notAhead
  · rw [sameObserved, same.generation] at upToDate
    obtain ⟨earlier, wasPresent, sameDeployment⟩ :=
      continues.deployments deployment (mem_list_of_find? found)
    have sameText : earlier.keyText = registration.key.text := by
      rw [Object.keyText, ← sameDeployment.key, ← same.key]
      exact keyText_of_find? found
    obtain ⟨isDerived, isLabelled⟩ :=
      borneOut upToDate earlier (find?_eq_some_of_mem wasPresent sameText)
    rw [sameDerived, same.key]
    exact ⟨sameDeployment.spec.trans isDerived, (sameDeployment.label rfl).trans isLabelled⟩

/-- A registration may be written over another, or where there was none, if it has a plain key and
tells the truth of the deployments that are there. -/
theorem IsTruthful.write_registration (truthful : store.IsTruthful)
    {previous : Option Registration} {next : Registration} (plain : next.key.IsPlain)
    (ofNext : Registration.IsTruthful store next) : (store.write previous next).IsTruthful := by
  intro later laterMem
  have sameFind : (store.write previous next).find? .deployment later.key =
      store.find? .deployment later.key := find?_write_of_ne _ _ _ (by decide) _
  rcases mem_list_write.1 laterMem with rfl | ⟨wasStored, -⟩
  · exact ⟨plain, ofNext.notAhead, sameFind ▸ ofNext.borneOut⟩
  · obtain ⟨plainKey, notAhead, borneOut⟩ := truthful later wasStored
    exact ⟨plainKey, notAhead, sameFind ▸ borneOut⟩

/-- The registration whose deployment is supplied is due, so it claims nothing yet. -/
theorem IsTruthful.advance (truthful : store.IsTruthful) {key : ObjectKey}
    (advance : Registration.Advance key store after) : after.IsTruthful := by
  cases advance with
  | @supplied registration previous next due isPrevious lasting fitting =>
      intro other otherMem
      rw [list_write_of_ne _ _ _ (by decide)] at otherMem
      obtain ⟨plain, notAhead, borneOut⟩ := truthful other otherMem
      refine ⟨plain, notAhead, fun upToDate deployment found => ?_⟩
      rcases find?_of_write found with ⟨sameText, -⟩ | still
      · have isOther : other = registration :=
          eq_of_keyText_eq otherMem (mem_list_of_find? due.isFound)
            (sameText.symm.trans fitting.sameText)
        exact absurd (isOther ▸ upToDate) due.unseen
      · exact borneOut upToDate deployment still
  | @synced registration deployment due deploymentFound fitting =>
      refine truthful.write_registration (truthful _ (mem_list_of_find? due.isFound)).1 ?_
      refine ⟨Int.le_refl _, fun _ other found => ?_⟩
      have sameDeployment : deployment = other :=
        Option.some.inj (deploymentFound.symm.trans found)
      rw [← sameDeployment]
      exact ⟨fitting.sameSpec, beq_iff_eq.1 fitting.labelled⟩

end Store

/-- A document is no deployment; a registration has a plain key of its own and no status. -/
def Manifest.LeavesDeployments : Manifest → Prop
  | .deployment _ => False
  | .registration object =>
      object.metadata.name ≠ "" ∧ object.metadata.key.IsPlain ∧
        object.status = Kind.initialStatus .registration
  | .tenantSpace _ | .target _ | .scheduling _ => True

/-- Deployments are left to the control plane. -/
def Action.LeavesDeployments : Action → Prop
  | .apply manifest => manifest.LeavesDeployments
  | _ => True

namespace Admission

variable {store after : Store} {object : Registration}

/-- A new registration has seen nothing, and one with another spec not that one. -/
theorem Write.isTruthful (written : Write object store after) (truthful : store.IsTruthful)
    (named : object.metadata.name ≠ "") (plain : object.metadata.key.IsPlain)
    (blank : object.status = Kind.initialStatus .registration) : after.IsTruthful := by
  cases written with
  | @created complete name now sameMetadata sameStatus isName isMade absent faultless =>
      obtain rfl := isName named
      have sameScope : complete.metadata.scope = object.metadata.scope :=
        congrArg Metadata.scope sameMetadata
      have unseen : complete.status.observedGeneration = 0 := by
        rw [sameStatus, blank]
        rfl
      refine truthful.write_registration ?_ ⟨?_, fun upToDate => ?_⟩
      · have isKey : (store.initialObject complete object.metadata.name now).key =
            object.metadata.key := congrArg (ObjectKey.mk · object.metadata.name) sameScope
        exact isKey ▸ plain
      · change complete.status.observedGeneration ≤ 1
        omega
      · change complete.status.observedGeneration = 1 at upToDate
        omega
  | @updated stored complete isFound sameMetadata permitted faultless =>
      have present := Store.mem_list_of_find? isFound
      obtain ⟨storedPlain, notAhead, borneOut⟩ := truthful stored present
      have isKey : complete.key = object.key := (congrArg Metadata.key sameMetadata).trans rfl
      have sameKey : complete.key = stored.key :=
        isKey.trans
          (ObjectKey.eq_of_text_eq storedPlain plain (Store.keyText_of_find? isFound)).symm
      by_cases sameSpec : complete.spec = stored.spec
      · have carriesOn : stored.Continues (store.replacement stored complete) :=
          Object.continues_replacement store sameKey sameSpec fun isDeployment => by contradiction
        exact truthful.continues (Store.continues_supplant present carriesOn)
      · cases spent : Store.isSpent (store.replacement stored complete) with
        | true => exact truthful.continues (Store.continues_supplant_of_spent spent)
        | false =>
            rw [Store.supplant_of_kept spent]
            have further : (store.replacement stored complete).metadata.generation =
                stored.metadata.generation + 1 := if_neg fun same => sameSpec same.symm
            have sameSeen : (store.replacement stored complete).status.observedGeneration =
                stored.status.observedGeneration := rfl
            refine truthful.write_registration (isKey ▸ plain) ⟨?_, fun upToDate => ?_⟩
            · rw [further, sameSeen]
              omega
            · rw [further, sameSeen] at upToDate
              omega

end Admission

theorem Manifest.Write.isTruthful {manifest : Manifest} {store after : Store}
    (written : manifest.Write store after) (truthful : store.IsTruthful)
    (leaves : manifest.LeavesDeployments) : after.IsTruthful := by
  cases written with
  | tenantSpace written | target written | scheduling _ written =>
      exact truthful.continues (written.sameBeside.continues (by decide) (by decide))
  | deployment written => exact leaves.elim
  | registration written => exact written.isTruthful truthful leaves.1 leaves.2.1 leaves.2.2

theorem Action.Write.isTruthful {action : Action} {store after : Store}
    (written : action.Write store after) (truthful : store.IsTruthful)
    (leaves : action.LeavesDeployments) : after.IsTruthful := by
  rcases written.applied_or_continues_or_advance with
    ⟨manifest, rfl, applied⟩ | continues | ⟨key, advance⟩
  · exact applied.isTruthful truthful leaves
  · exact truthful.continues continues
  · exact truthful.advance advance

namespace World

/-- In every run from an empty store in which users leave deployments to the control plane, each
registration tells the truth in every store of the run, also in those that a pass left while it was
at work. -/
theorem observed_generations_are_true {world : World} (empty : world.store = {})
    (unwritten : world.journal = []) (actions : List Action)
    (leaves : ∀ action ∈ actions, action.LeavesDeployments) {store : Store}
    (passed : (actions.foldl Action.perform world).Passed store) :
    ∀ registration ∈ store.list .registration, Registration.IsTruthful store registration := by
  have atStart : world.store.IsTruthful ∧ ∀ store ∈ world.journal, store.IsTruthful :=
    ⟨empty ▸ Store.isTruthful_empty, by simp [unwritten]⟩
  have truthful := invariant_of_performAll Store.IsTruthful
    (fun leaves written truthful => written.isTruthful truthful leaves) actions leaves atStart
  intro registration present
  rcases passed with rfl | noted
  · exact (truthful.1 registration present).2
  · exact (truthful.2 store noted registration present).2

/-- Two ticks after a registration was applied, it has seen its generation, and its deployment is
there. -/
theorem observed_generations_are_true_once_onboarded :
    (∃ registration ∈ onboarded.store.list .registration,
      registration.status.observedGeneration = registration.metadata.generation ∧
        (onboarded.store.find? .deployment registration.key).isSome = true) ∧
    ∀ registration ∈ onboarded.store.list .registration,
      Registration.IsTruthful onboarded.store registration := by
  have leaves : ∀ action ∈ onboarding, action.LeavesDeployments := by
    intro action actionMem
    simp only [onboarding, List.mem_cons, List.not_mem_nil, or_false] at actionMem
    rcases actionMem with rfl | rfl | rfl | rfl
    · trivial
    · exact ⟨by decide, by decide, rfl⟩
    · trivial
    · trivial
  have passed : (onboarding.foldl Action.perform (.around {} 0 0)).Passed onboarded.store :=
    .inl rfl
  exact ⟨by decide +kernel, observed_generations_are_true rfl rfl onboarding leaves passed⟩

end World

end TenantFleet
