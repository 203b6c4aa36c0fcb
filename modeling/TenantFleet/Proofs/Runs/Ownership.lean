import TenantFleet.Proofs.Runs.Reachable

/-!
# Who owns what

In every state of a run a deployment has one instance at most, the one that both
ways of looking for it lead to, and whatever names an owner names a stored one
that is held back by the finalizer.
-/

namespace TenantFleet

namespace Store.IsCoherent

variable {store : Store}

theorem labelled_eq_singleton (coherent : store.IsCoherent) {realised : TenantInstance}
    {text : String} (present : realised ∈ store.list .tenantInstance)
    (labelled : realised.metadata.label? deploymentLabel = some text) :
    store.labelled .tenantInstance deploymentLabel text = [realised] := by
  have listed := coherent.indexed.mem_labelled_of_hasLabel present (beq_iff_eq.2 labelled)
  have alone : ∀ other ∈ store.labelled .tenantInstance deploymentLabel text, other = realised :=
    fun other otherMem => coherent.single other (mem_labelled.1 otherMem).1 realised present text
      (coherent.label_eq_of_mem_labelled otherMem) labelled
  have distinct := nodup_labelled store .tenantInstance deploymentLabel text
  rcases all : store.labelled .tenantInstance deploymentLabel text
    with _ | ⟨first, _ | ⟨second, rest⟩⟩
  · rw [all] at listed
    exact absurd listed List.not_mem_nil
  · rw [alone first (by simp [all])]
  · rw [all, alone first (by simp [all]), alone second (by simp [all])] at distinct
    simp at distinct

/-- A status that names a stored instance names the one with the label. -/
theorem label_eq_of_named (coherent : store.IsCoherent) {deployment : Deployment}
    {realised : TenantInstance} (isStored : deployment ∈ store.list .deployment)
    (named : deployment.status.instanceKey.bind (store.find? .tenantInstance) = some realised) :
    realised ∈ store.list .tenantInstance ∧
      realised.metadata.label? deploymentLabel = some deployment.key.text := by
  obtain ⟨key, isKey, found⟩ := Option.bind_eq_some_iff.1 named
  have present := mem_list_of_find? found
  exact ⟨present, coherent.label_eq_of_realises isStored
    ⟨present, .inl ⟨key, isKey, (keyText_of_find? found).symm⟩⟩⟩

/-- The label alone leads to the instance of a deployment. -/
theorem instanceOf?_eq_head?_labelled (coherent : store.IsCoherent) {deployment : Deployment}
    (isStored : deployment ∈ store.list .deployment) :
    store.instanceOf? deployment =
      (store.labelled .tenantInstance deploymentLabel deployment.key.text).head? := by
  unfold instanceOf?
  cases named : deployment.status.instanceKey.bind (store.find? .tenantInstance) with
  | none => rfl
  | some realised =>
      obtain ⟨present, labelled⟩ := coherent.label_eq_of_named isStored named
      rw [coherent.labelled_eq_singleton present labelled]
      rfl

end Store.IsCoherent

namespace World

variable {world : World} {store : Store}

/-- In every state of a run, two instances with the label of one deployment are the same, and the
instance that the status of a deployment names is the one that the index has under its label. -/
theorem at_most_one_instance_per_deployment (reached : world.Reachable)
    (passed : world.Passed store) :
    (∀ owner : ObjectKey, ∀ first ∈ store.list .tenantInstance,
      ∀ second ∈ store.list .tenantInstance,
        first.metadata.hasLabel deploymentLabel owner.text = true →
          second.metadata.hasLabel deploymentLabel owner.text = true → first = second) ∧
    ∀ deployment ∈ store.list .deployment,
      (∀ realised,
        deployment.status.instanceKey.bind (store.find? .tenantInstance) = some realised →
          realised.metadata.hasLabel deploymentLabel deployment.key.text = true ∧
            store.labelled .tenantInstance deploymentLabel deployment.key.text = [realised]) ∧
      store.instanceOf? deployment =
        (store.labelled .tenantInstance deploymentLabel deployment.key.text).head? := by
  have coherent := reached.isCoherent_of_passed passed
  refine ⟨fun owner first firstPresent second secondPresent ofFirst ofSecond => ?_,
    fun deployment isStored => ⟨fun realised named => ?_, ?_⟩⟩
  · exact coherent.single first firstPresent second secondPresent owner.text
      (beq_iff_eq.1 ofFirst) (beq_iff_eq.1 ofSecond)
  · obtain ⟨present, labelled⟩ := coherent.label_eq_of_named isStored named
    exact ⟨beq_iff_eq.2 labelled, coherent.labelled_eq_singleton present labelled⟩
  · exact coherent.instanceOf?_eq_head?_labelled isStored

theorem one_instance_once_onboarded :
    ∃ deployment ∈ (Action.perform onboarded (.tick {} [])).store.list .deployment, ∃ realised,
      deployment.status.instanceKey.bind
          ((Action.perform onboarded (.tick {} [])).store.find? .tenantInstance) = some realised ∧
        (Action.perform onboarded (.tick {} [])).store.labelled .tenantInstance deploymentLabel
          deployment.key.text = [realised] := by
  have populated : ∃ deployment ∈ (Action.perform onboarded (.tick {} [])).store.list .deployment,
      (deployment.status.instanceKey.bind
        ((Action.perform onboarded (.tick {} [])).store.find? .tenantInstance)).isSome = true := by
    decide +kernel
  obtain ⟨deployment, isStored, isNamed⟩ := populated
  obtain ⟨realised, named⟩ := Option.isSome_iff_exists.1 isNamed
  have holds := at_most_one_instance_per_deployment
    (reachable_onboarded.act (.tick {} []) trivial) (.inl rfl)
  exact ⟨deployment, isStored, realised, named, ((holds.2 deployment isStored).1 realised named).2⟩

/-- In every state of a run, an instance has its deployment, in its own namespace, and a deployment
that was derived from a registration has that; owners are held back by the finalizer.  So what
has no owner in the store is not in the store. -/
theorem no_orphans (reached : world.Reachable) (passed : world.Passed store) :
    (∀ realised ∈ store.list .tenantInstance, ∃ deployment : Deployment,
      realised.metadata.label? deploymentLabel = some deployment.key.text ∧
        store.find? .deployment deployment.key = some deployment ∧
        deployment.key.scope = realised.key.scope ∧ deployment.isHeld = true) ∧
    (∀ deployment ∈ store.list .deployment, ∀ text,
      deployment.metadata.label? registrationLabel = some text →
        ∃ registration : Registration, registration.key.text = text ∧
          store.find? .registration registration.key = some registration ∧
          registration.isHeld = true) ∧
    (∀ key, store.find? .deployment key = none → ∀ realised ∈ store.list .tenantInstance,
      realised.metadata.label? deploymentLabel ≠ some key.text) ∧
    ∀ key, store.find? .registration key = none → ∀ deployment ∈ store.list .deployment,
      deployment.metadata.label? registrationLabel ≠ some key.text := by
  have coherent := reached.isCoherent_of_passed passed
  refine ⟨fun realised present => ?_, fun deployment present text labelled => ?_,
    fun key absent realised present labelled => ?_,
    fun key absent deployment present labelled => ?_⟩
  · obtain ⟨deployment, isStored, labelled, isHeld, named⟩ := coherent.exists_owner present
    exact ⟨deployment, labelled, Store.find?_key_of_mem isStored, named.1.symm, isHeld⟩
  · obtain ⟨registration, isStored, isOrigin, isHeld⟩ :=
      coherent.origins deployment present text labelled
    exact ⟨registration, isOrigin, Store.find?_key_of_mem isStored, isHeld⟩
  · obtain ⟨deployment, isStored, isLabel, -⟩ := coherent.exists_owner present
    exact Store.keyText_ne_of_find?_eq_none absent isStored
      (Option.some.inj (isLabel.symm.trans labelled))
  · obtain ⟨registration, isStored, isOrigin, -⟩ :=
      coherent.origins deployment present key.text labelled
    exact Store.keyText_ne_of_find?_eq_none absent isStored isOrigin

theorem no_orphans_once_onboarded :
    ∃ realised ∈ (Action.perform onboarded (.tick {} [])).store.list .tenantInstance,
      ∃ deployment : Deployment,
        realised.metadata.label? deploymentLabel = some deployment.key.text ∧
          deployment ∈ (Action.perform onboarded (.tick {} [])).store.list .deployment ∧
          deployment.isHeld = true := by
  have populated : ∃ realised ∈ (Action.perform onboarded (.tick {} [])).store.list
      .tenantInstance, realised.key = ⟨"tenant01", "web-0358f"⟩ := by decide +kernel
  obtain ⟨realised, present, -⟩ := populated
  have holds := no_orphans (reachable_onboarded.act (.tick {} []) trivial) (.inl rfl)
  obtain ⟨deployment, labelled, found, -, isHeld⟩ := holds.1 realised present
  exact ⟨realised, present, deployment, labelled, Store.mem_list_of_find? found, isHeld⟩

end World

end TenantFleet
