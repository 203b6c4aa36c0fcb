import TenantFleet.Proofs.Quiet.Rest

/-!
# What leaves a deployment at rest

Whether a deployment is at rest turns on the deployment itself, the instances
with its label, the targets with all but their published number of places, and
the rules of scheduling.  The passes on other deployments leave these alone,
save that targets may come to host more.
-/

namespace TenantFleet

/-- The target is the same in what is asked for, and still hosts what it hosted. -/
structure Target.Retains (before after : Target) : Prop where
  key : after.key = before.key
  spec : after.spec = before.spec
  labels : after.metadata.labels = before.metadata.labels
  hosts : ∀ instanceKey, before.hosts instanceKey = true → after.hosts instanceKey = true

/-- A target that is assigned another instance still hosts the others. -/
theorem Target.hosts_assigning (target : Target) {hosted instanceKey : ObjectKey}
    (isHosted : target.hosts hosted = true) :
    (target.assigning instanceKey).hosts hosted = true := by
  have listed : hosted ∈ target.status.assigned := List.contains_iff_mem.1 isHosted
  exact List.contains_iff_mem.2 (List.mem_append_left [instanceKey] listed)

theorem Target.Retains.refl (target : Target) : target.Retains target :=
  ⟨rfl, rfl, rfl, fun _ hosted => hosted⟩

namespace Store

variable {store before after : Store} {kind : Kind} {label text : String}
  {key : ObjectKey}

/-- Each target is still there, and no other. -/
structure RetainsTargets (before after : Store) : Prop where
  kept : ∀ key target, before.find? .target key = some target →
    ∃ later, after.find? .target key = some later ∧ Target.Retains target later
  noneNew : ∀ key, before.find? .target key = none → after.find? .target key = none

/-- The objects with the label are the same. -/
def SameLabelled (kind : Kind) (label text : String) (before after : Store) : Prop :=
  ∀ object : Object kind, object.metadata.label? label = some text →
    (object ∈ after.list kind ↔ object ∈ before.list kind)

/-- All that the pass on a deployment looks at is as it was, for all it can tell. -/
structure Undisturbed (key : ObjectKey) (before after : Store) : Prop where
  deployment : after.find? .deployment key = before.find? .deployment key
  instances : SameLabelled .tenantInstance deploymentLabel key.text before after
  targets : RetainsTargets before after
  rules : ∀ other, after.find? .scheduling other = before.find? .scheduling other

namespace RetainsTargets

theorem of_find?_eq (same : ∀ key, after.find? .target key = before.find? .target key) :
    RetainsTargets before after where
  kept key target isFound := ⟨target, (same key).trans isFound, .refl target⟩
  noneNew key absent := (same key).trans absent

theorem restated {target : Target} (isFound : store.find? .target key = some target)
    {status : TargetStatus} (retains : Target.Retains target (store.restated target status)) :
    RetainsTargets store (store.write (some target) (store.restated target status)) where
  kept other stored isStored := by
    rw [find?_write, keyText_restated]
    by_cases same : target.keyText = other.text
    · rw [find?_eq_some_of_mem (mem_list_of_find? isFound) same] at isStored
      obtain rfl := Option.some.inj isStored
      exact ⟨_, if_pos same, retains⟩
    · exact ⟨stored, (if_neg same).trans isStored, .refl stored⟩
  noneNew other absent := by
    rw [find?_write, keyText_restated,
      if_neg (keyText_ne_of_find?_eq_none absent (mem_list_of_find? isFound)), absent]

theorem exists_earlier (retains : RetainsTargets before after) {later : Target}
    (isFound : after.find? .target key = some later) :
    ∃ target, before.find? .target key = some target ∧ Target.Retains target later := by
  cases isEarlier : before.find? .target key with
  | none =>
      rw [retains.noneNew key isEarlier] at isFound
      contradiction
  | some target =>
      obtain ⟨other, isOther, retained⟩ := retains.kept key target isEarlier
      obtain rfl := Option.some.inj (isOther.symm.trans isFound)
      exact ⟨target, rfl, retained⟩

end RetainsTargets

namespace SameLabelled

theorem of_list_eq (same : after.list kind = before.list kind) :
    SameLabelled kind label text before after := by
  intro object _
  rw [same]

/-- A write of what does not have the label, over what does not have it. -/
theorem write (previous : Option (Object kind)) {next : Object kind}
    (nextApart : next.metadata.label? label ≠ some text)
    (storedApart : ∀ stored ∈ store.list kind, stored.keyText = next.keyText →
      stored.metadata.label? label ≠ some text) :
    SameLabelled kind label text store (store.write previous next) := by
  intro object labelled
  rw [mem_list_write]
  constructor
  · rintro (rfl | ⟨present, -⟩)
    · exact absurd labelled nextApart
    · exact present
  · exact fun present =>
      .inr ⟨present, fun sameText => storedApart object present sameText labelled⟩

theorem remove {current : Object kind} (present : current ∈ store.list kind)
    (apart : current.metadata.label? label ≠ some text) :
    SameLabelled kind label text store (store.remove current) := by
  intro object labelled
  rw [mem_list_remove]
  refine ⟨And.left, fun isStored => ⟨isStored, fun sameText => ?_⟩⟩
  obtain rfl := eq_of_keyText_eq isStored present sameText
  exact apart labelled

theorem deletion {stored : Object kind} (deletion : store.Deletion stored after)
    (present : stored ∈ store.list kind) (apart : stored.metadata.label? label ≠ some text) :
    SameLabelled kind label text store after := by
  cases deletion with
  | purged free => exact remove present apart
  | marked kept unmarked now =>
      refine write _ apart fun other isStored sameText => ?_
      obtain rfl := eq_of_keyText_eq isStored present sameText
      exact apart

end SameLabelled

namespace Undisturbed

/-- Registrations and namespaces are none of what the pass looks at. -/
theorem of_sameBut (same : SameBut [.tenantSpace, .registration] before after) :
    Undisturbed key before after where
  deployment := same.find? (by decide) key
  instances := .of_list_eq (same.list (by decide))
  targets := .of_find?_eq (same.find? (by decide))
  rules := same.find? (by decide)

theorem of_targets (same : SameBeside .target before after)
    (targets : RetainsTargets before after) : Undisturbed key before after where
  deployment := same.find? (by decide) key
  instances := .of_list_eq (same.list (by decide))
  targets := targets
  rules := same.find? (by decide)

theorem of_instances (same : SameBeside .tenantInstance before after)
    (instances : SameLabelled .tenantInstance deploymentLabel key.text before after) :
    Undisturbed key before after where
  deployment := same.find? (by decide) key
  instances := instances
  targets := .of_find?_eq (same.find? (by decide))
  rules := same.find? (by decide)

theorem of_deployments (same : SameBeside .deployment before after)
    (deployment : after.find? .deployment key = before.find? .deployment key) :
    Undisturbed key before after where
  deployment := deployment
  instances := .of_list_eq (same.list (by decide))
  targets := .of_find?_eq (same.find? (by decide))
  rules := same.find? (by decide)

end Undisturbed

/-- In a coherent store the instance of a deployment is the one with its label. -/
theorem IsCoherent.instanceOf?_eq_some_iff (coherent : store.IsCoherent) {deployment : Deployment}
    (isStored : deployment ∈ store.list .deployment) {realised : TenantInstance} :
    store.instanceOf? deployment = some realised ↔
      realised ∈ store.list .tenantInstance ∧
        realised.metadata.label? deploymentLabel = some deployment.keyText := by
  constructor
  · intro found
    have realises := realises_of_instanceOf? found
    exact ⟨realises.1, coherent.label_eq_of_realises isStored realises⟩
  · rintro ⟨present, labelled⟩
    have listed := coherent.indexed.mem_labelled_of_hasLabel present (beq_iff_eq.2 labelled)
    exact Deployment.instanceOf?_of_realises coherent isStored ⟨present, .inr listed⟩

end Store

namespace Deployment

variable {settings : Settings} {key other : ObjectKey} {store before after : Store}
  {deployment : Deployment} {realised : TenantInstance}

theorem IsSteady.of_undisturbed (coherent : before.IsCoherent) (coherentAfter : after.IsCoherent)
    (undisturbed : Store.Undisturbed key before after)
    (steady : IsSteady before key deployment realised) :
    IsSteady after key deployment realised := by
  have isStored := Store.mem_list_of_find? steady.isFound
  have isFound := undisturbed.deployment.trans steady.isFound
  obtain ⟨present, labelled⟩ :=
    (coherent.instanceOf?_eq_some_iff isStored).1 steady.hasInstance
  have isOwn : realised.metadata.label? deploymentLabel = some key.text :=
    labelled.trans (congrArg some (Store.keyText_of_find? steady.isFound))
  have stillPresent := (undisturbed.instances realised isOwn).2 present
  exact { steady with
    isFound := isFound
    hasInstance := (coherentAfter.instanceOf?_eq_some_iff (Store.mem_list_of_find? isFound)).2
      ⟨stillPresent, labelled⟩ }

theorem IsAtRest.of_undisturbed (coherent : before.IsCoherent)
    (coherentAfter : after.IsCoherent)
    (undisturbed : Store.Undisturbed deployment.key before after)
    (atRest : IsAtRest settings before deployment) : IsAtRest settings after deployment := by
  cases atRest with
  | settled steady targetFound hosted told =>
      obtain ⟨later, isLater, retains⟩ := undisturbed.targets.kept _ _ targetFound
      exact .settled (steady.of_undisturbed coherent coherentAfter undisturbed) isLater
        (retains.hosts _ hosted) told
  | stranded steady absent recorded =>
      exact .stranded (steady.of_undisturbed coherent coherentAfter undisturbed)
        (undisturbed.targets.noneNew _ absent) recorded
  | unplaced present unmarked isHeld vacant unplaceable recorded =>
      have isFound := undisturbed.deployment.trans (Store.find?_key_of_mem present)
      have stillPresent := Store.mem_list_of_find? isFound
      have stillVacant : after.instanceOf? deployment = none := by
        cases found : after.instanceOf? deployment with
        | none => rfl
        | some realised =>
            obtain ⟨isStored, labelled⟩ :=
              (coherentAfter.instanceOf?_eq_some_iff stillPresent).1 found
            have wasStored := (undisturbed.instances realised labelled).1 isStored
            rw [(coherent.instanceOf?_eq_some_iff present).2 ⟨wasStored, labelled⟩] at vacant
            contradiction
      refine .unplaced stillPresent unmarked isHeld stillVacant
        (unplaceable.congr rfl rfl (rulesFor_congr undisturbed.rules) fun target isTarget => ?_)
        recorded
      obtain ⟨earlier, isEarlier, retains⟩ :=
        undisturbed.targets.exists_earlier (Store.find?_key_of_mem isTarget)
      exact ⟨earlier, Store.mem_list_of_find? isEarlier, retains.key.symm, retains.spec.symm,
        retains.labels.symm⟩

/-- The pass on a deployment does not disturb the others. -/
theorem Write.undisturbed (written : Deployment.Write key store after)
    (coherent : store.IsCoherent) (different : key.text ≠ other.text) :
    store.Undisturbed other after := by
  have sameOther := written.find?_of_ne different
  -- an instance that the pass works on has the label of its own deployment
  have apart {deployment : Deployment} {realised : TenantInstance}
      (isFound : store.find? .deployment key = some deployment)
      (realises : store.Realises deployment realised) :
      realised.metadata.label? deploymentLabel ≠ some other.text := by
    intro labelled
    have isOwn := coherent.label_eq_of_realises (Store.mem_list_of_find? isFound) realises
    exact different ((Store.keyText_of_find? isFound).symm.trans
      (Option.some.inj (isOwn.symm.trans labelled)))
  cases written with
  | held | letGo => exact .of_deployments (Store.sameBeside_supplant _ _ _) sameOther
  | settled | cleared | recorded =>
      exact .of_deployments (Store.sameBeside_write _ _ _) sameOther
  | @created deployment made isFound unmarked isHeld vacant isNew =>
      refine .of_instances (Store.sameBeside_write _ _ _) (.write none ?_ ?_)
      · intro labelled
        have sameText := Option.some.inj (isNew.label_eq.symm.trans labelled)
        exact different ((Store.keyText_of_find? isFound).symm.trans sameText)
      · obtain ⟨rules, target, id, suffix, now, -, -, -, free⟩ := isNew
        exact fun stored present sameText =>
          absurd sameText (Store.keyText_ne_of_find?_eq_none free present)
  | @renewed deployment existing isFound realises unmarked =>
      have isApart := apart isFound realises
      refine .of_instances (Store.sameBeside_write _ _ _) (.write _ isApart ?_)
      intro stored present sameText
      obtain rfl := Store.eq_of_keyText_eq present realises.1 sameText
      exact isApart
  | @placed deployment realised target isFound realises unmarked targetFound unhosted =>
      refine .of_targets (Store.sameBeside_write _ _ _)
        (.restated targetFound ⟨rfl, rfl, rfl, fun instanceKey hosted => ?_⟩)
      exact target.hosts_assigning hosted
  | @released deployment existing target isFound realises unheld targetFound hosts =>
      have isHeld := (coherent.sound_instance realises.1).isHeld
      exact absurd isHeld (by simp [unheld])
  | deleted isFound marked realises unmarked deletion =>
      exact .of_instances deletion.sameBeside
        (.deletion deletion realises.1 (apart isFound realises))

end Deployment

/-- Publishing the places of a target takes none of its instances off its list. -/
theorem Target.Write.undisturbed {key other : ObjectKey} {store after : Store}
    (written : Target.Write key store after) : store.Undisturbed other after := by
  cases written with
  | published isFound stale =>
      exact .of_targets (Store.sameBeside_write _ _ _)
        (.restated isFound ⟨rfl, rfl, rfl, fun _ hosted => hosted⟩)

end TenantFleet
