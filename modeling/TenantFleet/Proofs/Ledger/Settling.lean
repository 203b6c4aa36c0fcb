import TenantFleet.Proofs.Coherence.Passes

/-!
# Instances get their places

An instance that is neither marked for deletion nor listed by its target waits
for the pass on its deployment.  As long as passes succeed, the instances that
wait are those of the deployments whose pass is still to come.
-/

namespace TenantFleet

namespace Store

variable {store before after : Store} {realised : TenantInstance}

/-- The target of the instance is stored, and lists it. -/
def Places (store : Store) (realised : TenantInstance) : Prop :=
  ∃ target : Target, store.find? .target realised.spec.targetKey = some target ∧
    target.hosts realised.key = true

/-- The instance is on its way out, or has its place. -/
def Settles (store : Store) (realised : TenantInstance) : Prop :=
  realised.isMarked = true ∨ store.Places realised

/-- Instances that are not settled belong to one of the deployments. -/
def Awaits (store : Store) (pending : List ObjectKey) : Prop :=
  ∀ realised ∈ store.list .tenantInstance, store.Settles realised ∨
    ∃ key ∈ pending, realised.metadata.label? deploymentLabel = some key.text

/-- The instances of the deployment are settled. -/
def Attends (store : Store) (key : ObjectKey) : Prop :=
  ∀ realised ∈ store.list .tenantInstance,
    realised.metadata.label? deploymentLabel = some key.text → store.Settles realised

theorem Places.congr {kind : Kind} (placed : before.Places realised)
    (same : SameBeside kind before after) (notTarget : kind ≠ .target) :
    after.Places realised := by
  simpa only [Places, same.find? notTarget.symm] using placed

/-- A target that lists no fewer instances keeps them all in their places. -/
theorem Places.write_target (placed : store.Places realised) {stored next : Target}
    (present : stored ∈ store.list .target) (sameText : next.keyText = stored.keyText)
    (stillHosts : stored.hosts realised.key = true → next.hosts realised.key = true) :
    (store.write (some stored) next).Places realised := by
  obtain ⟨target, targetFound, hosts⟩ := placed
  by_cases isWritten : next.keyText = realised.spec.targetKey.text
  · refine ⟨next, by rw [find?_write, if_pos isWritten], stillHosts ?_⟩
    obtain rfl := eq_of_keyText_eq (mem_list_of_find? targetFound) present
      ((keyText_of_find? targetFound).trans (isWritten.symm.trans sameText))
    exact hosts
  · exact ⟨target, by rw [find?_write, if_neg isWritten, targetFound], hosts⟩

theorem Settles.congr {kind : Kind} (settled : before.Settles realised)
    (same : SameBeside kind before after) (notTarget : kind ≠ .target) :
    after.Settles realised :=
  settled.imp_right fun placed => placed.congr same notTarget

theorem Awaits.congr {pending : List ObjectKey} {kind : Kind} (awaits : before.Awaits pending)
    (same : SameBeside kind before after) (notTarget : kind ≠ .target)
    (notInstance : kind ≠ .tenantInstance) : after.Awaits pending := by
  intro realised present
  rw [same.list notInstance.symm] at present
  exact (awaits realised present).imp_left fun settled => settled.congr same notTarget

theorem Awaits.write_target {pending : List ObjectKey} (awaits : store.Awaits pending)
    {stored next : Target} (present : stored ∈ store.list .target)
    (sameText : next.keyText = stored.keyText)
    (stillHosts : ∀ key, stored.hosts key = true → next.hosts key = true) :
    (store.write (some stored) next).Awaits pending := by
  intro realised isStored
  rw [list_write_of_ne store (some stored) next (by decide)] at isStored
  exact (awaits realised isStored).imp_left fun settled => settled.imp_right fun placed =>
    placed.write_target present sameText (stillHosts _)

theorem Awaits.write_instance {pending : List ObjectKey} (awaits : store.Awaits pending)
    (previous : Option TenantInstance) (next : TenantInstance)
    (nextAwaits : store.Settles next ∨
      ∃ key ∈ pending, next.metadata.label? deploymentLabel = some key.text) :
    (store.write previous next).Awaits pending := by
  intro realised present
  have same := sameBeside_write store previous next
  rcases mem_list_write.1 present with rfl | ⟨wasPresent, -⟩
  · exact nextAwaits.imp_left fun settled => settled.congr same (by decide)
  · exact (awaits realised wasPresent).imp_left fun settled => settled.congr same (by decide)

/-- Since a deployment has one instance at most, it is enough to settle that. -/
theorem IsCoherent.attends (coherent : store.IsCoherent) {key : ObjectKey}
    (present : realised ∈ store.list .tenantInstance)
    (labelled : realised.metadata.label? deploymentLabel = some key.text)
    (settled : store.Settles realised) : store.Attends key := by
  intro other otherPresent otherLabelled
  have same := coherent.single realised present other otherPresent key.text labelled otherLabelled
  exact same ▸ settled

/-- When all pending deployments but one wait and the instances of that one are settled, it need
not be waited for. -/
theorem Awaits.tail {key : ObjectKey} {rest : List ObjectKey} (awaits : store.Awaits (key :: rest))
    (attended : store.Attends key) : store.Awaits rest := by
  intro realised present
  rcases awaits realised present with settled | ⟨owner, ownerMem, labelled⟩
  · exact .inl settled
  · rcases List.mem_cons.1 ownerMem with rfl | inRest
    · exact .inl (attended realised present labelled)
    · exact .inr ⟨owner, inRest, labelled⟩

end Store

namespace Deployment

variable {store after : Store} {key : ObjectKey}

theorem Write.awaits (written : Deployment.Write key store after) (coherent : store.IsCoherent)
    {pending : List ObjectKey} (isPending : key ∈ pending) (awaits : store.Awaits pending) :
    after.Awaits pending := by
  cases written with
  | held isFound unmarked unheld =>
      exact awaits.congr (Store.sameBeside_supplant _ _ _) (by decide) (by decide)
  | @created deployment made isFound unmarked isHeld vacant isNew =>
      refine awaits.write_instance none made (.inr ⟨key, isPending, ?_⟩)
      rw [← Store.keyText_of_find? isFound]
      exact isNew.label_eq
  | @renewed deployment existing isFound realises unmarked =>
      exact awaits.write_instance _ _ (awaits existing realises.1)
  | placed isFound realises unmarked targetFound unhosted =>
      refine awaits.write_target (Store.mem_list_of_find? targetFound) rfl fun hosted hosts => ?_
      simp only [Target.hosts, List.contains_iff_mem] at hosts ⊢
      exact List.mem_append_left _ hosts
  | settled isFound realises =>
      exact awaits.congr (Store.sameBeside_write _ _ _) (by decide) (by decide)
  | cleared isFound marked vacant =>
      exact awaits.congr (Store.sameBeside_write _ _ _) (by decide) (by decide)
  | letGo isFound marked vacant =>
      exact awaits.congr (Store.sameBeside_supplant _ _ _) (by decide) (by decide)
  | released isFound realises unheld targetFound hosts =>
      -- this write would take a place from an instance that stays; no stored instance is unheld
      exact absurd (coherent.sound_instance realises.1).isHeld (by simp [unheld])
  | deleted isFound marked realises unmarked deletion =>
      cases deletion with
      | purged free =>
          have held := (coherent.sound_instance realises.1).held
          exact absurd (held.symm.trans free) (List.cons_ne_nil _ _)
      | marked => exact awaits.write_instance _ _ (.inl (.inl rfl))
  | recorded isFound record =>
      exact awaits.congr (Store.sameBeside_write _ _ _) (by decide) (by decide)

variable {settings : Settings} {world last : World} {deployment : Deployment} {outcome : Outcome}

theorem attends_of_settle (realised : TenantInstance)
    (present : realised ∈ world.store.list .tenantInstance)
    (labelled : realised.metadata.label? deploymentLabel = some key.text)
    (isStored : deployment ∈ world.store.list .deployment) (coherent : last.store.IsCoherent)
    (ran : (settle settings deployment realised).runOn world = (.ok outcome, last)) :
    last.store.Attends key := by
  unfold settle at ran
  obtain ⟨changed, middle, placing, ran⟩ := Pass.exists_of_discard_bind_ok ran
  have same := sameBeside_of_assignPlace placing
  have settled : middle.store.Settles realised := .inr (hosts_of_assignPlace placing)
  have stillPresent : realised ∈ middle.store.list .tenantInstance := by
    rwa [same.list (by decide)]
  simp only at ran
  split at ran
  · cases ran
    exact coherent.attends stillPresent labelled settled
  · have stillStored : deployment ∈ middle.store.list .deployment := by
      rwa [same.list (by decide)]
    rw [Pass.runOn_during_bind_of_ok (World.runOn_restate stillStored rfl _)] at ran
    cases ran
    refine coherent.attends ?_ labelled (settled.congr (Store.sameBeside_write _ _ _) (by decide))
    rw [World.commit, Store.list_write_of_ne _ _ _ (by decide)]
    exact stillPresent

theorem attends_of_realise (coherent : world.store.IsCoherent)
    (isFound : world.store.find? .deployment key = some deployment)
    (coherentLast : last.store.IsCoherent)
    (ran : (realise settings deployment).runOn world = (.ok outcome, last)) :
    last.store.Attends key := by
  have isStored := Store.mem_list_of_find? isFound
  have sameText : deployment.keyText = key.text := Store.keyText_of_find? isFound
  unfold realise at ran
  rw [Pass.runOn_readStore_bind] at ran
  cases found : world.store.instanceOf? deployment with
  | none =>
      simp only [found] at ran
      rw [Pass.runOn_bind] at ran
      rcases runOn_makeInstance settings deployment.withDefaults world with
        ⟨failure, after, made, -, -⟩ | ⟨created, after, made, isNew, isAfter, -⟩
      · rw [made] at ran
        cases ran
      · rw [made] at ran
        refine attends_of_settle created ?_ (sameText ▸ isNew.label_eq) ?_ coherentLast ran
        · rw [isAfter]
          exact Store.mem_list_write_self _ _ _
        · rw [isAfter, Store.list_write_of_ne _ _ _ (by decide)]
          exact isStored
  | some existing =>
      have realises := Store.realises_of_instanceOf? found
      have labelled : existing.metadata.label? deploymentLabel = some key.text :=
        sameText ▸ coherent.label_eq_of_realises isStored realises
      simp only [found] at ran
      split at ran
      next marked =>
        cases ran
        exact coherent.attends realises.1 labelled (.inl marked)
      next unmarkedInstance =>
        rw [Pass.runOn_bind] at ran
        rcases runOn_renewInstance deployment.withDefaults realises.1
          (by simpa using unmarkedInstance) with renewed | renewed
        · rw [renewed] at ran
          exact attends_of_settle existing realises.1 labelled isStored coherentLast ran
        · rw [renewed] at ran
          refine attends_of_settle
            (world.store.replacement existing (carriedInto deployment.withDefaults existing))
            (Store.mem_list_write_self _ _ _) labelled ?_ coherentLast ran
          rw [World.commit, Store.list_write_of_ne _ _ _ (by decide)]
          exact isStored

/-- A deployment without an instance to be found has none that is not marked. -/
theorem marked_of_vacant (coherent : world.store.IsCoherent)
    (isFound : world.store.find? .deployment key = some deployment)
    (vacant : world.store.instanceOf? deployment = none) :
    ∀ realised ∈ world.store.list .tenantInstance,
      realised.metadata.label? deploymentLabel = some key.text → realised.isMarked = true := by
  intro realised present labelled
  rw [← Store.keyText_of_find? isFound] at labelled
  exact absurd labelled (coherent.indexed.label_ne_of_labelled_eq_nil
    (Store.labelled_eq_nil_of_instanceOf? vacant) present)

/-- The instances of a deployment on its way out are marked, unless the pass on it fails. -/
theorem marked_of_windDown (coherent : world.store.IsCoherent)
    (isFound : world.store.find? .deployment key = some deployment)
    (marked : deployment.isMarked = true) (coherentLast : last.store.IsCoherent)
    (ran : (windDown settings deployment).runOn world = (.ok outcome, last)) :
    ∀ realised ∈ last.store.list .tenantInstance,
      realised.metadata.label? deploymentLabel = some key.text → realised.isMarked = true := by
  have isStored := Store.mem_list_of_find? isFound
  unfold windDown at ran
  rw [Pass.runOn_readStore_bind] at ran
  cases found : world.store.instanceOf? deployment with
  | none =>
      simp only [found] at ran
      have same := (through_dismiss isFound marked found).2
      rw [ran] at same
      rw [same.list (by decide)]
      exact marked_of_vacant coherent isFound found
  | some existing =>
      have realises := Store.realises_of_instanceOf? found
      have labelled : existing.metadata.label? deploymentLabel = some key.text :=
        Store.keyText_of_find? isFound ▸ coherent.label_eq_of_realises isStored realises
      have sound := coherent.sound_instance realises.1
      simp only [found, sound.isHeld] at ran
      intro realised present isLabelled
      split at ran
      next isMarked =>
        cases ran
        exact coherent.single existing realises.1 realised present _ labelled isLabelled ▸ isMarked
      next unmarkedInstance =>
        have done := Store.delete_of_mem existing.key world.clock.next realises.1 rfl rfl
        rw [if_neg (by simp [sound.held]), if_neg unmarkedInstance] at done
        rw [Bool.not_true, if_neg (by simp), Pass.runOn_bind, Pass.runOn_attempt,
          World.runOn_delete_of_ok done] at ran
        cases ran
        let stamped := world.store.stamped existing world.clock.next
        exact coherentLast.single stamped (Store.mem_list_write_self _ _ _) realised present _
          labelled isLabelled ▸ rfl

/-- The pass on a deployment attends to its instances, unless it fails. -/
theorem attends_of_reconcile (coherent : world.store.IsCoherent)
    (coherentLast : last.store.IsCoherent)
    (ran : (reconcile settings key).runOn world = (.ok outcome, last)) :
    last.store.Attends key := by
  unfold reconcile at ran
  rw [Pass.runOn_readStore_bind] at ran
  cases isFound : world.store.find? .deployment key with
  | none =>
      simp only [isFound] at ran
      cases ran
      intro realised present labelled
      obtain ⟨owner, isStored, isLabel, -⟩ := coherent.exists_owner present
      exact absurd (Option.some.inj (isLabel.symm.trans labelled))
        (Store.keyText_ne_of_find?_eq_none isFound isStored)
  | some found =>
      simp only [isFound] at ran
      split at ran
      next marked =>
        have areMarked := marked_of_windDown coherent isFound marked coherentLast
          (Pass.runOn_of_onFailure_ok ran)
        exact fun realised present labelled => .inl (areMarked realised present labelled)
      next unmarked =>
        split at ran
        next =>
          exact attends_of_realise coherent isFound coherentLast (Pass.runOn_of_onFailure_ok ran)
        next unheld =>
          rw [Pass.runOn_during_bind_of_ok
            (World.runOn_hold (Store.mem_list_of_find? isFound) rfl)] at ran
          cases ran
          -- a deployment that was not yet held back has no instance to attend to
          intro realised present labelled
          have same := Store.sameBeside_supplant world.store found
            (world.store.replacement found found.hold)
          rw [World.commit, same.list (by decide)] at present
          obtain ⟨owner, isStored, isLabel, isHeld, -⟩ := coherent.exists_owner present
          have sameText : owner.keyText = found.keyText :=
            (Option.some.inj (isLabel.symm.trans labelled)).trans
              (Store.keyText_of_find? isFound).symm
          obtain rfl := Store.eq_of_keyText_eq isStored (Store.mem_list_of_find? isFound) sameText
          exact absurd isHeld unheld

end Deployment

end TenantFleet
