import TenantFleet.Proofs.Commutation.Effects
import TenantFleet.Proofs.Resumption.TenantInstance

/-!
# The effect of the pass on an instance

The pass sees the instance alone, and amends it and the target that it gives its
place back to.  On the way out every instance takes itself off the list of its
target, whatever else is there, so it does not matter which of two is first.
-/

namespace TenantFleet

/-- The target once it does not list the instance; the places left are published if it did. -/
def Target.without (instanceKey : ObjectKey) (target : Target) : Target :=
  if target.hosts instanceKey then Object.retold target (target.releasing instanceKey).status
  else target

theorem Target.without_of_hosts {target : Target} {instanceKey : ObjectKey}
    (hosted : target.hosts instanceKey = true) :
    target.without instanceKey =
      Object.retold target (target.releasing instanceKey).status :=
  if_pos hosted

theorem Target.without_of_not_hosts {target : Target} {instanceKey : ObjectKey}
    (unhosted : target.hosts instanceKey = false) : target.without instanceKey = target :=
  if_neg (Bool.eq_false_iff.1 unhosted)

theorem Target.hosts_without_of_ne {target : Target} {removed other : ObjectKey}
    (apart : other ≠ removed) : (target.without removed).hosts other = target.hosts other := by
  unfold without
  split
  · change (target.status.assigned.filter (· ≠ removed)).contains other =
      target.status.assigned.contains other
    simp [List.contains_eq_mem, List.mem_filter, apart]
  · rfl

/-- Two instances may be taken off a list in either order. -/
theorem Target.without_comm (first second : ObjectKey) (target : Target) :
    (target.without first).without second = (target.without second).without first := by
  by_cases same : first = second
  · rw [same]
  have sameFirst : (target.without second).hosts first = target.hosts first :=
    hosts_without_of_ne same
  have sameSecond : (target.without first).hosts second = target.hosts second :=
    hosts_without_of_ne (Ne.symm same)
  cases hostsFirst : Target.hosts target first <;> cases hostsSecond : Target.hosts target second
  case true.true =>
    rw [hostsFirst] at sameFirst
    rw [hostsSecond] at sameSecond
    rw [without_of_hosts sameFirst, without_of_hosts sameSecond, without_of_hosts hostsFirst,
      without_of_hosts hostsSecond]
    have sameList : (target.status.assigned.filter (· ≠ first)).filter (· ≠ second) =
        (target.status.assigned.filter (· ≠ second)).filter (· ≠ first) := by
      simp only [List.filter_filter, Bool.and_comm]
    rw [Object.retold_retold, Object.retold_retold]
    refine congrArg (Object.retold target) ?_
    -- the number of places that is published goes with the list
    exact congrArg (fun assigned : List ObjectKey =>
      TargetStatus.mk assigned (some (nominalPlaces - assigned.length))) sameList
  case true.false =>
    rw [hostsSecond] at sameSecond
    rw [without_of_not_hosts sameSecond, without_of_not_hosts hostsSecond]
  case false.true =>
    rw [hostsFirst] at sameFirst
    rw [without_of_not_hosts sameFirst, without_of_not_hosts hostsFirst]
  case false.false =>
    rw [without_of_not_hosts hostsFirst, without_of_not_hosts hostsSecond,
      without_of_not_hosts hostsFirst]

namespace TenantInstance

variable {settings : Settings} {key : ObjectKey} {world : World}

/-- Give the place of the instance back. -/
def vacating (found : TenantInstance) : Amendment :=
  .revise .target found.spec.targetKey.text (Target.without found.key)

theorem vacating_commutes (first second : TenantInstance) :
    (vacating first).Commutes (vacating second) := by
  by_cases sameTarget : first.spec.targetKey.text = second.spec.targetKey.text
  · unfold vacating
    rw [sameTarget]
    exact Amendment.commutes_revise (Target.without_comm _ _) _
  · exact Amendment.commutes_of_place_ne fun same => sameTarget (Prod.mk.inj same).2

/-- What the pass says of the instance that it finds, and what it amends. -/
def doing (text : String) : Option TenantInstance → Doing PassFailure Outcome
  | none => (.ok .notFound, [])
  | some found =>
      if found.isMarked then
        if found.isHeld then
          (.ok .gone, [vacating found, .put .tenantInstance text found.relieved?])
        else (.ok .waiting, [])
      else if found.isHeld then (.ok .converged, [])
      else (.ok .finalizerAdded, [.put .tenantInstance text (some (found.rewritten found.hold))])

/-- The effect of the pass on the instance under `key`. -/
def effect (key : ObjectKey) : Effect PassFailure Outcome where
  sees := [(.tenantInstance, key.text)]
  does contents := doing key.text (contents (.tenantInstance, key.text))
  heeds same := by rw [same _ List.mem_cons_self]

/-- The pass amends the instance itself, and a list that it takes it off. -/
theorem keepsTo_effect (key : ObjectKey) :
    (effect key).KeepsTo fun amendment => ∃ retiring, amendment = vacating retiring := by
  intro contents amendment amends
  have own : (.tenantInstance, key.text) ∈ (effect key).sees := List.mem_cons_self
  have isDoing : amendment ∈ (doing key.text (contents (.tenantInstance, key.text))).2 := amends
  unfold doing at isDoing
  split at isDoing
  · exact absurd isDoing List.not_mem_nil
  · rename_i retiring isThere
    split at isDoing
    · split at isDoing
      · rcases List.mem_cons.1 isDoing with rfl | isRest
        · exact .inr ⟨retiring, rfl⟩
        · obtain rfl := List.mem_singleton.1 isRest
          exact .inl own
      · exact absurd isDoing List.not_mem_nil
    · split at isDoing
      · exact absurd isDoing List.not_mem_nil
      · obtain rfl := List.mem_singleton.1 isDoing
        exact .inl own

/-- The passes on two instances meet at most in the list of a target, which they take themselves
off. -/
theorem effect_isApart {key other : ObjectKey} (different : key.text ≠ other.text) :
    (effect key).IsApart (effect other) := by
  refine (keepsTo_effect key).isApart (keepsTo_effect other) ?disjoint ?unseen ?commute
  case disjoint =>
    intro place seen otherSeen
    have same := (List.mem_singleton.1 seen).symm.trans (List.mem_singleton.1 otherSeen)
    exact different (Prod.mk.inj same).2
  case unseen =>
    rintro _ ⟨retiring, rfl⟩
    have elsewhere (key : ObjectKey) : (vacating retiring).place ∉ (effect key).sees :=
      fun seen => absurd (Prod.mk.inj (List.mem_singleton.1 seen)).1 (by decide)
    exact ⟨elsewhere key, elsewhere other⟩
  case commute =>
    rintro _ _ ⟨retiring, rfl⟩ ⟨next, rfl⟩
    exact vacating_commutes retiring next

section Run

variable {store : Store} {retiring : TenantInstance}

/-- The target that lists the instance loses it. -/
theorem contents_released {target : Target}
    (targetFound : store.find? .target retiring.spec.targetKey = some target)
    (hosted : target.hosts retiring.key = true) :
    (released store target retiring).contents =
      (vacating retiring.unstamped).apply store.contents := by
  have isThere : store.contents (.target, retiring.spec.targetKey.text) = some target.unstamped :=
    congrArg (Option.map Object.unstamped) targetFound
  have stillHosted : Target.hosts target.unstamped retiring.key = true := hosted
  have vacated : Target.without retiring.key target.unstamped =
      Object.retold target (target.releasing retiring.key).status := by
    rw [Target.without_of_hosts stillHosted, Object.retold_unstamped]
    rfl
  rw [released, Store.contents_write, Object.unstamped_restated, Store.keyText_restated,
    Store.keyText_of_find? targetFound]
  change _ = Function.update store.contents (.target, retiring.spec.targetKey.text)
    ((store.contents (.target, retiring.spec.targetKey.text)).map (Target.without retiring.key))
  rw [isThere, Option.map_some, vacated]

/-- Where no target lists the instance, there is nothing to give back. -/
theorem apply_vacating_of_released (released : IsReleased store retiring) :
    (vacating retiring.unstamped).apply store.contents = store.contents := by
  refine (congrArg (Function.update _ _) ?_).trans (Function.update_eq_self _ _)
  change (store.contents (.target, retiring.spec.targetKey.text)).map
      (Target.without retiring.key) =
    store.contents (.target, retiring.spec.targetKey.text)
  rw [Store.contents_text]
  cases targetFound : store.find? .target retiring.spec.targetKey with
  | none => rfl
  | some target =>
      have unhosted : Target.hosts target.unstamped retiring.key = false :=
        released target targetFound
      rw [Option.map_some, Option.map_some, Target.without_of_not_hosts unhosted]

/-- An instance on its way out gives its place back, whether or not it had one. -/
theorem exists_windDown (present : retiring ∈ world.store.list .tenantInstance) :
    ∃ middle : World, (windDown settings retiring).runOn world =
        (.ok .gone, middle.commit (middle.store.dismissed retiring)) ∧
      middle.store.contents = (vacating retiring.unstamped).apply world.store.contents := by
  by_cases released : IsReleased world.store retiring
  · exact ⟨world, runOn_windDown_of_released present released,
      (apply_vacating_of_released released).symm⟩
  · simp only [IsReleased, Classical.not_forall, Bool.not_eq_false] at released
    obtain ⟨target, targetFound, hosted⟩ := released
    exact ⟨_, runOn_windDown_of_hosted present targetFound hosted,
      contents_released targetFound hosted⟩

end Run

theorem comesTo_reconcile (settings : Settings) (key : ObjectKey) (world : World) :
    (reconcile settings key).ComesTo world ((effect key).does world.store.contents) := by
  change Pass.ComesTo _ _
    (doing key.text ((world.store.find? .tenantInstance key).map Object.unstamped))
  cases isFound : world.store.find? .tenantInstance key with
  | none => exact Pass.comesTo_of_runOn (runOn_reconcile_of_absent isFound) rfl
  | some found =>
      cases marked : Object.isMarked found <;> cases isHeld : Object.isHeld found <;>
        simp only [doing, Option.map_some, Object.isMarked_unstamped, Object.isHeld_unstamped,
          marked, isHeld, if_true, Bool.false_eq_true, if_false]
      case false.false =>
        refine Pass.comesTo_of_runOn (runOn_reconcile_of_unheld isFound marked isHeld) ?_
        rw [← Store.keyText_of_find? isFound]
        exact Store.contents_hold marked
      case false.true =>
        exact Pass.comesTo_of_runOn (runOn_reconcile_of_lasting isFound marked isHeld) rfl
      case true.false =>
        exact Pass.comesTo_of_runOn (runOn_reconcile_of_relieved isFound marked isHeld) rfl
      case true.true =>
        obtain ⟨middle, woundDown, vacated⟩ := exists_windDown (Store.mem_list_of_find? isFound)
        have ran : (reconcile settings key).runOn world =
            (.ok .gone, middle.commit (middle.store.dismissed found)) := by
          rw [runOn_reconcile_retiring isFound marked isHeld, Pass.runOn_onFailure, woundDown]
        refine Pass.comesTo_of_runOn ran ?_
        rw [← Store.keyText_of_find? isFound]
        refine (Store.contents_letGo found).trans ?_
        rw [vacated]
        rfl

theorem follows_reconcile (settings : Settings) (key : ObjectKey) :
    (reconcile settings key).Follows (effect key) where
  comesTo world _ := comesTo_reconcile settings key world
  anchored world anchored := (through_reconcile settings key world).preserves Store.IsAnchored
    (fun holds written => written.isAnchored holds) anchored

end TenantInstance

end TenantFleet
