import TenantFleet.Proofs.Commutation.Registration
import TenantFleet.Proofs.Commutation.TenantInstance
import TenantFleet.Proofs.Passes.Outcomes
import TenantFleet.Proofs.Runs.Isolation

/-!
# Passes on different keys

In a run, the passes on two registrations, and those on two instances, may be
run in either order: each says what it would have said alone, and what they
leave differs in resource versions and times only.  All that they have in
common is the namespace that both open, or the target that both go from.
-/

namespace TenantFleet

/-- Every write of an ordinary action leaves the deployments that are labelled anchored. -/
theorem Action.Write.isAnchored_of_ordinary {action : Action} {store after : Store}
    (written : action.Write store after) (ordinary : action.IsOrdinary)
    (anchored : store.IsAnchored) : after.IsAnchored := by
  cases written with
  | apply written => exact written.isAnchored_of_ordinary ordinary anchored
  | delete present sameText deletion => exact anchored.deletion present deletion
  | report present sameText | forget present sameText => exact anchored.restate present _
  | reconcileRegistration written => exact written.isAnchored anchored
  | reconcileDeployment written => exact written.isAnchored anchored
  | reconcileInstance written => exact written.isAnchored anchored
  | reconcileTarget written => exact written.isAnchored anchored
  | syncStatus written => exact written.isAnchored anchored
  | tick written => exact written.isAnchored anchored

namespace World

/-- Every store of a run is anchored. -/
theorem Reachable.isAnchored_of_passed {world : World} (reached : world.Reachable) {store : Store}
    (passed : world.Passed store) : store.IsAnchored := by
  have holds := reached.invariant Store.isAnchored_empty
    fun ordinary written anchored => written.isAnchored_of_ordinary ordinary anchored
  rcases passed with rfl | noted
  · exact holds.1
  · exact holds.2 store noted

/-- Whatever store of a run they begin with, the passes on two registrations, and those on two
instances, say the same in either order and leave the same, but for resource versions and times. -/
theorem passes_on_different_keys_commute {origin world : World} (reached : origin.Reachable)
    (passed : origin.Passed world.store) {first second : ObjectKey} (different : first ≠ second) :
    (Registration.reconcile first).CommutesOn (Registration.reconcile second) world ∧
      ∀ settings other : Settings,
        (TenantInstance.reconcile settings first).CommutesOn
          (TenantInstance.reconcile other second) world := by
  have anchored := reached.isAnchored_of_passed passed
  by_cases sameText : first.text = second.text
  · -- then neither key is plain, and there is nothing under either
    have plain := (reached.isCoherent_of_passed passed).plain
    have noFirst (kind : Kind) := plain.find?_eq_none_of_text_eq kind different sameText
    have noSecond (kind : Kind) :=
      plain.find?_eq_none_of_text_eq kind different.symm sameText.symm
    exact ⟨Pass.commutesOn_of_idle (Registration.runOn_reconcile_of_absent (noFirst _))
        (Registration.runOn_reconcile_of_absent (noSecond _)),
      fun _ _ => Pass.commutesOn_of_idle (TenantInstance.runOn_reconcile_of_absent (noFirst _))
        (TenantInstance.runOn_reconcile_of_absent (noSecond _))⟩
  · exact ⟨(Registration.follows_reconcile first).commutesOn (Registration.follows_reconcile second)
        (Registration.effect_isApart sameText) anchored,
      fun settings other => (TenantInstance.follows_reconcile settings first).commutesOn
        (TenantInstance.follows_reconcile other second)
        (TenantInstance.effect_isApart sameText) anchored⟩

/-- A user applies a registration of the first tenant. -/
def enrolled (name : String) : Action :=
  .apply (.registration
    { metadata := { name := name, scope := "tenant01" }
      spec := { purpose := "demo" }
      status := {} })

/-- Two registrations of a tenant without a namespace are to be carried out, and two instances on
one target are on their way out. -/
def crossing : List Action :=
  hosting ++
    [requested { name := "web", scope := "tenant02" },
      requested { name := "api", scope := "tenant02" },
      .tick {} [], .tick {} [],
      enrolled "web", enrolled "api",
      .reconcileRegistration ⟨"tenant01", "web"⟩, .reconcileRegistration ⟨"tenant01", "api"⟩,
      .delete .tenantInstance ⟨"tenant02", "web-00000"⟩,
      .delete .tenantInstance ⟨"tenant02", "api-00000"⟩]

theorem reachable_crossing : (crossing.foldl Action.perform uniform).Reachable := by
  refine Reachable.perform_all (.start rfl rfl) crossing fun action actionMem => ?_
  simp only [crossing, hosting, onboarding, List.take_succ_cons, List.take_zero, List.cons_append,
    List.nil_append, List.mem_cons, List.not_mem_nil, or_false] at actionMem
  rcases actionMem with rfl | rfl | rfl | rfl | rfl | rfl | rfl | rfl | rfl | rfl | rfl
  -- all documents are ordinary, and nothing is asked of the rest
  all_goals first
    | trivial
    | exact ⟨⟨by decide, by decide, rfl, rfl, by decide⟩, rfl⟩

/-- Both registrations are carried out, though their namespace is not there yet, and both instances
give back their places on the one target; either order will do. -/
theorem passes_on_different_keys_commute_once_crossed :
    let world := crossing.foldl Action.perform uniform
    let web := Registration.reconcile ⟨"tenant01", "web"⟩
    let api := Registration.reconcile ⟨"tenant01", "api"⟩
    let retireWeb := TenantInstance.reconcile {} ⟨"tenant02", "web-00000"⟩
    let retireApi := TenantInstance.reconcile {} ⟨"tenant02", "api-00000"⟩
    ((world.store.list .tenantSpace).length = 0 ∧
      web.outcome? world = some .synced ∧ api.outcome? world = some .synced) ∧
    ((world.store.list .target).map (fun target => target.status.assigned.length) = [2] ∧
      retireWeb.outcome? world = some .gone ∧ retireApi.outcome? world = some .gone) ∧
    web.CommutesOn api world ∧ retireWeb.CommutesOn retireApi world := by
  intro world web api retireWeb retireApi
  have reached : world.Reachable := reachable_crossing
  have registrations := passes_on_different_keys_commute reached (.inl rfl)
    (by decide : (⟨"tenant01", "web"⟩ : ObjectKey) ≠ ⟨"tenant01", "api"⟩)
  have instances := passes_on_different_keys_commute reached (.inl rfl)
    (by decide : (⟨"tenant02", "web-00000"⟩ : ObjectKey) ≠ ⟨"tenant02", "api-00000"⟩)
  have opening : (world.store.list .tenantSpace).length = 0 ∧
      web.outcome? world = some .synced ∧ api.outcome? world = some .synced := by
    decide +kernel
  have retiring : (world.store.list .target).map (fun target => target.status.assigned.length) =
        [2] ∧
      retireWeb.outcome? world = some .gone ∧ retireApi.outcome? world = some .gone := by
    decide +kernel
  exact ⟨opening, retiring, registrations.1, instances.2 {} {}⟩

end World

end TenantFleet
