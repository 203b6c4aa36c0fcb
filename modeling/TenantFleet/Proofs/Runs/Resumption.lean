import TenantFleet.Proofs.Resumption.Deployment
import TenantFleet.Proofs.Resumption.Registration
import TenantFleet.Proofs.Resumption.TenantInstance

/-!
# Passes that are cut off in a run

Whatever state a run is in, and wherever between two of its writes a pass of a
controller is cut off, the same pass makes the writes that were left when it is
run again, and nothing shows afterwards but other times.
-/

namespace TenantFleet

/-- The controllers whose passes may write more than once. -/
inductive Controller where
  | registrations
  | deployments (settings : Settings)
  | instances (settings : Settings)

namespace Controller

def pass : Controller → ObjectKey → Pass PassFailure Outcome
  | .registrations, key => Registration.reconcile key
  | .deployments settings, key => Deployment.reconcile settings key
  | .instances settings, key => TenantInstance.reconcile settings key

/-- The pass as an action of a run. -/
def action : Controller → ObjectKey → Action
  | .registrations, key => .reconcileRegistration key
  | .deployments settings, key => .reconcileDeployment settings key
  | .instances settings, key => .reconcileInstance settings key

variable {controller : Controller} {key : ObjectKey} {world : World}

theorem perform_action (controller : Controller) (key : ObjectKey) (world : World) :
    (controller.action key).perform world = ((controller.pass key).runOn world).2 := by
  cases controller <;> rfl

theorem isOrdinary_action (controller : Controller) (key : ObjectKey) :
    (controller.action key).IsOrdinary := by
  cases controller <;> trivial

theorem resumesOn_of_isCoherent (coherent : world.store.IsCoherent) (controller : Controller)
    (key : ObjectKey) : (controller.pass key).ResumesOn world := by
  cases controller with
  | registrations => exact Registration.resumes_reconcile coherent key
  | deployments settings => exact Deployment.resumes_reconcile coherent settings key
  | instances settings => exact TenantInstance.resumes_reconcile settings key world

/-- What a pass leaves on its way is coherent. -/
theorem isCoherent_of_wrote (coherent : world.store.IsCoherent) {stores : List Store}
    (wrote : world.Wrote stores ((controller.pass key).runOn world).2) :
    ∀ store ∈ stores, store.IsCoherent := by
  have through := (controller.action key).through_perform world
  obtain ⟨stores', wrote', all⟩ := through.exists_wrote Store.IsCoherent
    (fun holds written => written.isCoherent holds (controller.isOrdinary_action key)) coherent
  rw [perform_action] at wrote'
  rw [wrote.eq_of_wrote wrote']
  exact all

end Controller

/-- Targets list nothing twice, and times do not come into it. -/
theorem Store.IsCoherent.nodup_assigned {store later : Store} (coherent : store.IsCoherent)
    (same : store.timeless = later.timeless) {target : Target}
    (present : target ∈ later.list .target) : target.status.assigned.Nodup := by
  have isListed : target.timeless ∈ store.timeless.list .target := by
    rw [same, Store.list_timeless]
    exact List.mem_map_of_mem present
  rw [Store.list_timeless] at isListed
  obtain ⟨original, originalPresent, sameTarget⟩ := List.mem_map.1 isListed
  have sameStatus : original.timeless.status = target.timeless.status := by rw [sameTarget]
  have sound : Target.IsSound original := coherent.sound .target original originalPresent
  change original.status = target.status at sameStatus
  rw [← sameStatus]
  exact sound

namespace World

variable {origin world : World}

/-- In every state of a run a pass makes writes, of which it may be cut off behind any but the
last.  Run again on a world with the store that was left there, whatever is drawn in it, the pass
makes as many writes as were missing, the same but for the times, and ends like the pass that was
not cut off.  It makes no instance that was not there, and no target lists an instance twice. -/
theorem passes_resume_after_any_cut (reached : origin.Reachable)
    (passed : origin.Passed world.store) (controller : Controller) (key : ObjectKey) :
    ∃ writes, ((controller.pass key).runOn world).2.journal = world.journal ++ writes ∧
      ∀ count, 0 < count → count < writes.length →
        ∀ cut : World, writes[count - 1]? = some cut.store →
          ∃ again, ((controller.pass key).runOn cut).2.journal = cut.journal ++ again ∧
            again.length = writes.length - count ∧
            again.map Store.timeless = (writes.drop count).map Store.timeless ∧
            ((controller.pass key).runOn cut).2.store.timeless =
              ((controller.pass key).runOn world).2.store.timeless ∧
            ∀ later ∈ again, later.instanceKeys ⊆ cut.store.instanceKeys ∧
              ∀ target ∈ later.list .target, target.status.assigned.Nodup := by
  have coherent := reached.isCoherent_of_passed passed
  obtain ⟨writes, wrote, resumes⟩ := controller.resumesOn_of_isCoherent coherent key
  have allCoherent := Controller.isCoherent_of_wrote coherent wrote
  refine ⟨writes, wrote.noted, fun count positive within cut isCut => ?_⟩
  obtain ⟨again, wroteAgain, alike, sameEnd, sameInstances⟩ :=
    resumes.after_cut wrote positive within isCut
  refine ⟨again, wroteAgain.noted, ?_, alike, sameEnd,
    fun later laterMem => ⟨sameInstances later laterMem, fun target present => ?_⟩⟩
  · have sameLength := congrArg List.length alike
    rwa [List.length_map, List.length_map, List.length_drop] at sameLength
  · have laterAlike : later.timeless ∈ (writes.drop count).map Store.timeless := by
      rw [← alike]
      exact List.mem_map_of_mem laterMem
    obtain ⟨original, originalMem, same⟩ := List.mem_map.1 laterAlike
    exact (allCoherent original (List.mem_of_mem_drop originalMem)).nodup_assigned same present

/-- The deployment of the onboarding gets its instance, then its place, then its status; the pass
that was cut off with the instance made sees to the other two. -/
theorem passes_resume_once_onboarded :
    ∃ writes, writes.length = 3 ∧
      (((Controller.deployments {}).pass ⟨"tenant01", "web"⟩).runOn onboarded).2.journal =
        onboarded.journal ++ writes ∧
      ∀ cut : World, writes[0]? = some cut.store → ∃ again, again.length = 2 ∧
        (((Controller.deployments {}).pass ⟨"tenant01", "web"⟩).runOn cut).2.journal =
          cut.journal ++ again ∧
        again.map Store.timeless = (writes.drop 1).map Store.timeless := by
  have longer : (((Controller.deployments {}).pass ⟨"tenant01", "web"⟩).runOn
      onboarded).2.journal.length = onboarded.journal.length + 3 := by
    decide +kernel
  obtain ⟨writes, noted, resumed⟩ := passes_resume_after_any_cut reachable_onboarded (.inl rfl)
    (.deployments {}) ⟨"tenant01", "web"⟩
  have three : writes.length = 3 := by
    rw [noted, List.length_append] at longer
    exact Nat.add_left_cancel longer
  refine ⟨writes, three, noted, fun cut isCut => ?_⟩
  obtain ⟨again, notedAgain, twoLeft, alike, -⟩ :=
    resumed 1 Nat.one_pos (by rw [three]; decide) cut isCut
  rw [three] at twoLeft
  exact ⟨again, twoLeft, notedAgain, alike⟩

end World

end TenantFleet
