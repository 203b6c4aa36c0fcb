import TenantFleet.Draws
import TenantFleet.Proofs.Passes.Outcomes
import TenantFleet.Proofs.Passes.StatusWriters
import TenantFleet.Proofs.Resumption.Trail
import TenantFleet.Proofs.Runs.Reachable
import TenantFleet.Proofs.Store.Requests

/-!
# Neither writer undoes the other

The passes on registrations and the reports of deployments take turns as they
may, and fail as they may.  What one of them has brought to a status, no number
of turns of the other takes away.
-/

namespace TenantFleet

namespace World

theorem through_registrationPasses (keys : List ObjectKey) (world : World) :
    Through (fun before after => ∃ key, Registration.Write key before after) world
      ((keys.map Action.reconcileRegistration).foldl Action.perform world) := by
  rw [List.foldl_map]
  exact .foldl keys world fun key _ middle =>
    (Registration.through_reconcile key middle).mono fun written => ⟨key, written⟩

theorem through_reports (keys : List ObjectKey) (world : World) :
    Through (fun before after => ∃ key ∈ keys, Deployment.Report key before after) world
      ((keys.map Action.syncStatus).foldl Action.perform world) := by
  rw [List.foldl_map]
  exact .foldl keys world fun key keyMem middle =>
    (Deployment.through_reportStatus key middle).mono fun written => ⟨key, keyMem, written⟩

/-- The stores that any number of registration passes write have the access files from before. -/
theorem exists_wrote_registrationPasses (keys : List ObjectKey) (world : World) :
    ∃ stores,
      world.Wrote stores ((keys.map Action.reconcileRegistration).foldl Action.perform world) ∧
        ∀ store ∈ stores, world.store.Evolves .registration Registration.SameAccess store := by
  refine (through_registrationPasses keys world).exists_wrote _ ?_
    (Store.evolves_refl Registration.SameAccess.refl world.store)
  rintro first second evolves ⟨key, written⟩
  exact evolves.trans written.evolves fun earlier later => later.trans earlier

/-- The stores that any number of reports write differ from the one before by what reports tell. -/
theorem exists_wrote_reports (keys : List ObjectKey) (world : World) :
    ∃ stores, world.Wrote stores ((keys.map Action.syncStatus).foldl Action.perform world) ∧
      ∀ store ∈ stores, world.store.OnlyReports keys store := by
  refine (through_reports keys world).exists_wrote _ ?_ (.refl world.store)
  rintro first second reports ⟨key, keyMem, written⟩
  exact reports.trans (written.onlyReports keyMem)

/-- Whatever has been done, by these two or by others: no pass on a registration, however it ends,
changes the access file of any; no report changes anything but the last error and the access file
of the registrations that the deployments name; and a report that is made once more has nothing to
write. -/
theorem status_writers_keep_apart (world : World) (front : List Action) :
    let before := front.foldl Action.perform world
    (∀ keys : List ObjectKey, ∃ stores,
      before.Wrote stores ((keys.map Action.reconcileRegistration).foldl Action.perform before) ∧
        ∀ store ∈ stores, before.store.Evolves .registration Registration.SameAccess store) ∧
    (∀ keys : List ObjectKey, ∃ stores,
      before.Wrote stores ((keys.map Action.syncStatus).foldl Action.perform before) ∧
        ∀ store ∈ stores, before.store.OnlyReports keys store) ∧
    ∀ key told after, (Deployment.reportStatus key).runOn before = (.ok told, after) →
      (Deployment.reportStatus key).runOn after = (.ok false, after) := by
  intro before
  exact ⟨fun keys => exists_wrote_registrationPasses keys before,
    fun keys => exists_wrote_reports keys before,
    fun _ _ _ ran => Deployment.runOn_reportStatus_again ran⟩

/-- An instance has an access file, and the registration from which it comes has a new spec. -/
def delivery : List Request :=
  let suffix := (scatteredSuffixes 0).value
  let instanceKey : ObjectKey := ⟨"tenant01", "web-1"⟩
  let registration : Registration :=
    { metadata := { name := "web", scope := "tenant01", finalizers := [finalizer] }
      spec := { purpose := "demo" }
      status := {} }
  let deployment : Deployment :=
    { metadata :=
        { name := "web", scope := "tenant01"
          labels := Labels.set .empty registrationLabel "tenant01/web" }
      spec := { tenantId := "tenant01", purpose := "trial" }
      status := { instanceKey := some instanceKey } }
  let realised : TenantInstance :=
    { metadata := { name := "web-1", scope := "tenant01" }
      spec := { tenantId := "tenant01", id := "id", targetKey := ⟨"fleet", "east"⟩ }
      status := { userKubeconfig := "access" } }
  [.create registration 5 suffix, .create deployment 6 suffix, .create realised 7 suffix]

/-- The access file is told and then kept by the pass that follows; the generation that the pass
observes is kept by the next report, which has nothing to tell. -/
theorem status_writers_keep_apart_on_delivery :
    let start := World.around (History.ofRequests delivery).store 0 0
    let key : ObjectKey := ⟨"tenant01", "web"⟩
    let before := [Action.syncStatus key, .reconcileRegistration key].foldl Action.perform start
    ((before.store.find? .registration key).map fun registration =>
      (registration.status.observedGeneration, registration.status.userKubeconfig)) =
        some (1, "access") ∧
      before.journal.length = 4 ∧
      ∃ after, (Deployment.reportStatus key).runOn before = (.ok false, after) ∧
        (Deployment.reportStatus key).runOn after = (.ok false, after) := by
  intro start key before
  have bothTold : ((before.store.find? .registration key).map fun registration =>
      (registration.status.observedGeneration, registration.status.userKubeconfig)) =
        some (1, "access") := by
    decide +kernel
  have longer : before.journal.length = 4 := by decide +kernel
  have said : (Deployment.reportStatus key).outcome? before = some false := by decide +kernel
  obtain ⟨after, ran⟩ := Pass.exists_of_outcome? said
  obtain ⟨-, -, again⟩ :=
    status_writers_keep_apart start [.syncStatus key, .reconcileRegistration key]
  exact ⟨bothTold, longer, after, ran, again key false after ran⟩

end World

end TenantFleet
