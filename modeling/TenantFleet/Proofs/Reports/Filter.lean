import TenantFleet.Proofs.Reports.Heritage

/-!
# Reports that may be left out

A report of a deployment whose registration shows the deployment's statuses
already does nothing, so it may be left out.  Where all reports that are left
out are of that sort, what a tick reports comes to the same as reporting on
every deployment, and afterwards every registration shows what was seen.
-/

namespace TenantFleet

/-- The registration shows what a report resting on the basis tells. -/
def Registration.Shows (registration : Registration) (basis : ReportBasis) : Prop :=
  ∀ status, basis.realised = some status →
    registration.status.lastError = status.lastError.or basis.deployment.lastError ∧
      registration.status.userKubeconfig = status.userKubeconfig

/-- The registration that the deployment under `key` was derived from shows the basis. -/
def Store.Shows (store : Store) (key : ObjectKey) (basis : ReportBasis) : Prop :=
  ∀ (deployment : Deployment) (registration : Registration),
    store.find? .deployment key = some deployment →
    deployment.metadata.label? registrationLabel = some key.text →
      store.find? .registration key = some registration → registration.Shows basis

/-- What a report of the deployment under `key` turns on beside the statuses of the deployment and
its instance: the deployment's label, and what the registration shows already. -/
def Store.footing (store : Store) (key : ObjectKey) :
    Option String × Option (Option FailureRecord × String) :=
  ((store.find? .deployment key).bind fun deployment =>
      deployment.metadata.label? registrationLabel,
    (store.find? .registration key).map fun registration =>
      (registration.status.lastError, registration.status.userKubeconfig))

theorem Registration.shows_iff {registration : Registration} {deployment : Deployment}
    {realised : TenantInstance} {basis : ReportBasis}
    (isDeployment : basis.deployment = deployment.status)
    (isRealised : basis.realised = some realised.status) :
    registration.Shows basis ↔
      registration.reportedStatus deployment realised = registration.status := by
  unfold Shows reportedStatus
  rw [isDeployment, isRealised]
  constructor
  · intro shown
    obtain ⟨sameError, sameAccess⟩ := shown _ rfl
    rw [← sameError, ← sameAccess]
  · rintro same status ⟨⟩
    rw [← same]
    exact ⟨rfl, rfl⟩

namespace Store

variable {store after : Store} {owned : String → Prop} {key : ObjectKey} {basis : ReportBasis}

theorem shows_of_find? {registration : Registration}
    (isFound : store.find? .registration key = some registration)
    (shows : registration.Shows basis) : store.Shows key basis := by
  intro _ other _ _ otherFound
  obtain rfl := Option.some.inj (isFound.symm.trans otherFound)
  exact shows

theorem shows_of_absent (absent : store.find? .registration key = none) :
    store.Shows key basis := by
  intro _ other _ _ otherFound
  rw [absent] at otherFound
  contradiction

theorem shows_of_unlabelled {deployment : Deployment}
    (isFound : store.find? .deployment key = some deployment)
    (unlabelled : deployment.metadata.label? registrationLabel = none) :
    store.Shows key basis := by
  intro other _ otherFound labelled
  obtain rfl := Option.some.inj (isFound.symm.trans otherFound)
  rw [unlabelled] at labelled
  contradiction

theorem shows_of_unrealised (unrealised : basis.realised = none) : store.Shows key basis := by
  intro _ _ _ _ _ status isRealised
  rw [unrealised] at isRealised
  contradiction

/-- What a registration shows it goes on showing as long as its key is not another's to change. -/
theorem Inherits.shows (inherits : store.Inherits owned after) (free : ¬ owned key.text)
    (shown : store.Shows key basis) : after.Shows key basis := by
  intro later laterRegistration laterFound labelled registrationFound
  obtain ⟨deployment, present, sameText, wasLabelled⟩ :=
    (inherits.labels later (mem_list_of_find? laterFound) _ labelled).resolve_right
      fun own => free own.2
  have isText := keyText_of_find? registrationFound
  rcases inherits.statuses laterRegistration (mem_list_of_find? registrationFound) with
    ⟨registration, isStored, sameRegistration, sameStatus⟩ | own | unnamed
  · have shows := shown deployment registration
      (find?_eq_some_of_mem present (sameText.trans (keyText_of_find? laterFound))) wasLabelled
      (find?_eq_some_of_mem isStored (sameRegistration.trans isText))
    unfold Registration.Shows
    rw [← sameStatus]
    exact shows
  · exact absurd (isText ▸ own) free
  · exact absurd (isText ▸ wasLabelled) (unnamed deployment present)

end Store

theorem Store.shows_of_footing_eq {store after : Store} {key : ObjectKey} {basis : ReportBasis}
    (shown : store.Shows key basis) (same : after.footing key = store.footing key) :
    after.Shows key basis := by
  intro later laterRegistration laterFound labelled registrationFound status isStatus
  unfold Store.footing at same
  rw [laterFound, registrationFound] at same
  obtain ⟨sameLabel, sameShown⟩ := Prod.mk.inj same
  obtain ⟨deployment, isFound, wasLabelled⟩ :=
    Option.bind_eq_some_iff.1 (sameLabel.symm.trans labelled)
  obtain ⟨registration, wasFound, sameFields⟩ := Option.map_eq_some_iff.1 sameShown.symm
  obtain ⟨sameError, sameAccess⟩ := Prod.mk.inj sameFields
  rw [← sameError, ← sameAccess]
  exact shown deployment registration isFound wasLabelled wasFound status isStatus

theorem Store.SameBeside.labelsOwn {before after : Store}
    (same : Store.SameBeside .registration before after) (labelsOwn : before.LabelsOwn) :
    after.LabelsOwn := by
  unfold LabelsOwn
  rw [same.list (by decide)]
  exact labelsOwn

namespace Deployment

variable {world : World} {deployment : Deployment}

/-- What becomes of the report of a deployment. -/
inductive ReportCase (world : World) (deployment : Deployment) : Prop
  /-- Nothing is written, and unless the report has failed there is nothing to tell. -/
  | quiet (outcome : Except PassFailure Bool)
      (ran : (reportStatus deployment.key).runOn world = (outcome, world))
      (shown : (∃ value, outcome = .ok value) →
        world.store.Shows deployment.key (Resync.observe world.store deployment))
  /-- The registration is told what it did not show. -/
  | told (registration : Registration) (status : RegistrationStatus)
      (isFound : world.store.find? .registration deployment.key = some registration)
      (labelled : deployment.metadata.label? registrationLabel = some deployment.key.text)
      (ran : (reportStatus deployment.key).runOn world =
        (.ok true, world.commit
          (world.store.write (some registration) (world.store.restated registration status))))
      (hidden : ¬ registration.Shows (Resync.observe world.store deployment))
      (shows : ∀ next : Registration, next.status = status →
        next.Shows (Resync.observe world.store deployment))

theorem runOn_reportTo (deployment : Deployment) (realised : TenantInstance) {key : ObjectKey}
    {registration : Registration}
    (isFound : world.store.find? .registration key = some registration) :
    (reportTo deployment realised key).runOn world =
      let status := registration.reportedStatus deployment realised
      if status = registration.status then (.ok false, world)
      else (.ok true, world.commit
        (world.store.write (some registration) (world.store.restated registration status))) := by
  unfold reportTo
  rw [Pass.runOn_readStore_bind, isFound]
  simp only
  split
  next => rfl
  next =>
    rw [Pass.runOn_during_bind_of_ok
      (World.runOn_restate (Store.mem_list_of_find? isFound) rfl _)]
    rfl

theorem runOn_reportStatus (present : deployment ∈ world.store.list .deployment) :
    (reportStatus deployment.key).runOn world =
      match deployment.status.instanceKey.bind (world.store.find? .tenantInstance) with
      | none => (.ok false, world)
      | some realised =>
          match deployment.metadata.label? registrationLabel with
          | none => (.ok false, world)
          | some label =>
              match ObjectKey.ofText? label with
              | none =>
                  (.error ⟨.syncStatus, .parseLabel, .malformedLabel deployment.key label⟩, world)
              | some key => (reportTo deployment realised key).runOn world := by
  rw [reportStatus, Pass.runOn_readStore_bind, Store.find?_key_of_mem present]
  simp only
  cases deployment.status.instanceKey.bind (world.store.find? .tenantInstance) with
  | none => rfl
  | some realised =>
      cases deployment.metadata.label? registrationLabel with
      | none => rfl
      | some label =>
          cases spelled : ObjectKey.ofText? label with
          | none => simp only [spelled]; rfl
          | some other => simp only [spelled]

/-- A deployment with an instance and a label reports to the registration of its key, if there is
one. -/
theorem reportCase_of_realised {realised : TenantInstance} {key : ObjectKey}
    (named : deployment.status.instanceKey.bind (world.store.find? .tenantInstance) =
      some realised)
    (labelled : deployment.metadata.label? registrationLabel = some deployment.key.text)
    (spelled : ObjectKey.ofText? deployment.key.text = some key)
    (begun : (reportStatus deployment.key).runOn world =
      (reportTo deployment realised key).runOn world) : ReportCase world deployment := by
  -- names may have slashes in them, so `key` need not be the deployment's own
  have sameText : key.text = deployment.key.text := ObjectKey.text_of_ofText? spelled
  have isRealised : (Resync.observe world.store deployment).realised = some realised.status := by
    simp [Resync.observe, named]
  cases isFound : world.store.find? .registration key with
  | none =>
      refine .quiet (.ok false) (begun.trans ?_) fun _ => Store.shows_of_absent ?_
      · rw [reportTo, Pass.runOn_readStore_bind, isFound]
        rfl
      · rw [Store.find?, ← sameText]
        exact isFound
  | some registration =>
      have found : world.store.find? .registration deployment.key = some registration := by
        rw [Store.find?, ← sameText]
        exact isFound
      have shown_iff : Registration.Shows registration _ ↔ _ :=
        Registration.shows_iff rfl isRealised
      rw [runOn_reportTo deployment realised isFound] at begun
      by_cases same :
          Registration.reportedStatus registration deployment realised = registration.status
      · simp only [if_pos same] at begun
        exact .quiet _ begun fun _ => Store.shows_of_find? found (shown_iff.2 same)
      · simp only [if_neg same] at begun
        refine .told registration _ found labelled begun (fun shows => same (shown_iff.1 shows)) ?_
        intro next isStatus status isSeen
        obtain rfl := Option.some.inj (isRealised.symm.trans isSeen)
        rw [isStatus]
        exact ⟨rfl, rfl⟩

theorem reportCase (labelsOwn : world.store.LabelsOwn)
    (present : deployment ∈ world.store.list .deployment) : ReportCase world deployment := by
  have isFound := Store.find?_key_of_mem present
  have begun := runOn_reportStatus present
  cases named : deployment.status.instanceKey.bind (world.store.find? .tenantInstance) with
  | none =>
      simp only [named] at begun
      exact .quiet _ begun fun _ => Store.shows_of_unrealised (by simp [Resync.observe, named])
  | some realised =>
      cases labelled : deployment.metadata.label? registrationLabel with
      | none =>
          simp only [named, labelled] at begun
          exact .quiet _ begun fun _ => Store.shows_of_unlabelled isFound labelled
      | some label =>
          obtain rfl : label = deployment.key.text := labelsOwn deployment present label labelled
          cases spelled : ObjectKey.ofText? deployment.key.text with
          | none =>
              simp only [named, labelled, spelled] at begun
              exact .quiet _ begun fun ⟨value, isOk⟩ => by contradiction
          | some key =>
              simp only [named, labelled, spelled] at begun
              exact reportCase_of_realised named labelled spelled begun

theorem runOn_reportStatus_of_shows (labelsOwn : world.store.LabelsOwn)
    (present : deployment ∈ world.store.list .deployment)
    (shown : world.store.Shows deployment.key (Resync.observe world.store deployment)) :
    ((reportStatus deployment.key).runOn world).2 = world := by
  cases reportCase labelsOwn present with
  | quiet outcome ran => rw [ran]
  | told registration status isFound labelled ran hidden =>
      exact absurd
        (shown deployment registration (Store.find?_key_of_mem present) labelled isFound) hidden

theorem shows_of_reportStatus (labelsOwn : world.store.LabelsOwn)
    (present : deployment ∈ world.store.list .deployment)
    {value : Bool} {after : World}
    (ran : (reportStatus deployment.key).runOn world = (.ok value, after)) :
    after.store.Shows deployment.key (Resync.observe world.store deployment) := by
  cases reportCase labelsOwn present with
  | quiet outcome idle shown =>
      obtain ⟨rfl, rfl⟩ := Prod.mk.inj (idle.symm.trans ran)
      exact shown ⟨value, rfl⟩
  | told registration status isFound labelled wrote hidden shows =>
      obtain ⟨-, rfl⟩ := Prod.mk.inj (wrote.symm.trans ran)
      have isText : (world.store.restated registration status).keyText = deployment.key.text :=
        (Store.keyText_restated _ registration status).trans (Store.keyText_of_find? isFound)
      have written := Store.find?_write world.store (some registration)
        (world.store.restated registration status) deployment.key
      rw [if_pos isText] at written
      exact Store.shows_of_find? written (shows _ rfl)

theorem sameBeside_reportStatus (key : ObjectKey) (world : World) :
    Store.SameBeside .registration world.store ((reportStatus key).runOn world).2.store :=
  (through_reportStatus key world).preserves (Store.SameBeside .registration world.store)
    (fun same written => same.trans written.sameBeside) (.refl world.store)

theorem shows_reportStatus_of_ne {key other : ObjectKey} {basis : ReportBasis}
    (labelsOwn : world.store.LabelsOwn) (different : other.text ≠ key.text)
    (shown : world.store.Shows other basis) :
    ((reportStatus key).runOn world).2.store.Shows other basis :=
  ((through_reportStatus key world).preserves
    (fun store => store.LabelsOwn ∧ store.Shows other basis)
    (fun holds written =>
      ⟨written.sameBeside.labelsOwn holds.1, (written.inherits holds.1).shows different holds.2⟩)
    ⟨labelsOwn, shown⟩).2

end Deployment

theorem Resync.observe_congr {before after : Store}
    (same : ∀ key, after.find? .tenantInstance key = before.find? .tenantInstance key)
    (deployment : Deployment) : observe after deployment = observe before deployment := by
  have sameInstances : after.find? .tenantInstance = before.find? .tenantInstance := funext same
  rw [observe, sameInstances]
  rfl

namespace Resync

/-- Report the statuses of the deployments, whatever was seen before. -/
def reportAll : TickTally → List Deployment → StateM World TickTally
  | report, [] => return report
  | report, deployment :: rest => do
      let outcome ← (Deployment.reportStatus deployment.key).run
      reportAll (report.countReport outcome) rest

/-- The deployments are stored, and what was seen of them already is shown. -/
structure IsReportable (seen : Seen) (store : Store) (deployments : List Deployment) : Prop where
  labelsOwn : store.LabelsOwn
  present : ∀ deployment ∈ deployments, deployment ∈ store.list .deployment
  distinct : deployments.Pairwise fun first second => second.keyText ≠ first.keyText
  known : ∀ deployment ∈ deployments,
    seen.lookup deployment.key = some (observe store deployment) →
      store.Shows deployment.key (observe store deployment)

variable {seen : Seen} {world : World} {deployment : Deployment} {rest : List Deployment}

theorem IsReportable.tail {store : Store}
    (reportable : IsReportable seen store (deployment :: rest)) : IsReportable seen store rest where
  labelsOwn := reportable.labelsOwn
  present other otherMem := reportable.present other (List.mem_cons_of_mem _ otherMem)
  distinct := (List.pairwise_cons.1 reportable.distinct).2
  known other otherMem := reportable.known other (List.mem_cons_of_mem _ otherMem)

theorem IsReportable.report (reportable : IsReportable seen world.store (deployment :: rest)) :
    IsReportable seen ((Deployment.reportStatus deployment.key).runOn world).2.store rest := by
  have same := Deployment.sameBeside_reportStatus deployment.key world
  have sameDeployments : ((Deployment.reportStatus deployment.key).runOn world).2.store.list
      .deployment = world.store.list .deployment := same.list (by decide)
  refine { reportable.tail with
    labelsOwn := same.labelsOwn reportable.labelsOwn
    present := fun other otherMem => ?_
    known := fun other otherMem isSeen => ?_ }
  · rw [sameDeployments]
    exact reportable.tail.present other otherMem
  · rw [observe_congr (same.find? (by decide))] at isSeen ⊢
    have different := (List.pairwise_cons.1 reportable.distinct).1 other otherMem
    exact Deployment.shows_reportStatus_of_ne reportable.labelsOwn different
      (reportable.tail.known other otherMem isSeen)

theorem run_reportAll_cons (report : TickTally) (deployment : Deployment)
    (rest : List Deployment) (world : World) :
    (reportAll report (deployment :: rest)).run world =
      (reportAll (report.countReport ((Deployment.reportStatus deployment.key).runOn world).1)
        rest).run ((Deployment.reportStatus deployment.key).runOn world).2 := rfl

/-- Leaving out what was seen comes to the same as reporting everything. -/
theorem world_reportChanges (deployments : List Deployment) (current : Seen)
    (report reportAgain : TickTally) (world : World)
    (reportable : IsReportable seen world.store deployments) :
    ((reportChanges seen current report deployments).run world).2 =
      ((reportAll reportAgain deployments).run world).2 := by
  -- what was seen stays shown, since a report changes the registration of its own key only
  induction deployments generalizing current report reportAgain world with
  | nil => rfl
  | cons deployment rest ih =>
      rw [run_reportChanges_cons, run_reportAll_cons]
      simp only
      split
      next isSeen =>
        have idle := Deployment.runOn_reportStatus_of_shows reportable.labelsOwn
          (reportable.present deployment List.mem_cons_self)
          (reportable.known deployment List.mem_cons_self isSeen)
        rw [idle]
        exact ih _ _ _ _ reportable.tail
      next => exact ih _ _ _ _ reportable.report

/-- What was seen so far is shown, and is of other deployments than those still to be reported. -/
def ShowsSoFar (store : Store) (current : Seen) (deployments : List Deployment) : Prop :=
  ∀ entry ∈ current, store.Shows entry.1 entry.2 ∧
    ∀ deployment ∈ deployments, entry.1.text ≠ deployment.keyText

theorem ShowsSoFar.tail {store : Store} {current : Seen}
    (soFar : ShowsSoFar store current (deployment :: rest)) : ShowsSoFar store current rest :=
  fun entry entryMem => ⟨(soFar entry entryMem).1,
    fun other otherMem => (soFar entry entryMem).2 other (List.mem_cons_of_mem _ otherMem)⟩

theorem ShowsSoFar.report {current : Seen}
    (soFar : ShowsSoFar world.store current (deployment :: rest))
    (labelsOwn : world.store.LabelsOwn) :
    ShowsSoFar ((Deployment.reportStatus deployment.key).runOn world).2.store current rest :=
  fun entry entryMem =>
    ⟨Deployment.shows_reportStatus_of_ne labelsOwn
      ((soFar entry entryMem).2 deployment List.mem_cons_self) (soFar entry entryMem).1,
      (soFar.tail entry entryMem).2⟩

theorem ShowsSoFar.append {store : Store} {current : Seen} {basis : ReportBasis}
    (soFar : ShowsSoFar store current rest) (shows : store.Shows deployment.key basis)
    (distinct : (deployment :: rest).Pairwise fun first second => second.keyText ≠ first.keyText) :
    ShowsSoFar store (current ++ [(deployment.key, basis)]) rest := by
  intro entry entryMem
  rcases List.mem_append.1 entryMem with earlier | isNew
  · exact soFar entry earlier
  · obtain rfl := List.mem_singleton.1 isNew
    exact ⟨shows, fun other otherMem => ((List.pairwise_cons.1 distinct).1 other otherMem).symm⟩

theorem shows_reportChanges (deployments : List Deployment) (current : Seen) (report : TickTally)
    (world : World) (reportable : IsReportable seen world.store deployments)
    (soFar : ShowsSoFar world.store current deployments) :
    ∀ entry ∈ ((reportChanges seen current report deployments).run world).1.1,
      ((reportChanges seen current report deployments).run world).2.store.Shows
        entry.1 entry.2 := by
  induction deployments generalizing current report world with
  | nil => exact fun entry entryMem => (soFar entry entryMem).1
  | cons deployment rest ih =>
      have present := reportable.present deployment List.mem_cons_self
      rw [run_reportChanges_cons]
      simp only
      split
      next isSeen =>
        have shows := reportable.known deployment List.mem_cons_self isSeen
        exact ih _ _ _ reportable.tail (soFar.tail.append shows reportable.distinct)
      next =>
        have stillReportable := reportable.report
        have stillShows := soFar.report reportable.labelsOwn
        cases ran : (Deployment.reportStatus deployment.key).runOn world with
        | mk outcome after =>
            rw [ran] at stillReportable stillShows
            cases outcome with
            | error failure => exact ih _ _ _ stillReportable stillShows
            | ok value =>
                have shows := Deployment.shows_of_reportStatus reportable.labelsOwn present ran
                exact ih _ _ _ stillReportable (stillShows.append shows reportable.distinct)

end Resync

end TenantFleet
