import TenantFleet.Proofs.Reports.Filter

/-!
# What a tick remembers

The memory of a tick has what a report of each deployment rests on, save for
those whose label spells no key, of which the report fails and writes nothing.
With such a memory the next tick has nothing to report.
-/

namespace TenantFleet

namespace Deployment

variable {world : World} {deployment : Deployment}

/-- The deployment has an instance, and a label that leads to no registration. -/
def IsMisdirected (store : Store) (deployment : Deployment) : Prop :=
  (∃ realised, deployment.status.instanceKey.bind (store.find? .tenantInstance) = some realised) ∧
    ∃ label, deployment.metadata.label? registrationLabel = some label ∧
      ObjectKey.ofText? label = none

theorem IsMisdirected.congr {before after : Store} (misdirected : IsMisdirected before deployment)
    (same : ∀ key, after.find? .tenantInstance key = before.find? .tenantInstance key) :
    IsMisdirected after deployment := by
  have sameInstances : after.find? .tenantInstance = before.find? .tenantInstance := funext same
  unfold IsMisdirected
  rw [sameInstances]
  exact misdirected

/-- The report of a misdirected deployment fails before it writes anything. -/
theorem IsMisdirected.runOn_reportStatus (misdirected : IsMisdirected world.store deployment)
    (present : deployment ∈ world.store.list .deployment) :
    ∃ failure, (reportStatus deployment.key).runOn world = (.error failure, world) := by
  obtain ⟨⟨realised, named⟩, label, labelled, illegible⟩ := misdirected
  refine ⟨⟨.syncStatus, .parseLabel, .malformedLabel deployment.key label⟩, ?_⟩
  unfold reportStatus
  rw [Pass.runOn_readStore_bind]
  simp only [Store.find?_key_of_mem present, named, labelled, illegible]
  rfl

theorem exists_ok_reportTo (deployment : Deployment) (realised : TenantInstance) (key : ObjectKey)
    (world : World) : ∃ written after, (reportTo deployment realised key).runOn world =
      (.ok written, after) := by
  unfold reportTo
  rw [Pass.runOn_readStore_bind]
  cases isFound : world.store.find? .registration key with
  | none => exact ⟨_, _, rfl⟩
  | some registration =>
      simp only
      split
      · exact ⟨_, _, rfl⟩
      · rw [Pass.runOn_during_bind_of_ok
          (World.runOn_restate (Store.mem_list_of_find? isFound) rfl _)]
        exact ⟨_, _, rfl⟩

/-- Only the report of a misdirected deployment fails. -/
theorem isMisdirected_of_error {failure : PassFailure}
    (present : deployment ∈ world.store.list .deployment)
    (failed : ((reportStatus deployment.key).runOn world).1 = .error failure) :
    IsMisdirected world.store deployment := by
  unfold reportStatus at failed
  rw [Pass.runOn_readStore_bind] at failed
  simp only [Store.find?_key_of_mem present] at failed
  cases named : deployment.status.instanceKey.bind (world.store.find? .tenantInstance) with
  | none =>
      rw [named] at failed
      contradiction
  | some realised =>
      simp only [named] at failed
      cases labelled : deployment.metadata.label? registrationLabel with
      | none =>
          rw [labelled] at failed
          contradiction
      | some label =>
          simp only [labelled] at failed
          cases spelled : ObjectKey.ofText? label with
          | none => exact ⟨⟨realised, named⟩, label, labelled, spelled⟩
          | some key =>
              simp only [spelled] at failed
              obtain ⟨written, after, ran⟩ := exists_ok_reportTo deployment realised key world
              rw [ran] at failed
              contradiction

end Deployment

namespace Resync

variable {world : World} {seen : Seen} {store : Store}

/-- A report of the deployment rests on what was seen, or fails. -/
def Remembers (seen : Seen) (store : Store) (deployment : Deployment) : Prop :=
  seen.lookup deployment.key = some (observe store deployment) ∨
    Deployment.IsMisdirected store deployment

theorem Remembers.congr {before after : Store} {deployment : Deployment}
    (remembers : Remembers seen before deployment)
    (same : ∀ key, after.find? .tenantInstance key = before.find? .tenantInstance key) :
    Remembers seen after deployment := by
  unfold Remembers
  rw [observe_congr same]
  exact remembers.imp_right fun misdirected => misdirected.congr same

/-- What is remembered is not reported again. -/
theorem run_reportChanges_of_remembered {deployments : List Deployment}
    (remembered : ∀ deployment ∈ deployments,
      deployment ∈ world.store.list .deployment ∧ Remembers seen world.store deployment)
    (current : Seen) (report : TickTally) :
    let ran := (reportChanges seen current report deployments).run world
    ran.2 = world ∧ ran.1.2.statusSynced = report.statusSynced := by
  induction deployments generalizing current report with
  | nil => exact ⟨rfl, rfl⟩
  | cons deployment rest ih =>
      have restRemembered := fun other otherMem =>
        remembered other (List.mem_cons_of_mem deployment otherMem)
      obtain ⟨present, known | misdirected⟩ := remembered deployment List.mem_cons_self
      · rw [run_reportChanges_cons]
        simp only [if_pos known]
        exact ih restRemembered _ _
      · rw [run_reportChanges_cons]
        simp only
        split
        next known => exact ih restRemembered _ _
        next =>
          obtain ⟨failure, ran⟩ := misdirected.runOn_reportStatus present
          rw [ran]
          exact ih restRemembered _ _

/-- The second memory has all that the first one has. -/
def Keeps (first second : Seen) : Prop :=
  ∀ key basis, first.lookup key = some basis → second.lookup key = some basis

theorem Keeps.remembers {first second : Seen} (keeps : Keeps first second)
    {deployment : Deployment} (remembers : Remembers first store deployment) :
    Remembers second store deployment :=
  remembers.imp_left (keeps _ _)

theorem keeps_append (current later : Seen) : Keeps current (current ++ later) := by
  intro key basis known
  rw [List.lookup_append, known]
  rfl

variable {current : Seen} {key other : ObjectKey}

theorem lookup_noted (unknown : current.lookup key = none) (observed : ReportBasis) :
    (current ++ [(key, observed)]).lookup key = some observed := by
  rw [List.lookup_append, unknown, Option.none_or, List.lookup_cons, beq_self_eq_true]

theorem lookup_noted_of_ne (unknown : current.lookup other = none) (different : other ≠ key)
    (observed : ReportBasis) : (current ++ [(key, observed)]).lookup other = none := by
  rw [List.lookup_append, unknown, Option.none_or, List.lookup_cons,
    beq_eq_false_iff_ne.2 different]
  rfl

/-- The memory has come to have the deployment, and besides only what was noted before. -/
structure Notes (store : Store) (deployment : Deployment) (current noted : Seen) : Prop where
  keeps : Keeps current noted
  remembers : Remembers noted store deployment
  unknown : ∀ other, other ≠ deployment.key → current.lookup other = none →
    noted.lookup other = none

theorem notes_append {deployment : Deployment} (unknown : current.lookup deployment.key = none) :
    Notes store deployment current
      (current ++ [(deployment.key, observe store deployment)]) where
  keeps := keeps_append current _
  remembers := .inl (lookup_noted unknown _)
  unknown _ different isOther := lookup_noted_of_ne isOther different _

theorem notes_of_misdirected {deployment : Deployment}
    (misdirected : Deployment.IsMisdirected store deployment) :
    Notes store deployment current current where
  keeps _ _ known := known
  remembers := .inr misdirected
  unknown _ _ isOther := isOther

/-- The report of a deployment, or its omission, notes the deployment and goes on with the rest. -/
theorem exists_notes {deployment : Deployment}
    (present : deployment ∈ world.store.list .deployment)
    (unknown : current.lookup deployment.key = none) (seen : Seen) (report : TickTally)
    (rest : List Deployment) :
    ∃ noted tally after, Notes world.store deployment current noted ∧
      Store.SameBeside .registration world.store after.store ∧
        (reportChanges seen current report (deployment :: rest)).run world =
          (reportChanges seen noted tally rest).run after := by
  rw [run_reportChanges_cons]
  simp only
  split
  next => exact ⟨_, _, world, notes_append unknown, .refl _, rfl⟩
  next =>
    have same := Deployment.sameBeside_reportStatus deployment.key world
    cases ran : (Deployment.reportStatus deployment.key).runOn world with
    | mk outcome after =>
        rw [ran] at same
        cases outcome with
        | ok written => exact ⟨_, _, after, notes_append unknown, same, rfl⟩
        | error failure =>
            have misdirected := Deployment.isMisdirected_of_error present
              (congrArg Prod.fst ran)
            exact ⟨_, _, after, notes_of_misdirected misdirected, same, rfl⟩

/-- After the reports of deployments with different keys all of them are remembered, besides what
was noted before. -/
theorem remembers_reportChanges {deployments : List Deployment}
    (present : ∀ deployment ∈ deployments, deployment ∈ world.store.list .deployment)
    (distinct : (deployments.map Object.key).Nodup) (current : Seen) (report : TickTally)
    (fresh : ∀ deployment ∈ deployments, current.lookup deployment.key = none) :
    let noted := ((reportChanges seen current report deployments).run world).1.1
    Keeps current noted ∧ ∀ deployment ∈ deployments, Remembers noted world.store deployment := by
  induction deployments generalizing current report world with
  | nil => exact ⟨fun _ _ known => known, fun _ isIn => absurd isIn List.not_mem_nil⟩
  | cons deployment rest ih =>
      obtain ⟨isOther, restDistinct⟩ := List.nodup_cons.1 distinct
      obtain ⟨noted, tally, after, notes, same, ran⟩ :=
        exists_notes (present deployment List.mem_cons_self)
          (fresh deployment List.mem_cons_self) seen report rest
      have stillPresent : ∀ other ∈ rest, other ∈ after.store.list .deployment := by
        intro other otherMem
        rw [same.list (by decide)]
        exact present other (List.mem_cons_of_mem _ otherMem)
      -- the others have other keys, so that they are still unknown
      have stillFresh : ∀ other ∈ rest, noted.lookup other.key = none := by
        intro other otherMem
        have different : other.key ≠ deployment.key := fun sameKey =>
          isOther (sameKey ▸ List.mem_map_of_mem otherMem)
        exact notes.unknown other.key different (fresh other (List.mem_cons_of_mem _ otherMem))
      obtain ⟨keepsOn, remembered⟩ := ih stillPresent restDistinct noted tally stillFresh
      simp only [ran]
      refine ⟨fun key basis known => keepsOn key basis (notes.keeps key basis known), ?_⟩
      intro other otherMem
      rcases List.mem_cons.1 otherMem with rfl | inRest
      · exact keepsOn.remembers notes.remembers
      · exact (remembered other inRest).congr fun key => (same.find? (by decide) key).symm

end Resync

end TenantFleet
