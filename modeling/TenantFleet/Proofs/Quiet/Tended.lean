import TenantFleet.Proofs.Quiet.Marks
import TenantFleet.Proofs.Derivation.Naming
import TenantFleet.Proofs.Runs.Teardown

/-!
# What a tick leaves

Whatever a tick begins with, at its end every registration and every deployment
has the finalizer, the marked ones have handed their marks down, and no instance
is marked, since those that were are let go in the same tick.
-/

namespace TenantFleet

namespace Store

variable {store after : Store} {kind : Kind} {among : String → Prop}

/-- The objects of the kind whose keys are among the given have the finalizer. -/
def Holds (store : Store) (kind : Kind) (among : String → Prop) : Prop :=
  ∀ object ∈ store.list kind, among object.keyText → object.isHeld = true

/-- What holds in every state of a run, and with which the passes get by. -/
structure IsOrderly (store : Store) : Prop where
  coherent : store.IsCoherent
  unspent : store.IsUnspent
  reviewed : store.ReviewsRegistrations

/-- Everything that is there to stay has the finalizer, and all that goes is going. -/
structure IsTended (store : Store) : Prop where
  registrations : store.Holds .registration fun _ => True
  deployments : store.Holds .deployment fun _ => True
  derived : store.HandsDown .registration .deployment registrationLabel
  made : store.HandsDown .deployment .tenantInstance deploymentLabel
  instances : store.LacksMarks .tenantInstance

namespace Holds

theorem congr (holds : store.Holds kind among) (same : after.list kind = store.list kind) :
    after.Holds kind among := by
  intro object present
  rw [same] at present
  exact holds object present

theorem write (holds : store.Holds kind among) (previous : Option (Object kind))
    {next : Object kind} (ofNext : among next.keyText → next.isHeld = true) :
    (store.write previous next).Holds kind among := by
  intro object present
  rcases mem_list_write.1 present with rfl | ⟨wasPresent, -⟩
  · exact ofNext
  · exact holds object wasPresent

theorem restated (holds : store.Holds kind among) {stored : Object kind}
    (present : stored ∈ store.list kind) (status : kind.Status) :
    (store.write (some stored) (store.restated stored status)).Holds kind among :=
  holds.write _ (holds stored present)

theorem hold (holds : store.Holds kind among) {stored : Object kind}
    (unmarked : stored.isMarked = false) :
    (store.supplant stored (store.replacement stored stored.hold)).Holds kind among := by
  rw [supplant_of_unmarked unmarked]
  exact holds.write _ fun _ => stored.isHeld_hold

theorem letGo (holds : store.Holds kind among) {stored : Object kind}
    (marked : stored.isMarked = true) (own : stored.metadata.HasOwnFinalizers) :
    (store.supplant stored (store.replacement stored stored.letGo)).Holds kind among := by
  rw [supplant_of_spent (isSpent_letGo marked own)]
  intro object present
  rw [list_with_lastVersion] at present
  exact holds object (mem_list_remove.1 present).1

end Holds

/-- The object that was given the finalizer has it. -/
theorem holds_hold {stored : Object kind} (unmarked : stored.isMarked = false) :
    (store.supplant stored (store.replacement stored stored.hold)).Holds kind
      (· = stored.keyText) := by
  rw [supplant_of_unmarked unmarked]
  intro object present isOwn
  rcases mem_list_write.1 present with rfl | ⟨-, apart⟩
  · exact stored.isHeld_hold
  · have sameText : stored.hold.keyText = stored.keyText := congrArg ObjectKey.text stored.key_hold
    exact absurd (isOwn.trans sameText.symm) apart

end Store

variable {store after : Store} {key : ObjectKey} {world : World} {settings : Settings}
  {among : String → Prop}

theorem Resync.Write.isOrderly (written : Resync.Write store after) (orderly : store.IsOrderly) :
    after.IsOrderly where
  coherent := written.isCoherent orderly.coherent
  unspent := written.edit.isUnspent orderly.unspent
  reviewed := written.reviewsRegistrations orderly.reviewed

theorem World.Through.isOrderly {before after : World}
    (through : World.Through Resync.Write before after) (orderly : before.store.IsOrderly) :
    after.store.IsOrderly :=
  through.preserves Store.IsOrderly (fun holds written => written.isOrderly holds) orderly

/-- A pass that gives the finalizer to an object without it, and takes it from none, leaves its
object with the finalizer. -/
theorem Store.holds_of_pass {α : Type} {kind : Kind} {pass : Pass PassFailure α}
    (unspent : world.store.IsUnspent)
    (own : ∀ object ∈ world.store.list kind, object.metadata.HasOwnFinalizers)
    (kept : world.store.Holds kind (· = key.text) →
      (pass.runOn world).2.store.Holds kind (· = key.text))
    (given : ∀ found : Object kind, world.store.find? kind key = some found →
      found.isMarked = false → found.isHeld = false → (pass.runOn world).2.store =
        world.store.supplant found (world.store.replacement found found.hold)) :
    (pass.runOn world).2.store.Holds kind (· = key.text) := by
  cases isFound : world.store.find? kind key with
  | none =>
      exact kept fun other present isOwn =>
        absurd isOwn (Store.keyText_ne_of_find?_eq_none isFound present)
  | some found =>
      have isStored := Store.mem_list_of_find? isFound
      have sameText := Store.keyText_of_find? isFound
      cases isHeld : found.isHeld with
      | true =>
          refine kept fun other present isOwn => ?_
          obtain rfl := Store.eq_of_keyText_eq present isStored (isOwn.trans sameText.symm)
          exact isHeld
      | false =>
          have unmarked : found.isMarked = false := by
            refine Bool.eq_false_iff.2 fun marked => ?_
            have wasHeld := unspent.isHeld_of_marked isStored marked (own found isStored)
            exact absurd wasHeld (by simp [isHeld])
          rw [given found isFound unmarked isHeld, ← sameText]
          exact Store.holds_hold unmarked

namespace Registration

variable {registration : Registration}

theorem Write.holds (written : Registration.Write key store after) (coherent : store.IsCoherent)
    (holds : store.Holds .registration among) : after.Holds .registration among := by
  cases written with
  | held isFound unmarked unheld => exact holds.hold unmarked
  | @letGo registration isFound marked gone =>
      exact holds.letGo marked
        (coherent.sound .registration registration (Store.mem_list_of_find? isFound))
  | spaced | derived | carried =>
      exact holds.congr ((Store.sameBeside_write _ _ _).list (by decide))
  | deleted isFound marked present deletion =>
      exact holds.congr (deletion.sameBeside.list (by decide))
  | synced due | recorded due => exact holds.restated (Store.mem_list_of_find? due.isFound) _

/-- Where objects had the finalizer before the pass, they have it afterwards. -/
theorem stillHolds_reconcile (coherent : world.store.IsCoherent)
    (holds : world.store.Holds .registration among) (key : ObjectKey) :
    ((reconcile key).runOn world).2.store.Holds .registration among :=
  ((through_reconcile key world).preserves
    (fun store => store.IsCoherent ∧ store.Holds .registration among)
    (fun kept written => ⟨written.isCoherent kept.1, written.holds kept.1 kept.2⟩)
    ⟨coherent, holds⟩).2

theorem holds_reconcile (orderly : world.store.IsOrderly) (key : ObjectKey) :
    ((reconcile key).runOn world).2.store.Holds .registration (· = key.text) := by
  refine Store.holds_of_pass orderly.unspent (orderly.coherent.sound .registration)
    (fun holds => stillHolds_reconcile orderly.coherent holds key)
    fun found isFound unmarked unheld => ?_
  rw [runOn_reconcile_of_unheld isFound unmarked unheld]
  rfl

theorem ends_of_lasting_eq_nil (indexed : store.IsIndexed)
    (none : lasting store registration = []) :
    store.Ends .deployment registrationLabel registration.keyText := by
  intro deployment present labelled
  cases marked : Object.isMarked deployment with
  | true => rfl
  | false =>
      have isListed := indexed.mem_labelled_of_hasLabel present (beq_iff_eq.2 labelled)
      have isLasting : deployment ∈ lasting store registration := mem_lasting.2 ⟨isListed, marked⟩
      rw [none] at isLasting
      exact absurd isLasting List.not_mem_nil

/-- The pass on a registration on its way out leaves no deployment of it unmarked. -/
theorem ends_reconcile (coherent : world.store.IsCoherent)
    (isFound : world.store.find? .registration key = some registration)
    (marked : registration.isMarked = true) :
    ((reconcile key).runOn world).2.store.Ends .deployment registrationLabel
      registration.keyText := by
  by_cases bare : world.store.labelled .deployment registrationLabel registration.key.text = []
  · have ends : world.store.Ends .deployment registrationLabel registration.keyText :=
      fun deployment present labelled =>
        absurd labelled (coherent.indexed.label_ne_of_labelled_eq_nil bare present)
    exact (through_reconcile_of_idle (idle_of_marked isFound marked)).preserves
      (fun store => store.Ends .deployment registrationLabel registration.keyText)
      (fun ends written => written.1.ends ends fun other due => absurd due (written.2 other)) ends
  · have wrote := wrote_windDown isFound marked bare rfl
    have coherentLast := (through_reconcile key world).preserves Store.IsCoherent
      (fun holds written => written.isCoherent holds) coherent
    refine ends_of_lasting_eq_nil coherentLast.indexed ?_
    rw [wrote.isLast]
    exact lasting_deletions _ coherent rfl _

/-- The pass on a registration gives it the finalizer, and has it hand its mark down. -/
theorem improves_reconcile (orderly : world.store.IsOrderly) (key : ObjectKey) :
    Resync.Improves .registration
      (fun store registration => registration.isHeld = true ∧ (registration.isMarked = true →
        store.Ends .deployment registrationLabel registration.keyText))
      key world.store ((reconcile key).runOn world).2.store where
  untouched other different := find?_reconcile_of_ne different
  reached later present isOwn := by
    refine ⟨holds_reconcile orderly key later present isOwn, fun marked => ?_⟩
    obtain ⟨earlier, wasFound, wasMarked⟩ := (marksNone_reconcile key world).exists_found
      (Store.find?_eq_some_of_mem present isOwn) marked
    have sameText : earlier.keyText = later.keyText :=
      (Store.keyText_of_find? wasFound).trans isOwn.symm
    exact sameText ▸ ends_reconcile orderly.coherent wasFound wasMarked
  spared registration present apart wanted := by
    refine ⟨wanted.1, fun marked => ?_⟩
    exact (through_reconcile key world).preserves
      (fun store => store.Ends .deployment registrationLabel registration.keyText)
      (fun ends written => written.ends ends fun other due sameText =>
        apart (sameText.symm.trans (Store.keyText_of_find? due.isFound)))
      (wanted.2 marked)

end Registration

namespace Deployment

theorem Write.holds (written : Deployment.Write key store after) (coherent : store.IsCoherent)
    (holds : store.Holds .deployment among) : after.Holds .deployment among := by
  cases written with
  | held isFound unmarked unheld => exact holds.hold unmarked
  | @letGo deployment isFound marked vacant =>
      have sound : Deployment.IsSound deployment :=
        coherent.sound .deployment deployment (Store.mem_list_of_find? isFound)
      exact holds.letGo marked sound.own
  | created | renewed | placed | released =>
      exact holds.congr ((Store.sameBeside_write _ _ _).list (by decide))
  | deleted isFound marked realises unmarked deletion =>
      exact holds.congr (deletion.sameBeside.list (by decide))
  | settled isFound | cleared isFound | recorded isFound =>
      exact holds.restated (Store.mem_list_of_find? isFound) _

theorem holds_reconcile (orderly : world.store.IsOrderly) (settings : Settings)
    (key : ObjectKey) :
    ((reconcile settings key).runOn world).2.store.Holds .deployment (· = key.text) := by
  have own : ∀ deployment ∈ world.store.list .deployment,
      deployment.metadata.HasOwnFinalizers := fun deployment present =>
    Deployment.IsSound.own (orderly.coherent.sound .deployment deployment present)
  refine Store.holds_of_pass orderly.unspent own (fun holds => ?_)
    fun found isFound unmarked unheld => ?_
  · exact ((through_reconcile settings key world).preserves
      (fun store => store.IsCoherent ∧ store.Holds .deployment (· = key.text))
      (fun kept written => ⟨written.isCoherent kept.1, written.holds kept.1 kept.2⟩)
      ⟨orderly.coherent, holds⟩).2
  · rw [runOn_reconcile_of_unheld isFound unmarked unheld]
    rfl

/-- The pass on a deployment gives it the finalizer, and has it hand its mark down. -/
theorem improves_reconcile (orderly : world.store.IsOrderly) (settings : Settings)
    (key : ObjectKey) :
    Resync.Improves .deployment
      (fun store deployment => deployment.isHeld = true ∧ (deployment.isMarked = true →
        store.Ends .tenantInstance deploymentLabel deployment.keyText))
      key world.store ((reconcile settings key).runOn world).2.store where
  untouched other different := find?_reconcile_of_ne different
  reached later present isOwn := by
    refine ⟨holds_reconcile orderly settings key later present isOwn, fun marked => ?_⟩
    obtain ⟨earlier, wasFound, wasMarked⟩ := (marksNone_reconcile settings key world).exists_found
      (Store.find?_eq_some_of_mem present isOwn) marked
    rw [isOwn]
    exact marked_of_reconcile orderly.coherent fun other isFound =>
      Option.some.inj (wasFound.symm.trans isFound) ▸ wasMarked
  spared deployment present apart wanted := by
    refine ⟨wanted.1, fun marked => ?_⟩
    exact (through_reconcile settings key world).preserves
      (fun store => store.Ends .tenantInstance deploymentLabel deployment.keyText)
      (fun ends written => written.ends ends fun other isFound _ sameText =>
        apart (sameText.symm.trans (Store.keyText_of_find? isFound)))
      (wanted.2 marked)

end Deployment

/-- The pass on an instance that is marked lets it go. -/
theorem TenantInstance.improves_reconcile (coherent : world.store.IsCoherent)
    (settings : Settings) (key : ObjectKey) :
    Resync.Improves .tenantInstance (fun _ realised => realised.isMarked = false) key world.store
      ((reconcile settings key).runOn world).2.store where
  untouched other different := find?_reconcile_of_ne different
  reached later present isOwn := by
    cases isFound : world.store.find? .tenantInstance key with
    | none =>
        rw [runOn_reconcile_of_absent isFound] at present
        exact absurd isOwn (Store.keyText_ne_of_find?_eq_none isFound present)
    | some realised =>
        have isStored := Store.mem_list_of_find? isFound
        cases marked : Object.isMarked realised with
        | true =>
            have gone : ((reconcile settings key).runOn world).2.store.find? .tenantInstance key =
                none := find?_of_reconcile coherent fun other isOther =>
              Option.some.inj (isFound.symm.trans isOther) ▸ marked
            exact absurd isOwn (Store.keyText_ne_of_find?_eq_none gone present)
        | false =>
            rw [runOn_reconcile_of_lasting isFound marked
              (coherent.sound_instance isStored).isHeld] at present
            obtain rfl := Store.eq_of_keyText_eq present isStored
              (isOwn.trans (Store.keyText_of_find? isFound).symm)
            exact marked
  spared _ _ _ unmarked := unmarked

namespace Resync

/-- The pass on a registration takes the finalizer from none that stays, and no other pass does. -/
theorem Write.holds (written : Resync.Write store after) (coherent : store.IsCoherent)
    (holds : store.Holds .registration among) : after.Holds .registration among := by
  cases written with
  | registration written => exact written.holds coherent holds
  | deployment written => exact holds.congr (written.sameBut.list (by decide))
  | report written =>
      cases written with
      | reported isFound named labelled spelled registrationFound =>
          exact holds.restated (Store.mem_list_of_find? registrationFound) _
  | tenantInstance written => exact holds.congr (written.sameBut.list (by decide))
  | target written => exact holds.congr (written.sameBeside.list (by decide))

variable (settings : Settings) (seen : Seen)

theorem tended_afterRegistrations (orderly : world.store.IsOrderly) :
    (afterRegistrations world).2.store.Holds .registration (fun _ => True) ∧
      (afterRegistrations world).2.store.HandsDown .registration .deployment registrationLabel := by
  have visited := forall_visitAll (fun _ now => now.store.IsOrderly) _
    (fun key rest now orderly =>
      ⟨((Registration.through_reconcile key now).mono Resync.Write.registration).isOrderly orderly,
        Registration.improves_reconcile orderly key⟩) {} world orderly
  rw [afterRegistrations]
  exact ⟨fun registration present _ => (visited.2 registration present).1,
    fun registration present => (visited.2 registration present).2⟩

theorem tended_afterDeployments (orderly : (afterRegistrations world).2.store.IsOrderly) :
    (afterDeployments settings world).2.store.Holds .deployment (fun _ => True) ∧
      (afterDeployments settings world).2.store.HandsDown .deployment .tenantInstance
        deploymentLabel := by
  have visited := forall_visitAll (fun _ now => now.store.IsOrderly) _
    (fun key rest now orderly =>
      ⟨((Deployment.through_reconcile settings key now).mono Resync.Write.deployment).isOrderly
          orderly,
        Deployment.improves_reconcile orderly settings key⟩)
    (afterRegistrations world).1 (afterRegistrations world).2 orderly
  rw [afterDeployments]
  exact ⟨fun deployment present _ => (visited.2 deployment present).1,
    fun deployment present => (visited.2 deployment present).2⟩

theorem lacksMarks_afterInstances
    (coherent : (afterReports settings seen world).2.store.IsCoherent) :
    (afterInstances settings seen world).2.store.LacksMarks .tenantInstance := by
  have visited := forall_visitAll (fun _ now => now.store.IsCoherent) _
    (fun key rest now coherent =>
      ⟨((TenantInstance.through_reconcile settings key now).mono
          Resync.Write.tenantInstance).isCoherent coherent,
        TenantInstance.improves_reconcile coherent settings key⟩)
    (afterReports settings seen world).1.2 (afterReports settings seen world).2 coherent
  rw [afterInstances]
  exact visited.2

theorem handsDown_afterInstances
    (handsDown : (afterReports settings seen world).2.store.HandsDown .deployment .tenantInstance
      deploymentLabel) :
    (afterInstances settings seen world).2.store.HandsDown .deployment .tenantInstance
      deploymentLabel := by
  exact (writes_afterInstances settings seen world).preserves
    (fun store => store.HandsDown .deployment .tenantInstance deploymentLabel)
    (fun handsDown ⟨_, written⟩ => written.handsDown handsDown) handsDown

/-- Each kind is tended by its own passes, and left alone by those that follow. -/
theorem isTended_tick (orderly : world.store.IsOrderly) :
    ((tick settings seen).run world).2.store.IsTended := by
  have first := (through_afterRegistrations world).isOrderly orderly
  have second := (through_afterDeployments settings world).isOrderly first
  have third := (through_afterReports settings seen world).isOrderly second
  have later := (((through_afterDeployments settings world).trans
    (through_afterReports settings seen world)).trans
      (through_afterInstances settings seen world)).trans
        (through_afterTargets settings seen world)
  have reports := sameBeside_afterReports settings seen world
  have targets := sameBeside_afterTargets settings seen world
  obtain ⟨registrationsHeld, derived⟩ := tended_afterRegistrations orderly
  obtain ⟨deploymentsHeld, made⟩ := tended_afterDeployments settings first
  have madeLast := handsDown_afterInstances settings seen
    (made.congr (reports.list (by decide)) (reports.list (by decide)))
  have marks := lacksMarks_afterInstances settings seen third.coherent
  have sameDeployments := sameDeployments_tick settings seen world
  simp only [run_tick] at sameDeployments ⊢
  refine
    { registrations := (later.preserves
        (fun store => store.IsCoherent ∧ store.Holds .registration fun _ => True)
        (fun holds written => ⟨written.isCoherent holds.1, written.holds holds.1 holds.2⟩)
        ⟨first.coherent, registrationsHeld⟩).2
      deployments := deploymentsHeld.congr sameDeployments
      derived := later.preserves
        (fun store => store.HandsDown .registration .deployment registrationLabel)
        (fun holds written => written.handsDown holds) derived
      made := madeLast.congr (targets.list (by decide)) (targets.list (by decide))
      instances := ?_ }
  intro realised present
  rw [targets.list (by decide)] at present
  exact marks realised present

end Resync

end TenantFleet
