import TenantFleet.Proofs.Reports.Tick
import TenantFleet.Proofs.Runs.Isolation

/-!
# Reports that a driver leaves out

A driver ticks, and leaves out the reports of deployments whose statuses are as
it saw them in the tick before.  Users and the runtime do not make it miss
anything, as long as users leave the registration label alone and the separator
of the label index out of their keys: a report that is left out would have told
the registration what it shows already.  The driver does miss a registration
that it has brought to a deployment that was there before, or has brought up to
date, when no status moves along with that.
-/

namespace TenantFleet

/-- What happens in a run of a driver. -/
inductive Event where
  /-- Something is done from outside. -/
  | call (action : Action)
  | tick (settings : Settings)

namespace Action

/-- Whether the action is one of users or of the runtime. -/
def isOutside : Action → Bool
  | .apply _ | .delete _ _ | .report _ => true
  | _ => false

def IsUnclaimed : Action → Prop
  | .apply manifest => manifest.IsUnclaimed
  | _ => True

variable {action : Action} {store after : Store} {owned : String → Prop}

theorem Write.isAnchored (written : action.Write store after) (outside : action.isOutside = true)
    (unclaimed : action.IsUnclaimed) (anchored : store.IsAnchored) : after.IsAnchored := by
  cases written with
  | apply written =>
      obtain ⟨kind, object, objectUnclaimed, admitted⟩ := written.exists_unclaimed unclaimed
      exact admitted.isAnchored anchored objectUnclaimed
  | delete present sameText deletion => exact anchored.deletion present deletion
  | report present sameText => exact anchored.restate present _
  | forget | reconcileRegistration | reconcileDeployment | reconcileInstance | reconcileTarget
  | syncStatus | tick => contradiction

/-- From outside, no deployment gets a label, and no registration a status. -/
theorem Write.inherits (written : action.Write store after) (outside : action.isOutside = true)
    (unclaimed : action.IsUnclaimed) (anchored : store.IsAnchored) :
    store.Inherits owned after := by
  cases written with
  | apply written =>
      obtain ⟨kind, object, objectUnclaimed, admitted⟩ := written.exists_unclaimed unclaimed
      exact admitted.inherits anchored objectUnclaimed
  | delete present sameText deletion => exact (deletion.descends present).inherits
  | report present sameText =>
      exact (Store.sameBeside_write _ _ _).inherits (by decide) (by decide)
  | forget | reconcileRegistration | reconcileDeployment | reconcileInstance | reconcileTarget
  | syncStatus | tick => contradiction

end Action

namespace Event

def perform (state : World × Seen) : Event → World × Seen
  | .call action => (action.perform state.1, state.2)
  | .tick settings =>
      let result := (Resync.tick settings state.2).run state.1
      (result.2, result.1.2)

theorem perform_tick (state : World × Seen) (settings : Settings) :
    (Event.tick settings).perform state =
      (((Resync.tick settings state.2).run state.1).2,
        ((Resync.tick settings state.2).run state.1).1.2) := rfl

def IsUnclaimed : Event → Prop
  | .call action => action.isOutside = true ∧ action.IsUnclaimed
  | .tick _ => True

/-- Whether the event is a tick, or something from outside that applies no status. -/
def isBlank : Event → Bool
  | .call action => action.isOutside && action.isBlank
  | .tick _ => true

end Event

/-- Each tick of the run has the property, of the settings, what the driver has seen and the world
that the tick begins with. -/
def EachTick (property : Settings → Seen → World → Prop) : World × Seen → List Event → Prop
  | _, [] => True
  | state, .call action :: rest => EachTick property ((Event.call action).perform state) rest
  | state, .tick settings :: rest =>
      property settings state.2 state.1 ∧
        EachTick property ((Event.tick settings).perform state) rest

instance EachTick.decidable (property : Settings → Seen → World → Prop)
    [∀ settings seen world, Decidable (property settings seen world)] :
    (state : World × Seen) → (events : List Event) → Decidable (EachTick property state events)
  | _, [] => inferInstanceAs (Decidable True)
  | state, .call action :: rest => decidable property ((Event.call action).perform state) rest
  | state, .tick settings :: rest =>
      have := decidable property ((Event.tick settings).perform state) rest
      inferInstanceAs (Decidable (_ ∧ _))

namespace Resync

/-- What the driver has seen is shown, in an anchored store. -/
structure IsUpToDate (state : World × Seen) : Prop where
  anchored : state.1.store.IsAnchored
  shown : ∀ entry ∈ state.2, state.1.store.Shows entry.1 entry.2

variable {state : World × Seen}

theorem IsUpToDate.of_call (upToDate : IsUpToDate state) {action : Action}
    (outside : action.isOutside = true) (unclaimed : action.IsUnclaimed) :
    IsUpToDate ((Event.call action).perform state) := by
  have kept := (action.through_perform state.1).preserves
    (fun store => store.IsAnchored ∧ ∀ entry ∈ state.2, store.Shows entry.1 entry.2)
    (fun holds written => by
      have inherits : Store.Inherits (fun _ => False) _ _ :=
        written.inherits outside unclaimed holds.1
      exact ⟨written.isAnchored outside unclaimed holds.1,
        fun entry entryMem => inherits.shows id (holds.2 entry entryMem)⟩)
    ⟨upToDate.anchored, upToDate.shown⟩
  exact ⟨kept.1, kept.2⟩

theorem IsUpToDate.of_tick (upToDate : IsUpToDate state) {settings : Settings}
    (noticed : IsNoticed settings state.2 state.1) :
    IsUpToDate ((Event.tick settings).perform state) := by
  have anchored := (through_tick settings state.2 state.1).preserves Store.IsAnchored
    (fun holds written => written.isAnchored holds) upToDate.anchored
  have shown := shows_tick upToDate.anchored upToDate.shown noticed
  rw [Event.perform_tick]
  generalize (tick settings state.2).run state.1 = result at anchored shown ⊢
  exact ⟨anchored, shown⟩

theorem IsUpToDate.world_eachTick (events : List Event) (upToDate : IsUpToDate state)
    (unclaimed : ∀ event ∈ events, event.IsUnclaimed) (noticed : EachTick IsNoticed state events) :
    EachTick (fun settings seen world =>
      ((tick settings seen).run world).2 = ((tickInFull settings).run world).2) state events := by
  induction events generalizing state with
  | nil => trivial
  | cons event rest ih =>
      have later := fun other otherMem => unclaimed other (List.mem_cons_of_mem event otherMem)
      cases event with
      | call action =>
          obtain ⟨outside, header⟩ := unclaimed _ List.mem_cons_self
          exact ih (upToDate.of_call outside header) later noticed
      | tick settings =>
          exact ⟨world_tick upToDate.anchored upToDate.shown noticed.1,
            ih (upToDate.of_tick noticed.1) later noticed.2⟩

end Resync

namespace World

/-- In every run of a driver from an empty store, whatever users delete, whatever they apply that is
unclaimed, and whatever the runtime reports: every tick leaves the world that it would leave if it
reported on every deployment, as long as the registrations that ticks bring to a deployment or bring
up to date are noticed. -/
theorem ticks_report_in_full {world : World} (empty : world.store = {}) (events : List Event)
    (unclaimed : ∀ event ∈ events, event.IsUnclaimed)
    (noticed : EachTick Resync.IsNoticed (world, []) events) :
    EachTick (fun settings seen before =>
      ((Resync.tick settings seen).run before).2 = ((Resync.tickInFull settings).run before).2)
      (world, []) events := by
  have upToDate : Resync.IsUpToDate (world, []) :=
    { anchored := empty ▸ Store.isAnchored_empty
      shown := fun entry entryMem => absurd entryMem List.not_mem_nil }
  exact upToDate.world_eachTick events unclaimed noticed

def joined (scope : String) : Action :=
  .apply (.registration
    { metadata := { name := "web", scope := scope }
      spec := { purpose := "demo" }
      status := {} })

/-- A user applies a deployment with the spec that is derived from a registration of the first
tenant. -/
def supplied (scope : String) (labels : Labels) : Action :=
  .apply (.deployment
    { metadata := { name := "web", scope := scope, labels := labels }
      spec := { tenantId := "tenant01", purpose := "demo" }
      status := {} })

/-- There is a target, and then something is done and settles in three ticks, till the runtime
reports an access file of the instance and the driver has seen it. -/
def settled (action : Action) (key : ObjectKey) (version : Nat) : List Event :=
  hosting.map .call ++
    [.call action, .tick {}, .tick {}, .tick {}, .call (served key version "own"), .tick {}]

/-- A driver that has seen the access file sees nothing else in the next tick and leaves out the
report, and the registration shows the access file. -/
theorem ticks_report_in_full_once_served :
    let events := settled (joined "tenant01") ⟨"tenant01", "web-00000"⟩ 9
    let before := events.foldl Event.perform (uniform, [])
    let after := (Event.tick {}).perform before
    (before.2 ≠ [] ∧ after.2 = before.2 ∧ ∃ registration ∈ after.1.store.list .registration,
      registration.status.userKubeconfig = "own") ∧
    EachTick (fun settings seen before =>
      ((Resync.tick settings seen).run before).2 = ((Resync.tickInFull settings).run before).2)
      (uniform, []) (events ++ [.tick {}]) := by
  intro events before after
  have noticed : EachTick Resync.IsNoticed (uniform, []) (events ++ [.tick {}]) := by
    decide +kernel
  refine ⟨by decide +kernel, ticks_report_in_full rfl _ (fun event eventMem => ?_) noticed⟩
  simp only [events, settled, hosting, onboarding, List.take, List.map, List.cons_append,
    List.nil_append, List.mem_cons, List.not_mem_nil, or_false] at eventMem
  rcases eventMem with rfl | rfl | rfl | rfl | rfl | rfl | rfl | rfl
  · exact ⟨rfl, ⟨by decide, by decide, by decide⟩, fun isDeployment => by contradiction⟩
  · exact ⟨rfl, ⟨by decide, by decide, by decide⟩, fun isDeployment => by contradiction⟩
  · trivial
  · trivial
  · trivial
  · exact ⟨rfl, trivial⟩
  · trivial
  · trivial

/-- A registration is applied beside the deployment that is there, and adopts it in the second
tick. -/
def adopted : List Event :=
  settled (supplied "tenant01" .empty) ⟨"tenant01", "web-00000"⟩ 5 ++
    [.call (joined "tenant01"), .tick {}, .tick {}]

/-- The deployment that is there is labelled by the user. -/
def relabelled : List Event :=
  settled (supplied "tenant01" .empty) ⟨"tenant01", "web-00000"⟩ 5 ++
    [.call (joined "tenant01"),
      .call (supplied "tenant01" (Labels.set .empty registrationLabel "tenant01/web")), .tick {}]

/-- An entry of the label index goes with another deployment that has the same, so a registration is
let go before its deployment, and applied again. -/
def disowned : List Event :=
  settled (joined "x\x00tena01") ⟨"x\x00tena01", "web-00000"⟩ 9 ++
    [.call (supplied "tena01" (Labels.set .empty (registrationLabel ++ "\x00x") "tena01/web\x00x")),
      .call (.delete .deployment ⟨"tena01", "web"⟩),
      .call (.delete .registration ⟨"x\x00tena01", "web"⟩), .tick {},
      .call (joined "x\x00tena01"), .tick {}]

/-- No document has a status, and yet some tick leaves other registrations than it would leave if
it reported on every deployment. -/
def MissesReport (events : List Event) : Prop :=
  (∀ event ∈ events, event.isBlank = true) ∧
    ¬ EachTick (fun settings seen before =>
      ((Resync.tick settings seen).run before).2.store.list .registration =
        ((Resync.tickInFull settings).run before).2.store.list .registration)
      (uniform, []) events

instance (events : List Event) : Decidable (MissesReport events) :=
  inferInstanceAs (Decidable (_ ∧ _))

/-- It takes no more than a registration that adopts a deployment, a label of a user's choice, or
the separator of the label index in a key. -/
theorem ticks_miss_reports :
    MissesReport adopted ∧ MissesReport relabelled ∧ MissesReport disowned := by
  decide +kernel

end World

end TenantFleet
