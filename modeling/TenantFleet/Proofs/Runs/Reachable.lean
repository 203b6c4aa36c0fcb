import TenantFleet.Draws
import TenantFleet.Proofs.Coherence.Documents
import TenantFleet.Proofs.Passes.Resync

/-!
# Runs

A run begins with an empty store and goes on with whatever users, the runtime
and the control plane do, in any order.  Users apply ordinary documents and
delete what they like; the runtime reports on instances; a status of a
deployment may lose the instance that it names; the control plane runs its
passes one by one or tick by tick.  What is drawn on the way, times, suffixes
and ids, is of no account.
-/

namespace TenantFleet

/-- What is done to a world. -/
inductive Action where
  /-- A user applies a document. -/
  | apply (manifest : Manifest)
  /-- A user deletes an object. -/
  | delete (kind : Kind) (key : ObjectKey)
  /-- The runtime writes the status of an instance. -/
  | report (realised : TenantInstance)
  /-- The status of a deployment is written, and names no instance. -/
  | forget (deployment : Deployment)
  | reconcileRegistration (key : ObjectKey)
  | reconcileDeployment (settings : Settings) (key : ObjectKey)
  | reconcileInstance (settings : Settings) (key : ObjectKey)
  | reconcileTarget (settings : Settings) (key : ObjectKey)
  | syncStatus (key : ObjectKey)
  | tick (settings : Settings) (seen : Seen)

namespace Action

/-- The world after the action, whatever its outcome. -/
def perform (world : World) : Action → World
  | .apply manifest => (manifest.apply.runOn world).2
  | .delete kind key => ((World.delete kind key).runOn world).2
  | .report realised => ((World.setStatus realised).runOn world).2
  | .forget deployment => ((World.setStatus deployment).runOn world).2
  | .reconcileRegistration key => ((Registration.reconcile key).runOn world).2
  | .reconcileDeployment settings key => ((Deployment.reconcile settings key).runOn world).2
  | .reconcileInstance settings key => ((TenantInstance.reconcile settings key).runOn world).2
  | .reconcileTarget settings key => ((TenantFleet.reconcileTarget settings key).runOn world).2
  | .syncStatus key => ((Deployment.reportStatus key).runOn world).2
  | .tick settings seen => ((Resync.tick settings seen).run world).2

/-- Documents are ordinary, and a status that is to name no instance does not. -/
def IsOrdinary : Action → Prop
  | .apply manifest => manifest.IsOrdinary
  | .forget deployment => deployment.status.instanceKey = none
  | _ => True

/-- A write of an action. -/
inductive Write : Action → Store → Store → Prop
  | apply {manifest : Manifest} {before after : Store} (written : manifest.Write before after) :
      Write (.apply manifest) before after
  | delete {kind : Kind} {key : ObjectKey} {before after : Store} {stored : Object kind}
      (present : stored ∈ before.list kind) (sameText : stored.keyText = key.text)
      (deletion : before.Deletion stored after) : Write (.delete kind key) before after
  | report {realised stored : TenantInstance} {before : Store}
      (present : stored ∈ before.list .tenantInstance)
      (sameText : stored.keyText = realised.keyText) :
      Write (.report realised) before
        (before.write (some stored) (before.restated stored realised.status))
  | forget {deployment stored : Deployment} {before : Store}
      (present : stored ∈ before.list .deployment)
      (sameText : stored.keyText = deployment.keyText) :
      Write (.forget deployment) before
        (before.write (some stored) (before.restated stored deployment.status))
  | reconcileRegistration {key : ObjectKey} {before after : Store}
      (written : Registration.Write key before after) :
      Write (.reconcileRegistration key) before after
  | reconcileDeployment {settings : Settings} {key : ObjectKey} {before after : Store}
      (written : Deployment.Write key before after) :
      Write (.reconcileDeployment settings key) before after
  | reconcileInstance {settings : Settings} {key : ObjectKey} {before after : Store}
      (written : TenantInstance.Write key before after) :
      Write (.reconcileInstance settings key) before after
  | reconcileTarget {settings : Settings} {key : ObjectKey} {before after : Store}
      (written : Target.Write key before after) :
      Write (.reconcileTarget settings key) before after
  | syncStatus {key : ObjectKey} {before after : Store}
      (written : Deployment.Report key before after) : Write (.syncStatus key) before after
  | tick {settings : Settings} {seen : Seen} {before after : Store}
      (written : Resync.Write before after) : Write (.tick settings seen) before after

theorem through_setStatus {kind : Kind} {object : Object kind} {world : World}
    {sort : Store → Store → Prop}
    (allowed : ∀ stored ∈ world.store.list kind, stored.keyText = object.keyText →
      sort world.store
        (world.store.write (some stored) (world.store.restated stored object.status))) :
    World.Through sort world ((World.setStatus object).runOn world).2 := by
  cases done : world.store.setStatus object with
  | error error =>
      rw [World.runOn_setStatus_of_error done]
      exact .refl world
  | ok result =>
      obtain ⟨written, after⟩ := result
      rw [World.runOn_setStatus_of_ok done]
      obtain ⟨stored, present, sameText, -, rfl⟩ := Store.stored_of_setStatus done
      exact .of_commit (allowed stored present sameText)

theorem through_delete (kind : Kind) (key : ObjectKey) (world : World) :
    World.Through (Write (.delete kind key)) world ((World.delete kind key).runOn world).2 := by
  cases done : world.store.delete kind key world.clock.next with
  | error error =>
      rw [World.runOn_delete_of_error done]
      exact .refl world
  | ok result =>
      obtain ⟨removal, after⟩ := result
      rw [World.runOn_delete_of_ok done]
      refine .of_delete done fun notPending => ?_
      rcases Store.deletion_of_delete done with
        ⟨pending, -⟩ | ⟨-, stored, present, sameText, deletion⟩
      · exact absurd pending notPending
      · exact .delete present sameText deletion

theorem through_perform (action : Action) (world : World) :
    World.Through (Write action) world (action.perform world) := by
  cases action with
  | apply manifest => exact (manifest.through_apply world).mono .apply
  | delete kind key => exact through_delete kind key world
  | report realised => exact through_setStatus fun _ => .report
  | forget deployment => exact through_setStatus fun _ => .forget
  | reconcileRegistration key =>
      exact (Registration.through_reconcile key world).mono .reconcileRegistration
  | reconcileDeployment settings key =>
      exact (Deployment.through_reconcile settings key world).mono .reconcileDeployment
  | reconcileInstance settings key =>
      exact (TenantInstance.through_reconcile settings key world).mono .reconcileInstance
  | reconcileTarget settings key =>
      exact (Target.through_reconcile settings key world).mono .reconcileTarget
  | syncStatus key => exact (Deployment.through_reportStatus key world).mono .syncStatus
  | tick settings seen => exact (Resync.through_tick settings seen world).mono .tick

end Action

theorem Resync.Write.isCoherent {store after : Store} (written : Resync.Write store after)
    (coherent : store.IsCoherent) : after.IsCoherent := by
  cases written with
  | registration written => exact written.isCoherent coherent
  | deployment written => exact written.isCoherent coherent
  | report written => exact written.isCoherent coherent
  | tenantInstance written => exact written.isCoherent coherent
  | target written => exact written.isCoherent coherent

/-- Every write of an ordinary action keeps the store coherent. -/
theorem Action.Write.isCoherent {action : Action} {store after : Store}
    (written : action.Write store after) (coherent : store.IsCoherent)
    (ordinary : action.IsOrdinary) : after.IsCoherent := by
  cases written with
  | apply written => exact written.isCoherent coherent ordinary
  | delete present sameText deletion => exact coherent.delete present deletion
  | report present sameText => exact coherent.restate_instance present _
  | @forget deployment stored before present sameText =>
      have unnamed : deployment.status.instanceKey = none := ordinary
      exact coherent.restate_deployment present fun key isKey => by simp [unnamed] at isKey
  | reconcileRegistration written => exact written.isCoherent coherent
  | reconcileDeployment written => exact written.isCoherent coherent
  | reconcileInstance written => exact written.isCoherent coherent
  | reconcileTarget written => exact written.isCoherent coherent
  | syncStatus written => exact written.isCoherent coherent
  | tick written => exact written.isCoherent coherent

namespace World

/-- The worlds that ordinary actions lead to from an empty store. -/
inductive Reachable : World → Prop
  | start {world : World} (empty : world.store = {}) (unwritten : world.journal = []) :
      Reachable world
  | act {world : World} (reached : Reachable world) (action : Action)
      (ordinary : action.IsOrdinary) : Reachable (action.perform world)

/-- What every write of an ordinary action keeps holds of every store of a run, also of those that
a pass left while it was at work. -/
theorem Reachable.invariant {world : World} (reached : world.Reachable) {property : Store → Prop}
    (atStart : property {})
    (kept : ∀ {action : Action} {store after : Store}, action.IsOrdinary →
      action.Write store after → property store → property after) :
    property world.store ∧ ∀ store ∈ world.journal, property store := by
  induction reached with
  | start empty unwritten =>
      rw [empty, unwritten]
      exact ⟨atStart, by simp⟩
  | @act world reached action ordinary ih =>
      exact (action.through_perform world).invariant property
        (fun holds written => kept ordinary written holds) ih.1 ih.2

/-- What every write of the actions in a row keeps holds of every store that they lead to. -/
theorem invariant_of_performAll {world : World} (property : Store → Prop) {allowed : Action → Prop}
    (kept : ∀ {action : Action} {store after : Store}, allowed action → action.Write store after →
      property store → property after)
    (actions : List Action) (areAllowed : ∀ action ∈ actions, allowed action)
    (atStart : property world.store ∧ ∀ store ∈ world.journal, property store) :
    property (actions.foldl Action.perform world).store ∧
      ∀ store ∈ (actions.foldl Action.perform world).journal, property store := by
  induction actions generalizing world with
  | nil => exact atStart
  | cons action rest ih =>
      refine ih (fun later laterMem => areAllowed later (List.mem_cons_of_mem action laterMem)) ?_
      exact (action.through_perform world).invariant property
        (fun holds written => kept (areAllowed action List.mem_cons_self) written holds)
        atStart.1 atStart.2

/-- Every store of a run is coherent. -/
theorem Reachable.isCoherent {world : World} (reached : world.Reachable) :
    world.store.IsCoherent ∧ ∀ store ∈ world.journal, store.IsCoherent :=
  reached.invariant Store.isCoherent_empty
    fun ordinary written coherent => written.isCoherent coherent ordinary

/-- The store of a world, or one that a write has left on the way to it. -/
def Passed (world : World) (store : Store) : Prop :=
  store = world.store ∨ store ∈ world.journal

theorem Reachable.isCoherent_of_passed {world : World} (reached : world.Reachable) {store : Store}
    (passed : world.Passed store) : store.IsCoherent := by
  rcases passed with rfl | noted
  · exact reached.isCoherent.1
  · exact reached.isCoherent.2 store noted

theorem Reachable.perform_all {world : World} (reached : world.Reachable) (actions : List Action)
    (ordinary : ∀ action ∈ actions, action.IsOrdinary) :
    (actions.foldl Action.perform world).Reachable := by
  induction actions generalizing world with
  | nil => exact reached
  | cons action rest ih =>
      exact ih (reached.act action (ordinary action List.mem_cons_self))
        fun later laterMem => ordinary later (List.mem_cons_of_mem _ laterMem)

/-- A target and a registration, whose deployment has the finalizer after two ticks and gets an
instance in the third. -/
def onboarding : List Action :=
  [.apply (.target
     { metadata := { name := "east", scope := "fleet" }
       spec :=
         { priority := 1
           visible := true
           secret := { name := "access", scope := "fleet", entry := "kubeconfig" }
           ingressDomain := "example" }
       status := {} }),
   .apply (.registration
     { metadata := { name := "web", scope := "tenant01" }
       spec := { purpose := "demo" }
       status := {} }),
   .tick {} [],
   .tick {} []]

def onboarded : World :=
  onboarding.foldl Action.perform (.around {} 0 0)

theorem reachable_onboarded : onboarded.Reachable := by
  refine Reachable.perform_all (.start rfl rfl) onboarding fun action actionMem => ?_
  simp only [onboarding, List.mem_cons, List.not_mem_nil, or_false] at actionMem
  rcases actionMem with rfl | rfl | rfl | rfl
  · exact ⟨⟨by decide, by decide, rfl, rfl, by decide⟩, rfl⟩
  · exact ⟨⟨by decide, by decide, rfl, rfl, by decide⟩, rfl⟩
  · trivial
  · trivial

end World

end TenantFleet
