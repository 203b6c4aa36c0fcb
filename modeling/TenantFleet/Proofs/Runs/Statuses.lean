import TenantFleet.Draws
import TenantFleet.Proofs.Passes.Statuses
import TenantFleet.Proofs.Runs.Edits

/-!
# Users and statuses

What a user hands in may have a status.  Of an object that is stored it is left
out: whatever users call, the status of a stored object stays.  Only an object
that a call creates has the status that was handed in, so it starts with the
status of its kind when it was handed in without one.
-/

namespace TenantFleet

/-- What users call. -/
inductive UserCall where
  | create (kind : Kind) (object : Object kind)
  | update (kind : Kind) (object : Object kind)
  | apply (kind : Kind) (object : Object kind)
  | applyManifest (manifest : Manifest)

/-- A status, with the kind of the objects that can have it. -/
abbrev SomeStatus := (kind : Kind) × kind.Status

/-- The status that a document gives its object; scheduling objects have none to be given. -/
def Manifest.status : Manifest → SomeStatus
  | .tenantSpace object => ⟨.tenantSpace, object.status⟩
  | .target object => ⟨.target, object.status⟩
  | .deployment object => ⟨.deployment, object.status⟩
  | .registration object => ⟨.registration, object.status⟩
  | .scheduling _ => ⟨.scheduling, ()⟩

namespace UserCall

/-- The world after the call, whatever its outcome. -/
def perform (world : World) : UserCall → World
  | .create _ object => ((Admission.create object).runOn world).2
  | .update _ object => ((Admission.update object).runOn world).2
  | .apply _ object => ((Admission.apply object).runOn world).2
  | .applyManifest manifest => (manifest.apply.runOn world).2

def status : UserCall → SomeStatus
  | .create kind object | .update kind object | .apply kind object => ⟨kind, object.status⟩
  | .applyManifest manifest => manifest.status

/-- A write of a call: that of an object with the status that was handed in. -/
def Writes (call : UserCall) (before after : Store) : Prop :=
  ∃ (kind : Kind) (object : Object kind), call.status = ⟨kind, object.status⟩ ∧
    Admission.Write object before after

theorem through_perform (call : UserCall) (world : World) :
    World.Through call.Writes world (call.perform world) := by
  cases call with
  | create kind object =>
      exact Admission.through_create.mono fun written => ⟨kind, object, rfl, written⟩
  | update kind object =>
      exact Admission.through_update.mono fun written => ⟨kind, object, rfl, written⟩
  | apply kind object =>
      exact (Admission.through_apply object world).mono fun written => ⟨kind, object, rfl, written⟩
  | applyManifest manifest =>
      refine (manifest.through_apply world).mono fun written => ?_
      cases written with
      | tenantSpace written | target written | deployment written | registration written
      | scheduling accepted written => exact ⟨_, _, rfl, written⟩

end UserCall

namespace Admission

variable {store after : Store} {kind read : Kind} {object : Object kind} {key : ObjectKey}

theorem Write.keepsStatuses (written : Write object store after) : store.KeepsStatuses after := by
  cases written with
  | created now sameMetadata sameStatus isName isMade absent =>
      exact Store.keepsStatuses_create absent
  | updated isFound sameMetadata permitted =>
      exact Store.keepsStatuses_supplant (Store.mem_list_of_find? isFound)
        (keyText_of_update isFound sameMetadata)

theorem Write.isSome_find? (written : Write object store after) (unspent : store.IsUnspent)
    (found : (store.find? read key).isSome = true) : (after.find? read key).isSome = true := by
  cases written with
  | created now sameMetadata sameStatus isName isMade absent =>
      exact Store.isSome_find?_write store none _ found
  | updated isFound sameMetadata permitted =>
      have kept := isSpent_replacement store sameMetadata
        (unspent kind _ (Store.mem_list_of_find? isFound))
      rw [Store.supplant_of_kept kept]
      exact Store.isSome_find?_write store _ _ found

theorem Write.status_of_new (written : Write object store after) {next : Object read}
    (absent : store.find? read key = none) (found : after.find? read key = some next) :
    (⟨kind, object.status⟩ : SomeStatus) = ⟨read, next.status⟩ := by
  cases written with
  | created now sameMetadata sameStatus isName isMade absentName =>
      by_cases sameKind : read = kind
      · subst sameKind
        rcases Store.find?_of_write found with ⟨-, rfl⟩ | wasFound
        · rw [Store.status_initialObject, sameStatus]
        · rw [absent] at wasFound
          contradiction
      · rw [Store.find?_write_of_ne _ _ _ sameKind, absent] at found
        contradiction
  | updated isFound sameMetadata permitted =>
      rw [Store.find?_supplant_eq_none (Store.mem_list_of_find? isFound)
        (keyText_of_update isFound sameMetadata) absent] at found
      contradiction

end Admission

/-- What users may do to statuses: those of stored objects stay, and what is new has the status
that was handed in. -/
structure UserCall.Leaves (call : UserCall) (before after : Store) : Prop where
  stored : ∀ {kind key} {object : Object kind}, before.find? kind key = some object →
    ∃ next, after.find? kind key = some next ∧ next.status = object.status
  new : ∀ {kind key} {next : Object kind}, before.find? kind key = none →
    after.find? kind key = some next → call.status = ⟨kind, next.status⟩

namespace UserCall

variable {call : UserCall} {before store after : Store}

theorem leaves_refl (call : UserCall) (store : Store) : call.Leaves store store where
  stored found := ⟨_, found, rfl⟩
  new absent found := by
    rw [absent] at found
    contradiction

theorem Leaves.write (leaves : call.Leaves before store) (unspent : store.IsUnspent)
    (written : call.Writes store after) : call.Leaves before after := by
  obtain ⟨kind, object, sameStatus, written⟩ := written
  have still {read : Kind} {key : ObjectKey} {stored : Object read}
      (found : store.find? read key = some stored) :
      ∃ next, after.find? read key = some next ∧ next.status = stored.status := by
    have isThere := written.isSome_find? unspent (Option.isSome_iff_exists.2 ⟨stored, found⟩)
    obtain ⟨next, nextFound⟩ := Option.isSome_iff_exists.1 isThere
    exact ⟨next, nextFound, written.keepsStatuses read key stored next found nextFound⟩
  refine ⟨fun found => ?_, fun {read key next} absent found => ?_⟩
  · obtain ⟨between, betweenFound, sameStatus⟩ := leaves.stored found
    obtain ⟨next, nextFound, nextStatus⟩ := still betweenFound
    exact ⟨next, nextFound, nextStatus.trans sameStatus⟩
  · cases between : store.find? read key with
    | none => exact sameStatus.trans (written.status_of_new between found)
    | some stored =>
        obtain ⟨other, otherFound, otherStatus⟩ := still between
        rw [found] at otherFound
        obtain rfl := Option.some.inj otherFound
        rw [otherStatus]
        exact leaves.new absent between

theorem leaves_perform (call : UserCall) (world : World) (unspent : world.store.IsUnspent) :
    call.Leaves world.store (call.perform world).store :=
  ((call.through_perform world).preserves
    (fun store => store.IsUnspent ∧ call.Leaves world.store store)
    (fun holds written => ⟨written.elim fun _ ⟨_, _, admitted⟩ => admitted.edit.isUnspent holds.1,
      holds.2.write holds.1 written⟩)
    ⟨unspent, leaves_refl call world.store⟩).2

end UserCall

/-- A step of a run in which users call what they like. -/
inductive Step where
  | ask (call : UserCall)
  | act (action : Action)

namespace Step

def perform (world : World) : Step → World
  | .ask call => call.perform world
  | .act action => action.perform world

/-- Those who write in a step. -/
def actors : Step → List Actor
  | .ask _ | .act (.apply _) | .act (.delete _ _) => [.user]
  | .act (.report _) | .act (.forget _) => [.runtime]
  | .act (.reconcileRegistration _) => [.registrationPass]
  | .act (.reconcileDeployment _ _) => [.deploymentPass]
  | .act (.syncStatus _) => [.statusReport]
  | .act (.reconcileInstance _ _) => [.instancePass]
  | .act (.reconcileTarget _ _) => [.targetPass]
  | .act (.tick _ _) =>
      [.registrationPass, .deploymentPass, .statusReport, .instancePass, .targetPass]

/-- Whether the step leaves it to the passes what instance a deployment names. -/
def IsRegular : Step → Prop
  | .act (.forget _) => False
  | _ => True

/-- A write of the step: that of one of those who write in it, who accounts for it. -/
def Writes (step : Step) (before after : Store) : Prop :=
  ∃ actor ∈ step.actors, before.Accounts actor after

end Step

theorem Resync.Write.accounts {before after : Store} (written : Resync.Write before after)
    (settings : Settings) (seen : Seen) :
    (Step.act (.tick settings seen)).Writes before after := by
  cases written with
  | registration written => exact ⟨.registrationPass, by simp [Step.actors], written.accounts⟩
  | deployment written => exact ⟨.deploymentPass, by simp [Step.actors], written.accounts⟩
  | report written => exact ⟨.statusReport, by simp [Step.actors], written.accounts⟩
  | tenantInstance written => exact ⟨.instancePass, by simp [Step.actors], written.accounts⟩
  | target written => exact ⟨.targetPass, by simp [Step.actors], written.accounts⟩

theorem Manifest.Write.keepsStatuses {manifest : Manifest} {before after : Store}
    (written : manifest.Write before after) : before.KeepsStatuses after := by
  cases written with
  | tenantSpace written | target written | deployment written | registration written
  | scheduling accepted written => exact written.keepsStatuses

theorem Action.Write.accounts {action : Action} {before after : Store}
    (written : action.Write before after) (regular : (Step.act action).IsRegular) :
    (Step.act action).Writes before after := by
  cases written with
  | apply written =>
      exact ⟨.user, List.mem_singleton_self _,
        Store.accounts_of_keepsStatuses written.keepsStatuses⟩
  | delete present sameText deletion =>
      exact ⟨.user, List.mem_singleton_self _,
        Store.accounts_of_keepsStatuses (deletion.keepsStatuses present)⟩
  | report present sameText =>
      exact ⟨.runtime, List.mem_singleton_self _, Store.accounts_of_instance _ _⟩
  | forget present sameText => exact absurd regular id
  | reconcileRegistration written =>
      exact ⟨.registrationPass, List.mem_singleton_self _, written.accounts⟩
  | reconcileDeployment written =>
      exact ⟨.deploymentPass, List.mem_singleton_self _, written.accounts⟩
  | reconcileInstance written =>
      exact ⟨.instancePass, List.mem_singleton_self _, written.accounts⟩
  | reconcileTarget written => exact ⟨.targetPass, List.mem_singleton_self _, written.accounts⟩
  | syncStatus written => exact ⟨.statusReport, List.mem_singleton_self _, written.accounts⟩
  | tick written => exact written.accounts _ _

namespace Step

theorem through_perform (step : Step) (regular : step.IsRegular) (world : World) :
    World.Through step.Writes world (step.perform world) := by
  cases step with
  | ask call =>
      exact (call.through_perform world).mono fun ⟨_, _, _, written⟩ =>
        ⟨.user, List.mem_singleton_self _, Store.accounts_of_keepsStatuses written.keepsStatuses⟩
  | act action =>
      exact (action.through_perform world).mono fun written => written.accounts regular

theorem through_run (steps : List Step) (regular : ∀ step ∈ steps, step.IsRegular)
    (world : World) :
    World.Through (fun before after => ∃ step ∈ steps, step.Writes before after) world
      (steps.foldl perform world) := by
  refine .foldl steps world fun step stepMem world => ?_
  exact (step.through_perform (regular step stepMem) world).mono fun written =>
    ⟨step, stepMem, written⟩

end Step

namespace World

/-- Whatever store requests have led to and whatever a user calls, with whatever status: what is
stored stays, with its status, and what the call creates has the status that was handed in, so that
of its kind if that was none.  And in every run the lists of targets change by placing instances
and giving places back in the passes on deployments and instances alone, the generations seen by the
pass on registrations, and the instances named by the pass on deployments. -/
theorem user_calls_keep_statuses (requests : List Request) {world : World}
    (reached : world.store = (History.ofRequests requests).store) (call : UserCall)
    (steps : List Step) (regular : ∀ step ∈ steps, step.IsRegular) :
    (∀ kind key (object : Object kind), world.store.find? kind key = some object →
      ∃ next, (call.perform world).store.find? kind key = some next ∧
        next.status = object.status) ∧
    (∀ kind key (next : Object kind), world.store.find? kind key = none →
      (call.perform world).store.find? kind key = some next →
        call.status = ⟨kind, next.status⟩ ∧
          (call.status = ⟨kind, kind.initialStatus⟩ → next.status = kind.initialStatus)) ∧
    World.Through
      (fun before after => ∃ step ∈ steps, ∃ actor ∈ step.actors, before.Accounts actor after)
      world (steps.foldl Step.perform world) := by
  have unspent : world.store.IsUnspent := reached ▸ History.isUnspent_ofRequests requests
  have leaves := call.leaves_perform world unspent
  refine ⟨fun kind key object found => leaves.stored found,
    fun kind key next absent found => ?_, Step.through_run steps regular world⟩
  have handedIn := leaves.new absent found
  refine ⟨handedIn, fun blank => ?_⟩
  rw [handedIn, Sigma.mk.injEq] at blank
  exact eq_of_heq blank.2

/-- A target as a user may hand it in, with a status that says that it hosts an instance. -/
def occupied : Target where
  metadata := { name := "east", scope := "fleet" }
  spec :=
    { priority := 1
      visible := true
      secret := { name := "access", scope := "fleet", entry := "kubeconfig" }
      ingressDomain := "example" }
  status := { assigned := [⟨"tenant01", "ghost"⟩], capacity := some 3 }

/-- A target that is stored keeps its status when a user applies it with another. -/
theorem user_calls_keep_statuses_of_free_target :
    let requests : List Request :=
      [.create { occupied with status := {} } 0 fun _ => 0]
    let world := World.around (History.ofRequests requests).store 0 0
    let call := UserCall.applyManifest (.target occupied)
    ∃ stored next, world.store.find? .target ⟨"fleet", "east"⟩ = some stored ∧
      (call.perform world).store.find? .target ⟨"fleet", "east"⟩ = some next ∧
        next.status = stored.status ∧ call.status ≠ ⟨.target, next.status⟩ := by
  intro requests world call
  have isThere : (world.store.find? .target ⟨"fleet", "east"⟩).isSome = true := by decide +kernel
  have isFree : (world.store.find? .target ⟨"fleet", "east"⟩).map (fun stored => stored.status) =
      some {} := by
    decide +kernel
  obtain ⟨stored, found⟩ := Option.isSome_iff_exists.1 isThere
  have reached : world.store = (History.ofRequests requests).store := rfl
  have holds := user_calls_keep_statuses requests reached call
    [.ask call, .act (.tick {} [])] (by simp [Step.IsRegular])
  obtain ⟨next, nextFound, sameStatus⟩ := holds.1 .target ⟨"fleet", "east"⟩ stored found
  rw [found] at isFree
  refine ⟨stored, next, found, nextFound, sameStatus, fun handedIn => ?_⟩
  have freed : stored.status = {} := Option.some.inj isFree
  rw [sameStatus, freed] at handedIn
  revert handedIn
  decide

/-- A target that a call creates has the status that was handed in, not that of its kind: it is
taken to host an instance that does not exist. -/
theorem new_target_is_occupied :
    let world := World.around {} 0 0
    let call := UserCall.applyManifest (.target occupied)
    world.store = (History.ofRequests []).store ∧
      world.store.find? .target ⟨"fleet", "east"⟩ = none ∧
        ∃ next, (call.perform world).store.find? .target ⟨"fleet", "east"⟩ = some next ∧
          next.status = { assigned := [⟨"tenant01", "ghost"⟩], capacity := some 3 } ∧
            next.status ≠ Kind.initialStatus .target := by
  intro world call
  have isNew : ((call.perform world).store.find? .target ⟨"fleet", "east"⟩).map
      (fun next => next.status) = some occupied.status := by
    decide +kernel
  obtain ⟨next, found, isStatus⟩ := Option.map_eq_some_iff.1 isNew
  exact ⟨rfl, by decide, next, found, isStatus, by rw [isStatus]; decide⟩

end World

end TenantFleet
