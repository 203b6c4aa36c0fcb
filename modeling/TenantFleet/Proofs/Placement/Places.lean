import Mathlib.Data.Finset.Basic
import Mathlib.Data.Finset.Dedup
import TenantFleet.Draws
import TenantFleet.Proofs.Passes.Place
import TenantFleet.Proofs.Placement.Choice
import TenantFleet.Proofs.Store.Requests

/-!
# The list of a target as a set

An instance is put on the list of a target, or taken off it, by a call that
reads the target and writes its status; another call publishes the number of
places left.  Whatever calls are made, on whatever targets, a list without
repetitions stays one.  It holds what a set would hold from which the same
instances are taken and to which the same are added, in the order in which they
came.  Nothing else of the store changes with it.
-/

namespace TenantFleet

/-- Two lists have the members that they share in the same order. -/
def InOneOrder (first second : List ObjectKey) : Prop :=
  first.filter (· ∈ second) = second.filter (· ∈ first)

theorem inOneOrder_append {assigned : List ObjectKey} {instanceKey : ObjectKey}
    (absent : instanceKey ∉ assigned) : InOneOrder assigned (assigned ++ [instanceKey]) := by
  have kept : assigned.filter (· ∈ assigned ++ [instanceKey]) = assigned :=
    List.filter_eq_self.2 fun member memberMem => by simp [memberMem]
  have added : (assigned ++ [instanceKey]).filter (· ∈ assigned) = assigned := by
    simp [List.filter_append, absent]
  rw [InOneOrder, kept, added]

theorem inOneOrder_filter (assigned : List ObjectKey) (isKept : ObjectKey → Bool) :
    InOneOrder assigned (assigned.filter isKept) := by
  have kept : assigned.filter (· ∈ assigned.filter isKept) = assigned.filter isKept :=
    List.filter_congr fun member memberMem => by simp [memberMem]
  have still : (assigned.filter isKept).filter (· ∈ assigned) = assigned.filter isKept :=
    List.filter_eq_self.2 fun member memberMem => by simp [List.mem_of_mem_filter memberMem]
  rw [InOneOrder, kept, still]

/-- A call about the places on the target under a key. -/
inductive PlaceCall where
  | assign (target instanceKey : ObjectKey)
  | release (target instanceKey : ObjectKey)
  | publish (target : ObjectKey)
deriving DecidableEq, Repr

namespace PlaceCall

def target : PlaceCall → ObjectKey
  | .assign target _ | .release target _ | .publish target => target

/-- The instance that the call is about, if it is about one. -/
def instanceKey? : PlaceCall → Option ObjectKey
  | .assign _ instanceKey | .release _ instanceKey => some instanceKey
  | .publish _ => none

def run (settings : Settings) : PlaceCall → Pass PassFailure Bool
  | .assign target instanceKey => assignPlace settings target instanceKey
  | .release target instanceKey => releasePlace settings target instanceKey
  | .publish target => reconcileTarget settings target

/-- What the call does to a list: an instance that is assigned goes to the end if it is not there,
and one that is released goes. -/
def onList (assigned : List ObjectKey) : PlaceCall → List ObjectKey
  | .assign _ instanceKey =>
      if instanceKey ∈ assigned then assigned else assigned ++ [instanceKey]
  | .release _ instanceKey => assigned.erase instanceKey
  | .publish _ => assigned

/-- What the call does to a set. -/
def onSet (members : Finset ObjectKey) : PlaceCall → Finset ObjectKey
  | .assign _ instanceKey => insert instanceKey members
  | .release _ instanceKey => members.erase instanceKey
  | .publish _ => members

variable {assigned : List ObjectKey} {calls : List PlaceCall} {call : PlaceCall}

theorem nodup_onList (distinct : assigned.Nodup) (call : PlaceCall) :
    (onList assigned call).Nodup := by
  cases call with
  | assign _ instanceKey =>
      by_cases present : instanceKey ∈ assigned
      · rwa [onList, if_pos present]
      · rw [onList, if_neg present]
        exact List.nodup_append_comm.1 (List.nodup_cons.2 ⟨present, distinct⟩)
  | release _ instanceKey => exact distinct.erase instanceKey
  | publish => exact distinct

theorem mem_onList (distinct : assigned.Nodup) (call : PlaceCall) (member : ObjectKey) :
    member ∈ onList assigned call ↔ member ∈ onSet assigned.toFinset call := by
  cases call with
  | assign _ instanceKey =>
      by_cases present : instanceKey ∈ assigned
      · simp only [onList, onSet, if_pos present, Finset.mem_insert, List.mem_toFinset]
        exact ⟨.inr, fun known => known.elim (fun same => same ▸ present) id⟩
      · simp [onList, onSet, present, or_comm]
  | release _ instanceKey => simp [onList, onSet, distinct.mem_erase_iff]
  | publish => simp [onList, onSet]

theorem nodup_foldl_onList (distinct : assigned.Nodup) (calls : List PlaceCall) :
    (calls.foldl onList assigned).Nodup := by
  induction calls generalizing assigned with
  | nil => exact distinct
  | cons call rest ih => exact ih (nodup_onList distinct call)

/-- The list holds what the set does, call by call. -/
theorem toFinset_foldl_onList (distinct : assigned.Nodup) (calls : List PlaceCall) :
    (calls.foldl onList assigned).toFinset = calls.foldl onSet assigned.toFinset := by
  induction calls generalizing assigned with
  | nil => rfl
  | cons call rest ih =>
      have sameMembers : (onList assigned call).toFinset = onSet assigned.toFinset call :=
        Finset.ext fun member => List.mem_toFinset.trans (mem_onList distinct call member)
      rw [List.foldl_cons, ih (nodup_onList distinct call), sameMembers, List.foldl_cons]

/-- Calls about different instances do the same to a set in either order. -/
theorem onSet_comm {first second : PlaceCall}
    (apart : ∀ instanceKey, first.instanceKey? = some instanceKey →
      second.instanceKey? ≠ some instanceKey) (members : Finset ObjectKey) :
    onSet (onSet members first) second = onSet (onSet members second) first := by
  cases first with
  | publish => rfl
  | assign _ firstKey =>
      cases second with
      | publish => rfl
      | assign _ secondKey => exact Finset.insert_comm secondKey firstKey members
      | release _ secondKey =>
          have different : firstKey ≠ secondKey := fun same => apart firstKey rfl (same ▸ rfl)
          exact Finset.erase_insert_of_ne different
  | release _ firstKey =>
      cases second with
      | publish => rfl
      | assign _ secondKey =>
          have different : secondKey ≠ firstKey := fun same => apart firstKey rfl (same ▸ rfl)
          exact (Finset.erase_insert_of_ne different).symm
      | release _ secondKey => exact Finset.erase_right_comm

/-- Calls about different instances leave the same members on a list in either order. -/
theorem perm_onList_comm (distinct : assigned.Nodup) {first second : PlaceCall}
    (apart : ∀ instanceKey, first.instanceKey? = some instanceKey →
      second.instanceKey? ≠ some instanceKey) :
    (onList (onList assigned first) second).Perm (onList (onList assigned second) first) := by
  apply List.perm_of_nodup_nodup_toFinset_eq (nodup_foldl_onList distinct [first, second])
    (nodup_foldl_onList distinct [second, first])
  rw [toFinset_foldl_onList distinct, toFinset_foldl_onList distinct]
  exact onSet_comm apart _

/-- What is put on a list and taken off it again leaves the list as it was. -/
theorem erase_onList_assign {target instanceKey : ObjectKey} (absent : instanceKey ∉ assigned) :
    onList (onList assigned (.assign target instanceKey)) (.release target instanceKey) =
      assigned := by
  simp [onList, absent, List.erase_append_right]

/-! ### Calls on a store -/

variable {settings : Settings} {world : World} {key : ObjectKey} {target changed : Target}

/-- The change of the target's status that the call makes. -/
def change : PlaceCall → TargetChange
  | .assign _ instanceKey => .placing instanceKey
  | .release _ instanceKey => .removing instanceKey
  | .publish _ => .publishing

theorem run_eq (settings : Settings) (call : PlaceCall) :
    call.run settings = call.change.run settings call.target := by
  cases call <;> rfl

theorem change_keepsMetadata (call : PlaceCall) : call.change.KeepsMetadata := by
  cases call with
  | assign _ instanceKey => exact TargetChange.placing_keepsMetadata instanceKey
  | release _ instanceKey => exact TargetChange.removing_keepsMetadata instanceKey
  | publish => exact TargetChange.publishing_keepsMetadata

/-- A call that changes nothing is one that leaves the list as it is. -/
theorem onList_of_idle (idle : call.change.apply target = none) :
    onList target.status.assigned call = target.status.assigned := by
  cases call with
  | assign _ instanceKey =>
      have present : instanceKey ∈ target.status.assigned := by
        simpa [change, TargetChange.apply_placing, Target.hosts] using idle
      rw [onList, if_pos present]
  | release _ instanceKey =>
      have absent : instanceKey ∉ target.status.assigned := by
        simpa [change, TargetChange.apply_removing, Target.hosts] using idle
      exact List.erase_of_not_mem absent
  | publish => rfl

/-- What a call writes of a target: the number of places left, and the list as it is wanted. -/
theorem status_of_apply (applied : call.change.apply target = some changed) :
    changed.status.capacity = some (10 - (changed.status.assigned.length : Int)) ∧
      InOneOrder target.status.assigned changed.status.assigned ∧
      (target.status.assigned.Nodup →
        changed.status.assigned = onList target.status.assigned call) := by
  cases call with
  | assign _ instanceKey =>
      rw [change, TargetChange.apply_placing, Option.ite_none_left_eq_some] at applied
      obtain ⟨unhosted, placed⟩ := applied
      obtain rfl := Option.some.inj placed
      have absent : instanceKey ∉ target.status.assigned := by
        simpa [Target.hosts] using unhosted
      exact ⟨rfl, inOneOrder_append absent, fun _ => by rw [onList, if_neg absent]; rfl⟩
  | release _ instanceKey =>
      rw [change, TargetChange.apply_removing, Option.ite_none_right_eq_some] at applied
      obtain rfl := Option.some.inj applied.2
      refine ⟨rfl, inOneOrder_filter _ _, fun distinct => ?_⟩
      rw [onList, distinct.erase_eq_filter]
      exact List.filter_congr fun member _ => by simp [bne, Bool.beq_eq_decide_eq]
  | publish =>
      rw [change, TargetChange.apply_publishing, Option.ite_none_left_eq_some] at applied
      obtain rfl := Option.some.inj applied.2
      exact ⟨rfl, rfl, fun _ => rfl⟩

/-- A call leaves the world as it is, or writes the status of its target. -/
theorem run_cases (settings : Settings) (call : PlaceCall) (world : World) :
    (∃ outcome, outcome ≠ .ok true ∧ (call.run settings).runOn world = (outcome, world) ∧
      ∀ target, world.store.find? .target call.target = some target →
        outcome = .ok false ∧ call.change.apply target = none) ∨
      ∃ target changed, world.store.find? .target call.target = some target ∧
        call.change.apply target = some changed ∧
        (call.run settings).runOn world =
          (.ok true, world.commit
            (world.store.write (some target) (world.store.restated target changed.status))) := by
  rw [run_eq]
  cases isFound : world.store.find? .target call.target with
  | none =>
      refine .inl ⟨_, ?_, TargetChange.runOn_absent isFound, by simp⟩
      split <;> simp
  | some target =>
      cases applied : call.change.apply target with
      | none =>
          refine .inl ⟨_, by simp, TargetChange.runOn_idle isFound applied, ?_⟩
          intro other same
          exact ⟨rfl, Option.some.inj same ▸ applied⟩
      | some changed =>
          exact .inr ⟨target, changed, rfl, applied,
            TargetChange.runOn_written (change_keepsMetadata call) isFound applied⟩

end PlaceCall

/-- What is wanted of the target is the same, and so is its header but for the version. -/
structure Target.IsRelisted (earlier later : Target) : Prop where
  sameSpec : later.spec = earlier.spec
  sameMetadata : later.metadata =
    { earlier.metadata with resourceVersion := later.metadata.resourceVersion }

namespace Target.IsRelisted

variable {earlier between later : Target}

theorem refl (target : Target) : Target.IsRelisted target target :=
  ⟨rfl, rfl⟩

theorem trans (first : Target.IsRelisted earlier between)
    (second : Target.IsRelisted between later) : Target.IsRelisted earlier later where
  sameSpec := second.sameSpec.trans first.sameSpec
  sameMetadata := second.sameMetadata.trans (by rw [first.sameMetadata])

theorem restated (store : Store) (target : Target) (status : TargetStatus) :
    Target.IsRelisted target (store.restated target status) :=
  ⟨rfl, rfl⟩

end Target.IsRelisted

namespace PlaceCall

variable {settings : Settings} {world after : World} {key : ObjectKey} {target changed : Target}
  {call : PlaceCall} {outcome : Except PassFailure Bool}

/-- What a call does to a world: it says that it wrote just if it did, and else the world stays as
it is.  It writes nothing but the list and the places of its target, leaves what stays on the list
in its order, and publishes how many places are left. -/
structure KeepsBooks (call : PlaceCall) (world : World) (outcome : Except PassFailure Bool)
    (after : World) : Prop where
  wrote : outcome = .ok true ↔ after.journal = world.journal ++ [after.store]
  idle : outcome ≠ .ok true → after = world
  published : outcome = .ok true → ∃ written : Target,
    after.store.find? .target call.target = some written ∧
      written.status.capacity = some (10 - (written.status.assigned.length : Int))
  others : ∀ kind key, kind ≠ .target ∨ key.text ≠ call.target.text →
    after.store.find? kind key = world.store.find? kind key
  relisted : ∀ earlier : Target, world.store.find? .target call.target = some earlier →
    (∃ wrote, outcome = .ok wrote) ∧ ∃ later : Target,
      after.store.find? .target call.target = some later ∧ Target.IsRelisted earlier later ∧
        InOneOrder earlier.status.assigned later.status.assigned

theorem keepsBooks_of_run (ran : (call.run settings).runOn world = (outcome, after)) :
    call.KeepsBooks world outcome after := by
  rcases run_cases settings call world with
    ⟨_, notTrue, isIdle, settled⟩ | ⟨target, changed, isFound, applied, isWritten⟩
  · obtain ⟨rfl, rfl⟩ := Prod.mk.inj (isIdle.symm.trans ran)
    exact {
      wrote := ⟨fun isTrue => absurd isTrue notTrue, fun noted => by simp at noted⟩
      idle := fun _ => rfl
      published := fun isTrue => absurd isTrue notTrue
      others := fun _ _ _ => rfl
      relisted := fun earlier isFound =>
        ⟨⟨false, (settled earlier isFound).1⟩, earlier, isFound, .refl earlier, rfl⟩ }
  · obtain ⟨rfl, rfl⟩ := Prod.mk.inj (isWritten.symm.trans ran)
    have isFoundAfter := Store.find?_restated isFound changed.status
    exact {
      wrote := ⟨fun _ => rfl, fun _ => rfl⟩
      idle := fun notTrue => absurd rfl notTrue
      published := fun _ => ⟨_, isFoundAfter, (status_of_apply applied).1⟩
      others := by
        intro kind other elsewhere
        by_cases isTarget : kind = .target
        · subst isTarget
          have different := elsewhere.resolve_left (fun other => other rfl)
          exact Store.find?_restated_of_ne isFound (Ne.symm different) changed.status
        · exact Store.find?_write_of_ne world.store _ _ isTarget other
      relisted := by
        intro earlier isFoundBefore
        obtain rfl := Option.some.inj (isFound.symm.trans isFoundBefore)
        have inOrder := (status_of_apply applied).2.1
        exact ⟨⟨true, rfl⟩, _, isFoundAfter, .restated _ _ _, inOrder⟩ }

/-- The calls about the target under the key. -/
def about (key : ObjectKey) (calls : List PlaceCall) : List PlaceCall :=
  calls.filter fun call => call.target.text = key.text

/-- A call does to the list of its target what it does to any list, and nothing to other lists. -/
theorem lists_of_run (ran : (call.run settings).runOn world = (outcome, after))
    (isFound : world.store.find? .target key = some target)
    (distinct : target.status.assigned.Nodup) :
    ∃ later : Target, after.store.find? .target key = some later ∧
      Target.IsRelisted target later ∧
      later.status.assigned = (about key [call]).foldl onList target.status.assigned := by
  by_cases isAbout : call.target.text = key.text
  · have isFoundThere : world.store.find? .target call.target = some target := by
      rw [← isFound, Store.find?, Store.find?, isAbout]
    have isOne : about key [call] = [call] := by simp [about, isAbout]
    rw [isOne]
    rcases run_cases settings call world with
      ⟨_, -, isIdle, settled⟩ | ⟨other, changed, isFoundToo, applied, isWritten⟩
    · obtain ⟨-, rfl⟩ := Prod.mk.inj (isIdle.symm.trans ran)
      exact ⟨target, isFound, .refl target, (onList_of_idle (settled target isFoundThere).2).symm⟩
    · obtain ⟨-, rfl⟩ := Prod.mk.inj (isWritten.symm.trans ran)
      obtain rfl := Option.some.inj (isFoundThere.symm.trans isFoundToo)
      exact ⟨_, Store.find?_restated isFound changed.status, .restated _ _ _,
        (status_of_apply applied).2.2 distinct⟩
  · have isNone : about key [call] = [] := by simp [about, isAbout]
    rw [isNone]
    have untouched := (keepsBooks_of_run ran).others .target key (.inr (Ne.symm isAbout))
    exact ⟨target, untouched.trans isFound, .refl target, rfl⟩

end PlaceCall

namespace World

variable {world : World} {key : ObjectKey} {target : Target}

/-- The world after the calls, whatever each of them answers. -/
def afterCalls (settings : Settings) (world : World) (calls : List PlaceCall) : World :=
  calls.foldl (fun world call => ((call.run settings).runOn world).2) world

/-- The list of a target after any calls. -/
theorem lists_afterCalls (settings : Settings)
    (isFound : world.store.find? .target key = some target)
    (distinct : target.status.assigned.Nodup) (calls : List PlaceCall) :
    ∃ now : Target, (world.afterCalls settings calls).store.find? .target key = some now ∧
      Target.IsRelisted target now ∧
      now.status.assigned =
        (PlaceCall.about key calls).foldl PlaceCall.onList target.status.assigned := by
  induction calls generalizing world target with
  | nil => exact ⟨target, isFound, .refl target, rfl⟩
  | cons call rest ih =>
      obtain ⟨later, isFoundLater, relisted, lists⟩ :=
        PlaceCall.lists_of_run (Prod.mk.eta.symm : (call.run settings).runOn world = _) isFound
          distinct
      have stillDistinct : later.status.assigned.Nodup := by
        rw [lists]
        exact PlaceCall.nodup_foldl_onList distinct _
      obtain ⟨now, isFoundNow, relistedToo, listsNow⟩ := ih isFoundLater stillDistinct
      refine ⟨now, isFoundNow, relisted.trans relistedToo, ?_⟩
      rw [listsNow, lists, ← List.foldl_append, PlaceCall.about, PlaceCall.about,
        ← List.filter_append]
      rfl

/-- The list of a target after two calls that are about it. -/
theorem list_after_pair (settings : Settings)
    (isFound : world.store.find? .target key = some target)
    (distinct : target.status.assigned.Nodup) (first second : PlaceCall)
    (firstAbout : first.target.text = key.text) (secondAbout : second.target.text = key.text) :
    ∃ now : Target,
      (world.afterCalls settings [first, second]).store.find? .target key = some now ∧
      now.status.assigned =
        PlaceCall.onList (PlaceCall.onList target.status.assigned first) second := by
  obtain ⟨now, isFoundNow, -, lists⟩ := lists_afterCalls settings isFound distinct [first, second]
  have bothAbout : PlaceCall.about key [first, second] = [first, second] := by
    simp [PlaceCall.about, firstAbout, secondAbout]
  exact ⟨now, isFoundNow, by rw [lists, bothAbout]; rfl⟩

/-- The lists of targets are kept like sets.  Whatever calls were made, the next one says that it
wrote just if it did, publishes then how many places are left, and changes no other object.  Where
the list of a target had no repetitions, it has none after the calls; it is the list from the
beginning with the instances that were assigned put at the end, unless they were there, and those
that were released taken out, and the rest of the target stays.  So releasing what was assigned anew
restores the list, and the order of two calls about different instances does not show in the set. -/
theorem places_are_kept_like_a_set (settings : Settings) (world : World)
    (calls : List PlaceCall) :
    let current := world.afterCalls settings calls
    (∀ (call : PlaceCall) outcome after,
      (call.run settings).runOn current = (outcome, after) →
        call.KeepsBooks current outcome after) ∧
    ∀ (key : ObjectKey) (target : Target), world.store.find? .target key = some target →
      target.status.assigned.Nodup →
      ∃ now : Target, current.store.find? .target key = some now ∧
        Target.IsRelisted target now ∧
        now.status.assigned.Nodup ∧
        now.status.assigned =
          (PlaceCall.about key calls).foldl PlaceCall.onList target.status.assigned ∧
        now.status.assigned.toFinset =
          (PlaceCall.about key calls).foldl PlaceCall.onSet target.status.assigned.toFinset ∧
        (∀ instanceKey, instanceKey ∉ now.status.assigned → ∃ restored : Target,
          (current.afterCalls settings
            [.assign key instanceKey, .release key instanceKey]).store.find? .target key =
              some restored ∧
            restored.status.assigned = now.status.assigned) ∧
        ∀ first second : PlaceCall,
          first.target.text = key.text → second.target.text = key.text →
          (∀ instanceKey, first.instanceKey? = some instanceKey →
            second.instanceKey? ≠ some instanceKey) →
          ∃ one other : Target,
            (current.afterCalls settings [first, second]).store.find? .target key = some one ∧
            (current.afterCalls settings [second, first]).store.find? .target key = some other ∧
            one.status.assigned.Perm other.status.assigned := by
  intro current
  refine ⟨fun call outcome after ran => PlaceCall.keepsBooks_of_run ran, ?_⟩
  intro key target isFound distinct
  obtain ⟨now, isFoundNow, relisted, lists⟩ := lists_afterCalls settings isFound distinct calls
  have stillDistinct : now.status.assigned.Nodup := by
    rw [lists]
    exact PlaceCall.nodup_foldl_onList distinct _
  refine ⟨now, isFoundNow, relisted, stillDistinct, lists, ?sets, ?restores, ?commutes⟩
  case sets =>
    rw [lists]
    exact PlaceCall.toFinset_foldl_onList distinct _
  case restores =>
    intro instanceKey absent
    obtain ⟨restored, isFoundRestored, list⟩ := list_after_pair settings isFoundNow stillDistinct
      (.assign key instanceKey) (.release key instanceKey) rfl rfl
    exact ⟨restored, isFoundRestored, list.trans (PlaceCall.erase_onList_assign absent)⟩
  case commutes =>
    intro first second firstAbout secondAbout apart
    obtain ⟨one, isFoundOne, listOne⟩ :=
      list_after_pair settings isFoundNow stillDistinct first second firstAbout secondAbout
    obtain ⟨other, isFoundOther, listOther⟩ :=
      list_after_pair settings isFoundNow stillDistinct second first secondAbout firstAbout
    refine ⟨one, other, isFoundOne, isFoundOther, ?_⟩
    rw [listOne, listOther]
    exact PlaceCall.perm_onList_comm stillDistinct apart

/-- There is a target that hosts an instance. -/
def housing : World :=
  let target := Deployment.europeanTarget "east" 7 [⟨"tenant02", "db-00001"⟩]
  .around (History.ofRequests [.create target 0 (scatteredSuffixes 0).value]).store 5 0

/-- One instance comes and the other one goes; a target that is not there makes no difference, and
in the end there is nothing left to publish. -/
theorem places_are_kept_like_a_set_once_housed :
    let key : ObjectKey := ⟨"fleet", "east"⟩
    let elsewhere : ObjectKey := ⟨"fleet", "west"⟩
    let arriving : ObjectKey := ⟨"tenant01", "web-00001"⟩
    let leaving : ObjectKey := ⟨"tenant02", "db-00001"⟩
    let current := housing.afterCalls {} [.assign key arriving, .assign elsewhere arriving,
      .publish elsewhere, .assign key arriving, .release key leaving]
    (∃ target : Target, housing.store.find? .target key = some target ∧
      target.status.assigned = [leaving]) ∧
    (∃ now : Target, current.store.find? .target key = some now ∧
      now.status.assigned = [arriving]) ∧
    (((PlaceCall.publish key).run {}).runOn current).1 = .ok false ∧
    (((PlaceCall.publish key).run {}).runOn current).2 = current := by
  intro key elsewhere arriving leaving current
  have housed : (housing.store.find? .target key).map (fun target => target.status.assigned) =
      some [leaving] := by decide +kernel
  obtain ⟨target, isFound, listed⟩ := Option.map_eq_some_iff.1 housed
  obtain ⟨eachCall, eachTarget⟩ := places_are_kept_like_a_set {} housing
    [.assign key arriving, .assign elsewhere arriving, .publish elsewhere, .assign key arriving,
      .release key leaving]
  obtain ⟨now, isFoundNow, -, -, lists, -⟩ := eachTarget key target isFound (by rw [listed]; decide)
  have listedNow : now.status.assigned = [arriving] := by
    rw [lists, listed]
    decide
  have unneeded : (((PlaceCall.publish key).run {}).runOn current).1 = .ok false := by
    decide +kernel
  have books := eachCall (.publish key) _ _ Prod.mk.eta.symm
  exact ⟨⟨target, isFound, listed⟩, ⟨now, isFoundNow, listedNow⟩, unneeded,
    books.idle (by rw [unneeded]; simp)⟩

end World

end TenantFleet
