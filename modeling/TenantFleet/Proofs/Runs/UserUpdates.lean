import TenantFleet.Draws
import TenantFleet.Proofs.Passes.Outcomes
import TenantFleet.Proofs.Passes.UserUpdates
import TenantFleet.Proofs.Runs.Statuses

/-!
# Updates take nothing away

On every store that requests and users' calls have led to, an update of a user
that succeeds leaves its object stored, also when that is marked for deletion,
and changes of it what is the user's.
-/

namespace TenantFleet

/-- The stores that requests to the store and users' calls lead to. -/
inductive Store.IsServed : Store → Prop
  | empty : IsServed {}
  | request {store after : Store} {request : Request} {issue : Option Issue}
      (served : IsServed store) (done : request.perform store = .ok (issue, after)) :
      IsServed after
  | call {world : World} (served : IsServed world.store) (call : UserCall) :
      IsServed (call.perform world).store

namespace Store

theorem IsServed.invariant {store : Store} (property : Store → Prop) (atStart : property {})
    (kept : ∀ {before after : Store}, before.Edit after → property before → property after)
    (served : store.IsServed) : property store := by
  induction served with
  | empty => exact atStart
  | request served done ih =>
      rcases edit_of_perform done with rfl | edit
      · exact ih
      · exact kept edit ih
  | @call world served call ih =>
      refine (call.through_perform world).preserves property (fun holds written => ?_) ih
      obtain ⟨kind, object, -, admitted⟩ := written
      exact kept admitted.edit holds

theorem IsServed.isUnspent {store : Store} (served : store.IsServed) : store.IsUnspent :=
  served.invariant _ isUnspent_empty Edit.isUnspent

theorem IsServed.isCounted {store : Store} (served : store.IsServed) : store.IsCounted :=
  served.invariant _ isCounted_empty Edit.isCounted

end Store

namespace History

theorem isServed_after {history : History} (served : history.store.IsServed)
    (request : Request) : (history.after request).store.IsServed := by
  unfold after
  split
  next issue store done => exact .request served done
  next => exact served

theorem isServed_ofRequests (requests : List Request) : (ofRequests requests).store.IsServed :=
  List.foldlRecOn requests after (motive := fun history => history.store.IsServed)
    Store.IsServed.empty fun _ served request _ => isServed_after served request

end History

namespace World

variable {world : World}

/-- A user's update that succeeds leaves the object stored with the finalizers, owners, status and
times that it had, with its managed labels and with what the user has written, at a version that no
object has had and at the next generation if the spec is another; no other object changes.  A write
of a user that fails changes nothing, on whatever store. -/
theorem user_updates_take_nothing (served : world.store.IsServed) :
    (∀ kind (object updated : Object kind) (after : World),
      (Admission.update object).runOn world = (.ok updated, after) →
        world.store.HasRevised after.store object updated) ∧
    (∀ kind (object : Object kind),
      Pass.FailsClean (Admission.create object) ∧ Pass.FailsClean (Admission.update object) ∧
        Pass.FailsClean (Admission.apply object)) ∧
    ∀ draft, Pass.FailsClean (Admission.applyScheduling draft) :=
  ⟨fun _ _ _ _ ran => Admission.hasRevised_of_update served.isUnspent served.isCounted ran,
    fun _ object => ⟨Admission.failsClean_create object, Admission.failsClean_update object,
      Admission.failsClean_apply object⟩,
    Admission.failsClean_applyScheduling⟩

/-- A registration that is on its way out, as the control plane keeps it. -/
def leaving : World :=
  let registration : Registration :=
    { metadata :=
        { name := "web", scope := "tenant01", finalizers := [finalizer]
          labels := (Labels.set .empty registrationLabel "tenant01/web").set "team" "blue" }
      spec := { purpose := "demo" }
      status := { userKubeconfig := "access" } }
  .around (History.ofRequests
    [.create registration 5 (scatteredSuffixes 0).value,
      .delete .registration ⟨"tenant01", "web"⟩ 6]).store 9 0

/-- The user hands in the registration without finalizers and with another label.  It stays marked
and held, and the label of the control plane stays. -/
theorem user_updates_take_nothing_of_leaving :
    let version : Registration :=
      { metadata := { name := "web", scope := "tenant01", labels := Labels.set .empty "tier" "a" }
        spec := { purpose := "trial" }
        status := {} }
    ∃ updated after, (Admission.update version).runOn leaving = (.ok updated, after) ∧
      leaving.store.HasRevised after.store version updated ∧
      updated.isMarked = true ∧ updated.isHeld = true ∧ updated.metadata.generation = 2 ∧
      updated.metadata.label? registrationLabel = some "tenant01/web" ∧
      updated.metadata.label? "tier" = some "a" ∧ updated.metadata.label? "team" = none := by
  intro version
  have served : leaving.store.IsServed := History.isServed_ofRequests _
  have said : ((Admission.update version).outcome? leaving).isSome = true := by decide +kernel
  obtain ⟨updated, isOutcome⟩ := Option.isSome_iff_exists.1 said
  obtain ⟨after, ran⟩ := Pass.exists_of_outcome? isOutcome
  have header : ((Admission.update version).outcome? leaving).map (fun updated =>
      (Object.isMarked updated, Object.isHeld updated, updated.metadata.generation)) =
        some (true, true, 2) := by
    decide +kernel
  have labels : ((Admission.update version).outcome? leaving).map (fun updated =>
      [registrationLabel, "tier", "team"].map updated.metadata.label?) =
        some [some "tenant01/web", some "a", none] := by
    decide +kernel
  rw [isOutcome] at header labels
  obtain ⟨marked, isHeld, generation⟩ := by
    simpa only [Option.map_some, Option.some.injEq, Prod.mk.injEq] using header
  obtain ⟨managed, own, gone⟩ := by
    simpa only [Option.map_some, Option.some.injEq, List.map_cons, List.map_nil, List.cons.injEq,
      and_true] using labels
  have revised := (user_updates_take_nothing served).1 .registration version updated after ran
  exact ⟨updated, after, ran, revised, marked, isHeld, generation, managed, own, gone⟩

end World

end TenantFleet
