import TenantFleet.Draws
import TenantFleet.Proofs.Coherence.Naming
import TenantFleet.Proofs.Passes.Synchrony
import TenantFleet.Proofs.Store.Requests

/-!
# Synced means synced

As long as no request writes a key with a slash in one of its parts, an object
is found under no other key than its own.  On every store that such requests
have led to, a pass that says of a registration that it is synced is to be
believed.
-/

namespace TenantFleet

namespace Request

variable {request : Request}

/-- The namespaces and the names that the request writes have no slash in them. -/
def IsSlashFree : Request → Prop
  | .create object _ _ =>
      object.key.IsSlashFree ∧
        (object.metadata.name = "" → '/' ∉ object.metadata.generateName.toList)
  | .update object => object.key.IsSlashFree
  | .setStatus _ | .delete _ _ _ => True

instance : (request : Request) → Decidable request.IsSlashFree
  | .create _ _ _ => inferInstanceAs (Decidable (_ ∧ _))
  | .update _ => inferInstanceAs (Decidable (ObjectKey.IsSlashFree _))
  | .setStatus _ | .delete _ _ _ => inferInstanceAs (Decidable True)

theorem IsSlashFree.brings (free : request.IsSlashFree) {key : ObjectKey} {labels : Labels}
    (brings : request.Brings key labels) : key.IsSlashFree := by
  cases request with
  | setStatus | delete => contradiction
  | update object =>
      obtain ⟨rfl, -⟩ := brings
      exact free
  | create object now suffix =>
      obtain ⟨freeKey, freeStart⟩ := free
      obtain ⟨scope, name⟩ := key
      obtain ⟨rfl, -, ⟨-, rfl⟩ | ⟨unnamed, attempt, rfl⟩⟩ := brings
      · exact freeKey
      · refine ⟨freeKey.1, ?_⟩
        simp only [String.toList_append, List.mem_append, not_or]
        exact ⟨freeStart unnamed, (NameSuffix.isPlainText_text (suffix attempt)).1⟩

end Request

namespace Store

variable {store after : Store}

theorem hasSlashFreeKeys_empty : ({} : Store).HasSlashFreeKeys := by
  intro kind object present
  rw [list_empty] at present
  exact absurd present List.not_mem_nil

theorem HasSlashFreeKeys.remove {kind : Kind} (free : store.HasSlashFreeKeys)
    (current : Object kind) : (store.remove current).HasSlashFreeKeys :=
  fun read object remains => free read object (mem_list_of_mem_list_remove remains)

theorem HasSlashFreeKeys.change (free : store.HasSlashFreeKeys) {request : Request}
    (slashFree : request.IsSlashFree) {issue : Option Issue}
    (change : store.Change request issue after) : after.HasSlashFreeKeys := by
  cases change with
  | idle => exact free
  | @written kind previous next isPrevious isNext header =>
      have ofNext : next.key.IsSlashFree := by
        rcases header with brought | ⟨stored, present, sameKey, -⟩
        · exact slashFree.brings brought
        · rw [sameKey]
          exact free kind stored present
      exact forall_mem_list_write free ofNext
  | spent stored present key =>
      intro read object remains
      rw [list_with_lastVersion] at remains
      exact free.remove stored read object remains
  | purged stored present => exact free.remove stored

end Store

theorem History.hasSlashFreeKeys_ofRequests {requests : List Request}
    (slashFree : ∀ request ∈ requests, request.IsSlashFree) :
    (ofRequests requests).store.HasSlashFreeKeys :=
  foldl_induction (fun history => history.store.HasSlashFreeKeys) Request.IsSlashFree
    (fun _ _ free holds _ _ change => holds.change free change) Store.hasSlashFreeKeys_empty
    slashFree

namespace World

variable {world after : World} {key : ObjectKey} {requests : List Request}

/-- When a pass says of a registration that it is synced, the tenant has its namespace and the
registration its deployment as it wants it, and the status tells so.  Up to three writes have been
made, and nothing else has changed: a deployment that was there before keeps all that the
registration does not determine.  Another pass finds nothing to do. -/
theorem synced_registrations_are_carried_out
    (slashFree : ∀ request ∈ requests, request.IsSlashFree)
    (reached : world.store = (History.ofRequests requests).store)
    (ran : (Registration.reconcile key).runOn world = (.ok .synced, after)) :
    ∃ registration deployment space,
      Registration.IsSynced after.store key registration deployment space ∧
        Registration.ChangesOnly world.store after.store key registration deployment space ∧
        (∃ stores, world.Wrote stores after ∧ stores.length ≤ 3) ∧
        (Registration.reconcile key).runOn after = (.ok .upToDate, after) := by
  have free : world.store.HasSlashFreeKeys :=
    reached ▸ History.hasSlashFreeKeys_ofRequests slashFree
  obtain ⟨registration, deployment, space, isSynced, changes, wrote⟩ :=
    Registration.exists_isSynced free ran
  exact ⟨registration, deployment, space, isSynced, changes, wrote, isSynced.runOn_reconcile⟩

/-- A registration comes when there is a deployment under its key that someone else has made. -/
def adoption : List Request :=
  let suffix := (scatteredSuffixes 0).value
  let deployment : Deployment :=
    { metadata :=
        { name := "web", scope := "tenant01", labels := Labels.set .empty "color" "blue",
          finalizers := ["example"] }
      spec := { tenantId := "tenant02", purpose := "trial" }
      status := { phase := "Running" } }
  let registration : Registration :=
    { metadata := { name := "web", scope := "tenant01", finalizers := [finalizer] }
      spec := { purpose := "demo" }
      status := { userKubeconfig := "access" } }
  [.create deployment 5 suffix, .create registration 6 suffix]

/-- The deployment is made the registration's own, with a new generation and its other label; the
namespace and the status take a write each. -/
theorem synced_registrations_are_carried_out_once_adopted :
    let world := World.around (History.ofRequests adoption).store 0 0
    let pass := Registration.reconcile ⟨"tenant01", "web"⟩
    ∃ after registration deployment space, pass.runOn world = (.ok .synced, after) ∧
      Registration.IsSynced after.store ⟨"tenant01", "web"⟩ registration deployment space ∧
      deployment.metadata.generation = 2 ∧ deployment.metadata.label? "color" = some "blue" ∧
      after.journal.length = 3 ∧ pass.runOn after = (.ok .upToDate, after) := by
  intro world pass
  have said : pass.outcome? world = some .synced := by decide +kernel
  have longer : (pass.runOn world).2.journal.length = 3 := by decide +kernel
  have renewed : ((pass.runOn world).2.store.find? .deployment ⟨"tenant01", "web"⟩).map
      (fun deployment => (deployment.metadata.generation, deployment.metadata.label? "color")) =
        some (2, some "blue") := by
    decide +kernel
  obtain ⟨after, ran⟩ := Pass.exists_of_outcome? said
  rw [ran] at longer renewed
  have slashFree : ∀ request ∈ adoption, request.IsSlashFree := by decide +kernel
  obtain ⟨registration, deployment, space, isSynced, -, -, again⟩ :=
    synced_registrations_are_carried_out slashFree rfl ran
  rw [isSynced.deploymentFound, Option.map_some] at renewed
  obtain ⟨generation, label⟩ := Prod.mk.inj (Option.some.inj renewed)
  exact ⟨after, registration, deployment, space, ran, isSynced, generation, label, longer, again⟩

end World

end TenantFleet
