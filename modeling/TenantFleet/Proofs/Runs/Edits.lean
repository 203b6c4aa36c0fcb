import TenantFleet.Proofs.Runs.Reachable
import TenantFleet.Proofs.Store.Edit

/-!
# Every write of a run is an edit

Each sort of write has one of the shapes of an edit, whoever makes it.  So what
edits keep holds of every store of a run.
-/

namespace TenantFleet

variable {store after : Store}

theorem Store.edit_hold {kind : Kind} {stored : Object kind} (present : stored ∈ store.list kind) :
    store.Edit (store.supplant stored (store.replacement stored stored.hold)) :=
  .supplanted present stored.hold (congrArg ObjectKey.text stored.key_hold)

theorem Registration.Write.edit {key : ObjectKey} (written : Registration.Write key store after) :
    store.Edit after := by
  cases written with
  | held isFound unmarked unheld => exact Store.edit_hold (Store.mem_list_of_find? isFound)
  | spaced isFound absent now => exact .created _ _ now absent
  | derived due absent now => exact .created _ _ now absent
  | carried due deploymentFound lasting =>
      exact Store.edit_of_unmarked (Store.mem_list_of_find? deploymentFound) lasting _ rfl
  | synced due deploymentFound fitting =>
      exact .restated (Store.mem_list_of_find? due.isFound) _
  | deleted isFound marked present deletion => exact .deleted present deletion
  | letGo isFound marked gone => exact .supplanted (Store.mem_list_of_find? isFound) _ rfl
  | recorded due unnamed now => exact .restated (Store.mem_list_of_find? due.isFound) _

theorem Deployment.IsNewInstance.edit {deployment : Deployment} {made : TenantInstance}
    (isNew : IsNewInstance store deployment made) : store.Edit (store.write none made) := by
  obtain ⟨rules, target, id, suffix, now, -, -, rfl, absent⟩ := isNew
  exact .created _ _ now absent

theorem Deployment.Write.edit {key : ObjectKey} (written : Deployment.Write key store after) :
    store.Edit after := by
  cases written with
  | held isFound unmarked unheld => exact Store.edit_hold (Store.mem_list_of_find? isFound)
  | created isFound unmarked isHeld vacant isNew => exact isNew.edit
  | renewed isFound realises unmarked => exact Store.edit_of_unmarked realises.1 unmarked _ rfl
  | placed isFound realises unmarked targetFound unhosted =>
      exact .restated (Store.mem_list_of_find? targetFound) _
  | settled isFound realises => exact .restated (Store.mem_list_of_find? isFound) _
  | cleared isFound marked vacant => exact .restated (Store.mem_list_of_find? isFound) _
  | letGo isFound marked vacant => exact .supplanted (Store.mem_list_of_find? isFound) _ rfl
  | released isFound realises unheld targetFound hosts =>
      exact .restated (Store.mem_list_of_find? targetFound) _
  | deleted isFound marked realises unmarked deletion => exact .deleted realises.1 deletion
  | recorded isFound record => exact .restated (Store.mem_list_of_find? isFound) _

theorem Deployment.Report.edit {key : ObjectKey} (written : Deployment.Report key store after) :
    store.Edit after := by
  cases written with
  | reported isFound named labelled spelled registrationFound =>
      exact .restated (Store.mem_list_of_find? registrationFound) _

theorem TenantInstance.Write.edit {key : ObjectKey}
    (written : TenantInstance.Write key store after) : store.Edit after := by
  cases written with
  | held isFound unmarked unheld => exact Store.edit_hold (Store.mem_list_of_find? isFound)
  | released isFound marked isHeld targetFound hosts =>
      exact .restated (Store.mem_list_of_find? targetFound) _
  | letGo isFound marked isHeld released =>
      exact .supplanted (Store.mem_list_of_find? isFound) _ rfl
  | recorded isFound record => exact .restated (Store.mem_list_of_find? isFound) _

theorem Target.Write.edit {key : ObjectKey} (written : Target.Write key store after) :
    store.Edit after := by
  cases written with
  | published isFound stale => exact .restated (Store.mem_list_of_find? isFound) _

theorem Admission.Write.edit {kind : Kind} {object : Object kind}
    (written : Admission.Write object store after) : store.Edit after := by
  cases written with
  | created now sameMetadata sameStatus isName isMade absent => exact .created _ _ now absent
  | updated isFound sameMetadata permitted =>
      exact .supplanted (Store.mem_list_of_find? isFound) _
        (Admission.keyText_of_update isFound sameMetadata)

theorem Manifest.Write.edit {manifest : Manifest} (written : manifest.Write store after) :
    store.Edit after := by
  cases written with
  | tenantSpace written | target written | deployment written | registration written
  | scheduling accepted written => exact written.edit

theorem Resync.Write.edit (written : Resync.Write store after) : store.Edit after := by
  cases written with
  | registration written => exact written.edit
  | deployment written => exact written.edit
  | report written => exact written.edit
  | tenantInstance written => exact written.edit
  | target written => exact written.edit

theorem Action.Write.edit {action : Action} (written : action.Write store after) :
    store.Edit after := by
  cases written with
  | apply written => exact written.edit
  | delete present sameText deletion => exact .deleted present deletion
  | report present sameText => exact .restated present _
  | forget present sameText => exact .restated present _
  | reconcileRegistration written => exact written.edit
  | reconcileDeployment written => exact written.edit
  | reconcileInstance written => exact written.edit
  | reconcileTarget written => exact written.edit
  | syncStatus written => exact written.edit
  | tick written => exact written.edit

/-- Nothing spent is stored in any state of a run. -/
theorem World.Reachable.isUnspent_of_passed {world : World} (reached : world.Reachable)
    {store : Store} (passed : world.Passed store) : store.IsUnspent := by
  obtain ⟨atEnd, onTheWay⟩ := reached.invariant Store.isUnspent_empty
    fun _ written unspent => written.edit.isUnspent unspent
  rcases passed with rfl | noted
  · exact atEnd
  · exact onTheWay store noted

end TenantFleet
