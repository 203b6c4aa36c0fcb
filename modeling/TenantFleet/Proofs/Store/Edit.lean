import TenantFleet.Proofs.Store.Index
import TenantFleet.Proofs.Store.Requests

/-!
# Edits

Whoever writes, a write has one of four shapes: it creates an object, puts
another version in its place, restates its status or deletes it.  An object that
is marked for deletion and has lost its last finalizer is spent.  No edit leaves
a spent object behind: an update removes what it has made spent, and a deletion
marks only what has finalizers.  Nor does an edit write an object at a version
that is past the counter, and it keeps the index of labels exact as long as no key
has a NUL character in it.
-/

namespace TenantFleet

namespace Store

variable {store after : Store} {kind : Kind}

/-- One write, by its shape. -/
inductive Edit (store : Store) : Store → Prop
  | created {kind : Kind} (object : Object kind) (name : String) (now : Nat)
      (absent : store.find? kind (store.initialObject object name now).key = none) :
      Edit store (store.write none (store.initialObject object name now))
  | supplanted {kind : Kind} {stored : Object kind} (present : stored ∈ store.list kind)
      (next : Object kind) (sameText : next.keyText = stored.keyText) :
      Edit store (store.supplant stored (store.replacement stored next))
  | restated {kind : Kind} {stored : Object kind} (present : stored ∈ store.list kind)
      (status : kind.Status) :
      Edit store (store.write (some stored) (store.restated stored status))
  | deleted {kind : Kind} {stored : Object kind} {after : Store}
      (present : stored ∈ store.list kind)
      (deletion : store.Deletion stored after) : Edit store after

theorem edit_of_unmarked {stored : Object kind} (present : stored ∈ store.list kind)
    (unmarked : stored.isMarked = false) (next : Object kind)
    (sameText : next.keyText = stored.keyText) :
    store.Edit (store.write (some stored) (store.replacement stored next)) := by
  rw [← supplant_of_unmarked unmarked]
  exact .supplanted present next sameText

/-- A request that succeeds edits the store, or leaves it as it is. -/
theorem edit_of_perform {request : Request} {issue : Option Issue}
    (done : request.perform store = .ok (issue, after)) : after = store ∨ store.Edit after := by
  cases request with
  | create object now suffix =>
      obtain ⟨⟨created, left⟩, made, answered⟩ := exists_of_bind_eq_ok done
      obtain ⟨-, rfl⟩ := Prod.mk.inj (Except.ok.inj answered)
      obtain ⟨name, -, rfl, absent, rfl⟩ := stored_of_create made
      exact .inr (.created object name now absent)
  | update object =>
      obtain ⟨⟨updated, left⟩, made, answered⟩ := exists_of_bind_eq_ok done
      obtain ⟨-, rfl⟩ := Prod.mk.inj (Except.ok.inj answered)
      obtain ⟨stored, present, sameText, -, rfl⟩ := stored_of_update made
      exact .inr (.supplanted present object sameText.symm)
  | setStatus object =>
      obtain ⟨⟨updated, left⟩, made, answered⟩ := exists_of_bind_eq_ok done
      obtain ⟨-, rfl⟩ := Prod.mk.inj (Except.ok.inj answered)
      obtain ⟨stored, present, -, -, rfl⟩ := stored_of_setStatus made
      exact .inr (.restated present object.status)
  | delete kind key now =>
      obtain ⟨⟨removal, left⟩, deleted, answered⟩ := exists_of_bind_eq_ok done
      have sameStore : left = after := by
        cases removal with
        | purged | marked | pending => exact congrArg Prod.snd (Except.ok.inj answered)
      subst sameStore
      rcases deletion_of_delete deleted with ⟨-, rfl⟩ | ⟨-, stored, present, -, deletion⟩
      · exact .inl rfl
      · exact .inr (.deleted present deletion)

/-- No stored object is spent. -/
def IsUnspent (store : Store) : Prop :=
  ∀ kind, ∀ object ∈ store.list kind, isSpent object = false

theorem isUnspent_empty : ({} : Store).IsUnspent := by
  intro kind object present
  simp at present

theorem IsUnspent.finalizers_ne_nil (unspent : store.IsUnspent) {object : Object kind}
    (present : object ∈ store.list kind) (marked : object.isMarked = true) :
    object.metadata.finalizers ≠ [] := by
  have kept := unspent kind object present
  simpa [isSpent, marked] using kept

theorem IsUnspent.remove (unspent : store.IsUnspent) (current : Object kind) :
    (store.remove current).IsUnspent :=
  fun read object present => unspent read object (mem_list_of_mem_list_remove present)

theorem IsUnspent.write (unspent : store.IsUnspent) (previous : Option (Object kind))
    {next : Object kind} (kept : isSpent next = false) :
    (store.write previous next).IsUnspent :=
  forall_mem_list_write unspent kept

theorem IsUnspent.supplant (unspent : store.IsUnspent) (stored next : Object kind) :
    (store.supplant stored next).IsUnspent :=
  forall_mem_list_supplant unspent id

theorem Edit.isUnspent (edit : store.Edit after) (unspent : store.IsUnspent) :
    after.IsUnspent := by
  cases edit with
  | created object name now => exact unspent.write none rfl
  | supplanted present next => exact unspent.supplant _ _
  | @restated kind stored present status =>
      exact unspent.write (some stored) (unspent kind stored present)
  | @deleted kind stored _ present deletion =>
      cases deletion with
      | purged free => exact unspent.remove stored
      | marked kept unmarked now =>
          refine unspent.write (some stored) ?_
          have stillKept : (store.stamped stored now).metadata.finalizers ≠ [] := kept
          simp [isSpent, stillKept]

/-- No stored object has a version past the last one issued. -/
def IsCounted (store : Store) : Prop :=
  ∀ kind, ∀ object ∈ store.list kind, object.metadata.resourceVersion ≤ store.lastVersion

theorem isCounted_empty : ({} : Store).IsCounted := by
  intro kind object present
  simp at present

theorem IsCounted.write (counted : store.IsCounted) (previous : Option (Object kind))
    {next : Object kind} (isNext : next.metadata.resourceVersion = store.lastVersion + 1) :
    (store.write previous next).IsCounted :=
  forall_mem_list_write
    (fun read object present => Nat.le_succ_of_le (counted read object present))
    (Nat.le_of_eq isNext)

theorem IsCounted.supplant (counted : store.IsCounted) (stored : Object kind) {next : Object kind}
    (isNext : next.metadata.resourceVersion = store.lastVersion + 1) :
    (store.supplant stored next).IsCounted := by
  have isLast : (store.supplant stored next).lastVersion = store.lastVersion + 1 := by
    unfold Store.supplant
    split <;> rfl
  unfold IsCounted
  rw [isLast]
  exact forall_mem_list_supplant
    (fun read object present => Nat.le_succ_of_le (counted read object present))
    fun _ => Nat.le_of_eq isNext

theorem Edit.isCounted (edit : store.Edit after) (counted : store.IsCounted) :
    after.IsCounted := by
  cases edit with
  | created object name now => exact counted.write none rfl
  | supplanted present next => exact counted.supplant _ rfl
  | restated present status => exact counted.write _ rfl
  | @deleted kind stored _ present deletion =>
      cases deletion with
      | purged free =>
          intro read object remains
          rw [lastVersion_remove]
          exact counted read object (mem_list_of_mem_list_remove remains)
      | marked kept unmarked now => exact counted.write (some stored) rfl

/-- Where no key has a NUL character in it, every edit keeps the index exact. -/
theorem Edit.isIndexed (edit : store.Edit after) (free : store.HasNulFreeKeys)
    (indexed : store.IsIndexed) : after.IsIndexed := by
  cases edit with
  | created object name now absent => exact indexed.write free absent
  | @supplanted kind stored present next sameText =>
      cases spent : isSpent (store.replacement stored next) with
      | true =>
          rw [supplant_of_spent spent]
          simpa [IsIndexed] using indexed.remove free present
      | false =>
          rw [supplant_of_kept spent]
          exact indexed.write free (find?_eq_some_of_mem present sameText.symm)
  | restated present status => exact indexed.write free (find?_key_of_mem present)
  | deleted present deletion =>
      cases deletion with
      | purged => exact indexed.remove free present
      | marked kept unmarked now => exact indexed.write free (find?_key_of_mem present)

end Store

namespace History

theorem isUnspent_after {history : History} (unspent : history.store.IsUnspent)
    (request : Request) : (history.after request).store.IsUnspent := by
  unfold after
  split
  next issue store done =>
    rcases Store.edit_of_perform done with rfl | edit
    · exact unspent
    · exact edit.isUnspent unspent
  next => exact unspent

/-- Whatever is asked of the store, nothing spent is stored. -/
theorem isUnspent_ofRequests (requests : List Request) :
    (ofRequests requests).store.IsUnspent :=
  List.foldlRecOn requests after (motive := fun history => history.store.IsUnspent)
    Store.isUnspent_empty fun _ unspent request _ => isUnspent_after unspent request

end History

end TenantFleet
