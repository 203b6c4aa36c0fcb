import TenantFleet.Proofs.Store.Outcome

/-!
# Requests and their histories

A history is what requests make of the empty store, one after the other, with a
record of the resource versions that their writes were given.  A request that
fails leaves both alone.  What a request can do is said once, in
`Store.Change`; every fact about all histories is proved by one step for each
of its cases.
-/

namespace TenantFleet

/-- What can be asked of the store. -/
inductive Request where
  | create {kind : Kind} (object : Object kind) (now : Nat) (suffix : Nat → NameSuffix)
  | update {kind : Kind} (object : Object kind)
  | setStatus {kind : Kind} (object : Object kind)
  | delete (kind : Kind) (key : ObjectKey) (now : Nat)

/-- The version that a write was given, and what the write left under the key. -/
structure Issue where
  kind : Kind
  key : ObjectKey
  version : Nat
  left : Option (Object kind)

variable {kind : Kind}

/-- The issue to the writer of an object, as it is seen in the store that the write left. -/
def Store.issueTo (after : Store) (written : Object kind) : Issue :=
  ⟨kind, written.key, written.metadata.resourceVersion, after.find? kind written.key⟩

namespace Request

/-- The store after the request, with the issue of a version: neither the removal of an object
that nothing holds nor the deletion of one that is marked has any. -/
def perform (store : Store) : Request → Except StoreError (Option Issue × Store)
  | .create object now suffix => do
      let (created, after) ← store.create object now suffix
      return (some (after.issueTo created), after)
  | .update object => do
      let (updated, after) ← store.update object
      return (some (after.issueTo updated), after)
  | .setStatus object => do
      let (updated, after) ← store.setStatus object
      return (some (after.issueTo updated), after)
  | .delete kind key now => do
      let (removal, after) ← store.delete kind key now
      match removal with
      | .marked => return ((after.find? kind key).map after.issueTo, after)
      | .purged | .pending => return (none, after)

/-- Whether the store does what it is asked for. -/
def Succeeds (request : Request) (store : Store) : Prop :=
  ∃ outcome, request.perform store = .ok outcome

/-- The version at which the writer of a change has seen the object. -/
def seen? : Request → Option Nat
  | .update object | .setStatus object => some object.metadata.resourceVersion
  | .create _ _ _ | .delete _ _ _ => none

/-- The key and the labels that an object may have when the request has brought it into the
store. -/
def Brings : Request → ObjectKey → Labels → Prop
  | .create object _ suffix, key, labels =>
      key.scope = object.metadata.scope ∧ labels = object.metadata.labels ∧
        (object.metadata.name ≠ "" ∧ key.name = object.metadata.name ∨
          object.metadata.name = "" ∧
            ∃ attempt, key.name = object.metadata.generateName ++ (suffix attempt).text)
  | .update object, key, labels => key = object.key ∧ labels = object.metadata.labels
  | .setStatus _, _, _ | .delete _ _ _, _, _ => False

end Request

/-- A change that succeeds was made of an object that is stored under the key, at the version
that the writer has seen. -/
theorem Store.find?_of_update {store : Store} {object : Object kind}
    {outcome : Object kind × Store} (done : store.update object = .ok outcome) :
    ∃ stored, store.find? kind object.key = some stored ∧
      stored.metadata.resourceVersion = object.metadata.resourceVersion := by
  obtain ⟨stored, isCurrent, -⟩ := exists_of_bind_eq_ok done
  exact ⟨stored, find?_of_current isCurrent⟩

theorem Store.find?_of_setStatus {store : Store} {object : Object kind}
    {outcome : Object kind × Store} (done : store.setStatus object = .ok outcome) :
    ∃ stored, store.find? kind object.key = some stored ∧
      stored.metadata.resourceVersion = object.metadata.resourceVersion := by
  obtain ⟨stored, isCurrent, -⟩ := exists_of_bind_eq_ok done
  exact ⟨stored, find?_of_current isCurrent⟩

/-- A store, and the versions issued on the way to it, the last one at the end. -/
structure History where
  store : Store := {}
  issued : List Issue := []

namespace History

def after (history : History) (request : Request) : History :=
  match request.perform history.store with
  | .ok (issue, store) => ⟨store, history.issued ++ issue.toList⟩
  | .error _ => history

/-- What the requests make of the empty store. -/
def ofRequests (requests : List Request) : History :=
  requests.foldl after {}

theorem ofRequests_append (requests later : List Request) :
    ofRequests (requests ++ later) = later.foldl after (ofRequests requests) :=
  List.foldl_append

end History

namespace Store

variable {store after : Store}

/-- What a request can do to the store. -/
inductive Change (store : Store) (request : Request) : Option Issue → Store → Prop
  | idle : Change store request none store
  /-- An object is written over the one with its key.  Its header comes from the request, or is
  that of the object before. -/
  | written {kind : Kind} (previous : Option (Object kind)) (next : Object kind)
      (isPrevious : store.find? kind next.key = previous)
      (isNext : next.metadata.resourceVersion = store.lastVersion + 1)
      (header : request.Brings next.key next.metadata.labels ∨
        ∃ stored ∈ store.list kind,
          next.key = stored.key ∧ next.metadata.labels = stored.metadata.labels) :
      Change store request (some ⟨kind, next.key, store.lastVersion + 1, some next⟩)
        (store.write previous next)
  /-- The last finalizer of a marked object is taken off, and it goes with a version of its own. -/
  | spent {kind : Kind} (stored : Object kind) (present : stored ∈ store.list kind)
      (key : ObjectKey) :
      Change store request (some ⟨kind, key, store.lastVersion + 1, none⟩)
        { store.remove stored with lastVersion := store.lastVersion + 1 }
  /-- An object without finalizers goes. -/
  | purged {kind : Kind} (stored : Object kind) (present : stored ∈ store.list kind) :
      Change store request none (store.remove stored)

theorem change_of_create {object created : Object kind} {now : Nat}
    {suffix : Nat → NameSuffix}
    (done : store.create object now suffix = .ok (created, after)) :
    store.Change (.create object now suffix) (some (after.issueTo created)) after := by
  obtain ⟨name, named, rfl, absent, rfl⟩ := stored_of_create done
  rw [issueTo, find?_write_self]
  refine .written none _ absent rfl (.inl ⟨rfl, rfl, ?_⟩)
  rcases nameFor_eq_ok named with own | ⟨unnamed, -, completed⟩
  · exact .inl own
  · exact .inr ⟨unnamed, completed⟩

theorem change_of_setStatus {object updated : Object kind}
    (done : store.setStatus object = .ok (updated, after)) :
    store.Change (.setStatus object) (some (after.issueTo updated)) after := by
  obtain ⟨stored, present, -, rfl, rfl⟩ := stored_of_setStatus done
  rw [issueTo, find?_write_self]
  exact .written (some stored) _ (find?_key_of_mem present) rfl
    (.inr ⟨stored, present, rfl, rfl⟩)

theorem change_of_update {object updated : Object kind}
    (done : store.update object = .ok (updated, after)) :
    store.Change (.update object) (some (after.issueTo updated)) after := by
  obtain ⟨stored, present, sameText, rfl, rfl⟩ := stored_of_update done
  unfold supplant
  split
  next =>
    have gone : ({ store.remove stored with lastVersion := store.lastVersion + 1 } :
        Store).find? kind object.key = none := by
      have removed := find?_remove store stored object.key
      rw [if_pos (show object.key.text = stored.keyText from sameText.symm)] at removed
      exact removed
    rw [issueTo, key_replacement, gone]
    exact .spent stored present object.key
  next =>
    rw [issueTo, find?_write_self]
    exact .written (some stored) _ (find?_eq_some_of_mem present sameText) rfl
      (.inl ⟨rfl, rfl⟩)

theorem change_of_delete {key : ObjectKey} {now : Nat} {issue : Option Issue}
    (done : (Request.delete kind key now).perform store = .ok (issue, after)) :
    store.Change (.delete kind key now) issue after := by
  obtain ⟨⟨removal, left⟩, deleted, answered⟩ := exists_of_bind_eq_ok done
  obtain ⟨stored, isRead⟩ := exists_read_of_delete deleted
  have isStored := find?_of_read isRead
  have present := mem_list_of_find? isStored
  rw [delete_of_read now isRead] at deleted
  split at deleted
  next =>
    obtain ⟨rfl, rfl⟩ := Prod.mk.inj (Except.ok.inj deleted)
    obtain ⟨rfl, rfl⟩ := Prod.mk.inj (Except.ok.inj answered)
    exact .purged stored present
  next =>
    split at deleted
    next =>
      obtain ⟨rfl, rfl⟩ := Prod.mk.inj (Except.ok.inj deleted)
      obtain ⟨rfl, rfl⟩ := Prod.mk.inj (Except.ok.inj answered)
      exact .idle
    next =>
      obtain ⟨rfl, rfl⟩ := Prod.mk.inj (Except.ok.inj deleted)
      obtain ⟨rfl, rfl⟩ := Prod.mk.inj (Except.ok.inj answered)
      have sameText := keyText_of_find? isStored
      change (store.stamped stored now).keyText = key.text at sameText
      rw [find?_write, if_pos sameText, Option.map_some, issueTo, find?_write_self]
      exact .written (some stored) _ (find?_key_of_mem present) rfl
        (.inr ⟨stored, present, rfl, rfl⟩)

theorem find?_of_marked {key : ObjectKey} {now : Nat}
    (done : store.delete kind key now = .ok (.marked, after)) :
    ∃ marked, after.find? kind key = some marked := by
  obtain ⟨stored, isRead⟩ := exists_read_of_delete done
  have sameText := keyText_of_find? (find?_of_read isRead)
  rw [delete_of_read now isRead] at done
  split at done
  · cases done
  · split at done
    · cases done
    · obtain ⟨-, rfl⟩ := Prod.mk.inj (Except.ok.inj done)
      change (store.stamped stored now).keyText = key.text at sameText
      exact ⟨_, by rw [find?_write, if_pos sameText]⟩

/-- A request that succeeds makes one of the changes. -/
theorem change_of_perform {request : Request} {issue : Option Issue}
    (done : request.perform store = .ok (issue, after)) : store.Change request issue after := by
  cases request with
  | create object now suffix =>
      obtain ⟨⟨created, left⟩, made, answered⟩ := exists_of_bind_eq_ok done
      obtain ⟨rfl, rfl⟩ := Prod.mk.inj (Except.ok.inj answered)
      exact change_of_create made
  | update object =>
      obtain ⟨⟨updated, left⟩, made, answered⟩ := exists_of_bind_eq_ok done
      obtain ⟨rfl, rfl⟩ := Prod.mk.inj (Except.ok.inj answered)
      exact change_of_update made
  | setStatus object =>
      obtain ⟨⟨updated, left⟩, made, answered⟩ := exists_of_bind_eq_ok done
      obtain ⟨rfl, rfl⟩ := Prod.mk.inj (Except.ok.inj answered)
      exact change_of_setStatus made
  | delete kind key now => exact change_of_delete done

/-- The only changes without a version are deletions that do not mark. -/
theorem delete_of_unissued {request : Request}
    (done : request.perform store = .ok (none, after)) :
    ∃ kind key now removal, request = .delete kind key now ∧ removal ≠ .marked ∧
      store.delete kind key now = .ok (removal, after) := by
  cases request with
  | create | update | setStatus =>
      obtain ⟨outcome, -, answered⟩ := exists_of_bind_eq_ok done
      have unissued := congrArg Prod.fst (Except.ok.inj answered)
      contradiction
  | delete kind key now =>
      obtain ⟨⟨removal, left⟩, deleted, answered⟩ := exists_of_bind_eq_ok done
      cases removal with
      | marked =>
          obtain ⟨marked, found⟩ := find?_of_marked deleted
          have unissued := congrArg Prod.fst (Except.ok.inj answered)
          simp [found] at unissued
      | purged | pending =>
          obtain ⟨-, rfl⟩ := Prod.mk.inj (Except.ok.inj answered)
          exact ⟨kind, key, now, _, rfl, by simp, deleted⟩

/-- A version that is issued is the next one, and the counter stands at it. -/
theorem Change.version_eq {request : Request} {issue : Issue}
    (change : store.Change request (some issue) after) :
    issue.version = store.lastVersion + 1 ∧ after.lastVersion = store.lastVersion + 1 := by
  cases change with
  | written | spent => exact ⟨rfl, rfl⟩

end Store

namespace History

/-- What holds of a history and is kept by every change holds of all that follow. -/
theorem foldl_induction (motive : History → Prop) (allowed : Request → Prop)
    (kept : ∀ history request, allowed request → motive history →
      ∀ issue store, history.store.Change request issue store →
        motive ⟨store, history.issued ++ issue.toList⟩)
    {history : History} (start : motive history) {requests : List Request}
    (all : ∀ request ∈ requests, allowed request) : motive (requests.foldl after history) := by
  induction requests generalizing history with
  | nil => exact start
  | cons request rest ih =>
      have restAllowed := fun other otherMem => all other (List.mem_cons_of_mem request otherMem)
      have next : motive (history.after request) := by
        unfold after
        split
        next issue store done =>
          exact kept history request (all request List.mem_cons_self) start issue store
            (Store.change_of_perform done)
        next => exact start
      exact ih next restAllowed

end History

end TenantFleet
