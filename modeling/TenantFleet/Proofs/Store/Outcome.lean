import TenantFleet.Proofs.Store.Listing

/-!
# What changes of the store come to

A change that is made from the stored object of its key, at its version,
succeeds, and its outcome can be written down.  In the other direction, what
succeeds was a change of a stored object, and what was left is known.
-/

namespace TenantFleet

/-- What succeeds in two steps succeeds in each of them. -/
theorem exists_of_bind_eq_ok {ε α β : Type} {first : Except ε α} {second : α → Except ε β}
    {result : β} (done : first >>= second = .ok result) :
    ∃ value, first = .ok value ∧ second value = .ok result := by
  cases first with
  | error error => contradiction
  | ok value => exact ⟨value, rfl, done⟩

namespace Store

variable {kind : Kind} {store : Store}

/-- The stored object with another status, at the next version. -/
def restated (store : Store) (stored : Object kind) (status : kind.Status) : Object kind :=
  { stored with
    status := status
    metadata := { stored.metadata with resourceVersion := store.lastVersion + 1 } }

/-- The stored object marked for deletion, at the next version. -/
def stamped (store : Store) (stored : Object kind) (now : Nat) : Object kind :=
  { stored with
    metadata :=
      { stored.metadata with
        deletionTime := some now
        resourceVersion := store.lastVersion + 1 } }

@[simp]
theorem keyText_restated (store : Store) (stored : Object kind) (status : kind.Status) :
    (store.restated stored status).keyText = stored.keyText := rfl

@[simp]
theorem key_replacement (store : Store) (stored object : Object kind) :
    (store.replacement stored object).key = object.key := rfl

@[simp]
theorem labels_replacement (store : Store) (stored object : Object kind) :
    (store.replacement stored object).metadata.labels = object.metadata.labels := rfl

@[simp]
theorem finalizers_replacement (store : Store) (stored object : Object kind) :
    (store.replacement stored object).metadata.finalizers = object.metadata.finalizers := rfl

@[simp]
theorem isMarked_replacement (store : Store) (stored object : Object kind) :
    (store.replacement stored object).isMarked = stored.isMarked := rfl

@[simp]
theorem status_initialObject (store : Store) (object : Object kind) (name : String) (now : Nat) :
    (store.initialObject object name now).status = object.status := rfl

@[simp]
theorem labels_initialObject (store : Store) (object : Object kind) (name : String) (now : Nat) :
    (store.initialObject object name now).metadata.labels = object.metadata.labels := rfl

/-- An object is found with the status that was written. -/
theorem find?_restated {stored : Object kind} {key : ObjectKey}
    (isFound : store.find? kind key = some stored) (status : kind.Status) :
    (store.write (some stored) (store.restated stored status)).find? kind key =
      some (store.restated stored status) := by
  rw [find?_write, keyText_restated, if_pos (keyText_of_find? isFound)]

/-- A status says nothing about what is found under other keys. -/
theorem find?_restated_of_ne {stored : Object kind} {key other : ObjectKey}
    (isFound : store.find? kind key = some stored) (different : key.text ≠ other.text)
    (status : kind.Status) :
    (store.write (some stored) (store.restated stored status)).find? kind other =
      store.find? kind other := by
  rw [find?_write, keyText_restated, if_neg (keyText_of_find? isFound ▸ different)]

/-- Nor does an update that keeps the key. -/
theorem find?_updated_of_ne {stored next : Object kind} {key other : ObjectKey}
    (isFound : store.find? kind key = some stored) (sameKey : next.key = stored.key)
    (different : key.text ≠ other.text) :
    (store.supplant stored (store.replacement stored next)).find? kind other =
      store.find? kind other := by
  have otherText : stored.keyText ≠ other.text := keyText_of_find? isFound ▸ different
  have sameText : (store.replacement stored next).keyText = stored.keyText :=
    congrArg ObjectKey.text sameKey
  exact find?_supplant_of_ne otherText (sameText ▸ otherText)

/-- An object that is not marked stays, whatever it is replaced by. -/
theorem supplant_of_unmarked {stored next : Object kind} (unmarked : stored.isMarked = false) :
    store.supplant stored (store.replacement stored next) =
      store.write (some stored) (store.replacement stored next) :=
  supplant_of_kept (by simp [isSpent, unmarked])

theorem current_of_mem {stored object : Object kind} (present : stored ∈ store.list kind)
    (legible : stored.isLegible = true) (sameKey : object.key = stored.key)
    (sameVersion : object.metadata.resourceVersion = stored.metadata.resourceVersion) :
    store.current object = .ok stored := by
  have found : store.read kind object.key = .ok (some stored) := by
    simp [read, sameKey, find?_key_of_mem present, legible]
  simp [current, found, sameVersion, bind, Except.bind]

/-- What a change is made of is stored under its key, at the version that its writer has seen. -/
theorem find?_of_current {stored object : Object kind}
    (isCurrent : store.current object = .ok stored) :
    store.find? kind object.key = some stored ∧
      stored.metadata.resourceVersion = object.metadata.resourceVersion := by
  obtain ⟨found, isRead, matching⟩ := exists_of_bind_eq_ok isCurrent
  have isStored := find?_of_read isRead
  cases found with
  | none => contradiction
  | some other =>
      dsimp only at matching
      split at matching
      next sameVersion =>
        obtain rfl := Except.ok.inj matching
        exact ⟨isStored, sameVersion⟩
      next => contradiction

theorem mem_of_current {stored object : Object kind}
    (isCurrent : store.current object = .ok stored) :
    stored ∈ store.list kind ∧ stored.keyText = object.keyText := by
  have isStored := (find?_of_current isCurrent).1
  exact ⟨mem_list_of_find? isStored, keyText_of_find? isStored⟩

theorem setStatus_of_mem {stored object : Object kind} (present : stored ∈ store.list kind)
    (legible : stored.isLegible = true) (sameKey : object.key = stored.key)
    (sameVersion : object.metadata.resourceVersion = stored.metadata.resourceVersion) :
    store.setStatus object =
      .ok (store.restated stored object.status,
        store.write (some stored) (store.restated stored object.status)) := by
  simp [setStatus, current_of_mem present legible sameKey sameVersion, bind, Except.bind, restated]

theorem stored_of_setStatus {object written : Object kind} {after : Store}
    (done : store.setStatus object = .ok (written, after)) :
    ∃ stored ∈ store.list kind, stored.keyText = object.keyText ∧
      written = store.restated stored object.status ∧
      after = store.write (some stored) (store.restated stored object.status) := by
  obtain ⟨stored, isCurrent, made⟩ := exists_of_bind_eq_ok done
  obtain ⟨present, sameText⟩ := mem_of_current isCurrent
  obtain ⟨isWritten, isAfter⟩ := Prod.mk.inj (Except.ok.inj made)
  exact ⟨stored, present, sameText, isWritten.symm, isAfter.symm⟩

theorem update_eq_supplant (store : Store) (object stored : Object kind)
    (isCurrent : store.current object = .ok stored) :
    store.update object =
      .ok (store.replacement stored object,
        store.supplant stored (store.replacement stored object)) := by
  simp only [update, isCurrent, bind, Except.bind, supplant]
  split <;> rfl

theorem update_of_mem {stored object : Object kind} (present : stored ∈ store.list kind)
    (legible : stored.isLegible = true) (sameKey : object.key = stored.key)
    (sameVersion : object.metadata.resourceVersion = stored.metadata.resourceVersion) :
    store.update object =
      .ok (store.replacement stored object,
        store.supplant stored (store.replacement stored object)) :=
  update_eq_supplant store object stored (current_of_mem present legible sameKey sameVersion)

theorem stored_of_update {object written : Object kind} {after : Store}
    (done : store.update object = .ok (written, after)) :
    ∃ stored ∈ store.list kind, stored.keyText = object.keyText ∧
      written = store.replacement stored object ∧
      after = store.supplant stored (store.replacement stored object) := by
  obtain ⟨stored, isCurrent, -⟩ := exists_of_bind_eq_ok done
  obtain ⟨present, sameText⟩ := mem_of_current isCurrent
  rw [update_eq_supplant store object stored isCurrent] at done
  obtain ⟨isWritten, isAfter⟩ := Prod.mk.inj (Except.ok.inj done)
  exact ⟨stored, present, sameText, isWritten.symm, isAfter.symm⟩

/-- An object that can be read can be deleted: without finalizers it goes, and else it is
marked. -/
theorem delete_of_read {stored : Object kind} {key : ObjectKey} (now : Nat)
    (isRead : store.read kind key = .ok (some stored)) :
    store.delete kind key now =
      if stored.metadata.finalizers.isEmpty then .ok (.purged, store.remove stored)
      else if stored.isMarked then .ok (.pending, store)
      else .ok (.marked, store.write (some stored) (store.stamped stored now)) := by
  simp [delete, isRead, bind, Except.bind, stamped]

theorem delete_of_mem {stored : Object kind} (key : ObjectKey) (now : Nat)
    (present : stored ∈ store.list kind) (legible : stored.isLegible = true)
    (sameText : stored.keyText = key.text) :
    store.delete kind key now =
      if stored.metadata.finalizers.isEmpty then .ok (.purged, store.remove stored)
      else if stored.isMarked then .ok (.pending, store)
      else .ok (.marked, store.write (some stored) (store.stamped stored now)) := by
  have isRead : store.read kind key = .ok (some stored) := by
    simp [read, find?_eq_some_of_mem present sameText, legible]
  exact delete_of_read now isRead

theorem exists_of_delete {stored : Object kind} (key : ObjectKey) (now : Nat)
    (present : stored ∈ store.list kind) (legible : stored.isLegible = true)
    (sameText : stored.keyText = key.text) :
    ∃ removal after, store.delete kind key now = .ok (removal, after) := by
  rw [delete_of_mem key now present legible sameText]
  split
  · exact ⟨_, _, rfl⟩
  · split <;> exact ⟨_, _, rfl⟩

/-- What can be read is not refused to be deleted, only what is not there. -/
theorem refusal_of_delete {key : ObjectKey} {now : Nat} {error : StoreError}
    (other : kind ≠ .scheduling) (refused : store.delete kind key now = .error error) :
    error = .notFound kind key := by
  cases isThere : store.find? kind key with
  | none =>
      simp only [delete, read_of_ne store key other, isThere, bind, Except.bind] at refused
      exact (Except.error.inj refused).symm
  | some stored =>
      obtain ⟨removal, after, done⟩ := exists_of_delete key now (mem_list_of_find? isThere)
        (stored.isLegible_of_ne other) (keyText_of_find? isThere)
      rw [done] at refused
      contradiction

/-- What a deletion does to the store. -/
inductive Deletion (store : Store) (stored : Object kind) : Store → Prop
  | purged (free : stored.metadata.finalizers = []) : Deletion store stored (store.remove stored)
  | marked (kept : stored.metadata.finalizers ≠ []) (unmarked : stored.isMarked = false)
      (now : Nat) :
      Deletion store stored (store.write (some stored) (store.stamped stored now))

theorem exists_read_of_delete {key : ObjectKey} {now : Nat} {outcome : Removal × Store}
    (done : store.delete kind key now = .ok outcome) :
    ∃ stored, store.read kind key = .ok (some stored) := by
  obtain ⟨found, isRead, made⟩ := exists_of_bind_eq_ok done
  cases found with
  | none => contradiction
  | some stored => exact ⟨stored, isRead⟩

theorem deletion_of_delete {key : ObjectKey} {now : Nat} {removal : Removal} {after : Store}
    (done : store.delete kind key now = .ok (removal, after)) :
    removal = .pending ∧ after = store ∨
      removal ≠ .pending ∧
        ∃ stored ∈ store.list kind, stored.keyText = key.text ∧ store.Deletion stored after := by
  obtain ⟨stored, isRead⟩ := exists_read_of_delete done
  have isStored := find?_of_read isRead
  have present := mem_list_of_find? isStored
  have sameText := keyText_of_find? isStored
  rw [delete_of_read now isRead] at done
  split at done
  next free =>
    obtain ⟨rfl, rfl⟩ := Prod.mk.inj (Except.ok.inj done)
    exact .inr ⟨by simp, stored, present, sameText, .purged (by simpa using free)⟩
  next kept =>
    split at done
    next =>
      obtain ⟨rfl, rfl⟩ := Prod.mk.inj (Except.ok.inj done)
      exact .inl ⟨rfl, rfl⟩
    next unmarked =>
      obtain ⟨rfl, rfl⟩ := Prod.mk.inj (Except.ok.inj done)
      exact .inr ⟨by simp, stored, present, sameText,
        .marked (by simpa using kept) (by simpa using unmarked) now⟩

private theorem freeName?_eq_some {metadata : Metadata} {suffix : Nat → NameSuffix}
    {name : String}
    (found : store.freeName? kind metadata suffix = .ok (some name)) :
    ∃ attempt, name = metadata.generateName ++ (suffix attempt).text := by
  unfold freeName? at found
  generalize List.range nameAttempts = attempts at found
  induction attempts with
  | nil => simp [List.findSomeM?, pure, Except.pure] at found
  | cons attempt rest ih =>
      rw [List.findSomeM?] at found
      obtain ⟨free, isTried, decided⟩ := exists_of_bind_eq_ok found
      obtain ⟨holder, -, isFree⟩ := exists_of_bind_eq_ok isTried
      cases free with
      | none => exact ih decided
      | some own =>
          obtain rfl := Option.some.inj (Except.ok.inj decided)
          have isOwn := Except.ok.inj isFree
          split at isOwn
          · contradiction
          · exact ⟨attempt, (Option.some.inj isOwn).symm⟩

/-- Names of legible objects are tried without a fault, until one is free. -/
theorem exists_freeName? (other : kind ≠ .scheduling) (metadata : Metadata)
    (suffix : Nat → NameSuffix) :
    ∃ found, store.freeName? kind metadata suffix = .ok found ∧
      ∀ name, found = some name → store.find? kind ⟨metadata.scope, name⟩ = none := by
  unfold freeName?
  induction List.range nameAttempts with
  | nil => exact ⟨none, rfl, fun _ isNone => nomatch isNone⟩
  | cons attempt rest ih =>
      rw [List.findSomeM?]
      simp only [store.read_of_ne _ other] at ih ⊢
      cases holder : store.find? kind
          ⟨metadata.scope, metadata.generateName ++ (suffix attempt).text⟩ with
      | some _ => exact ih
      | none =>
          refine ⟨_, rfl, fun name isName => ?_⟩
          obtain rfl := Option.some.inj isName
          exact holder

/-- The name of a new object is its own, or one that the store made from a drawn suffix. -/
theorem nameFor_eq_ok {metadata : Metadata} {suffix : Nat → NameSuffix} {name : String}
    (named : store.nameFor kind metadata suffix = .ok name) :
    metadata.name ≠ "" ∧ name = metadata.name ∨
      metadata.name = "" ∧ metadata.generateName ≠ "" ∧
        ∃ attempt, name = metadata.generateName ++ (suffix attempt).text := by
  unfold nameFor at named
  split at named
  next own => exact .inl ⟨own, (Except.ok.inj named).symm⟩
  next unnamed =>
    split at named
    next => contradiction
    next started =>
      obtain ⟨free, found, isNamed⟩ := exists_of_bind_eq_ok named
      cases free with
      | none => contradiction
      | some made =>
          obtain rfl := Except.ok.inj isNamed
          exact .inr ⟨by simpa using unnamed, started, freeName?_eq_some found⟩

/-- An object with a name of its own is created under it, if that is free. -/
theorem create_of_absent {object : Object kind} (now : Nat) (suffix : Nat → NameSuffix)
    (named : object.metadata.name ≠ "") (absent : store.find? kind object.key = none) :
    let created := store.initialObject object object.metadata.name now
    store.create object now suffix = .ok (created, store.write none created) := by
  intro created
  have isName : store.nameFor kind object.metadata suffix = .ok object.metadata.name := if_pos named
  have free : store.read kind created.key = .ok none := by
    change store.read kind object.key = .ok none
    simp [read, absent]
  simp [create, isName, free, bind, Except.bind, created]

theorem create_of_present {object stored : Object kind} (now : Nat) (suffix : Nat → NameSuffix)
    (named : object.metadata.name ≠ "") (isStored : store.find? kind object.key = some stored)
    (legible : stored.isLegible = true) :
    store.create object now suffix = .error (.alreadyExists kind object.key) := by
  have isName : store.nameFor kind object.metadata suffix = .ok object.metadata.name := if_pos named
  have taken : store.read kind
      (store.initialObject object object.metadata.name now).key = .ok (some stored) := by
    change store.read kind object.key = .ok (some stored)
    simp [read, isStored, legible]
  simp only [create, isName, taken, bind, Except.bind]
  rfl

theorem create_of_unnamed {object : Object kind} (now : Nat) (suffix : Nat → NameSuffix)
    (unnamed : object.metadata.name = "") (unstarted : object.metadata.generateName = "") :
    store.create object now suffix = .error (.unnamed kind object.metadata.scope) := by
  simp [create, nameFor, unnamed, unstarted, bind, Except.bind]

/-- An object without the start of a name is refused for the want of a name, or because the name is
taken. -/
theorem refusal_of_create {object : Object kind} {now : Nat} {suffix : Nat → NameSuffix}
    {error : StoreError} (other : kind ≠ .scheduling)
    (unstarted : object.metadata.generateName = "")
    (refused : store.create object now suffix = .error error) :
    object.metadata.name = "" ∧ error = .unnamed kind object.metadata.scope ∨
      store.find? kind object.key ≠ none ∧ error = .alreadyExists kind object.key := by
  by_cases named : object.metadata.name = ""
  · rw [create_of_unnamed now suffix named unstarted] at refused
    exact .inl ⟨named, (Except.error.inj refused).symm⟩
  · cases isThere : store.find? kind object.key with
    | none =>
        rw [create_of_absent now suffix named isThere] at refused
        contradiction
    | some stored =>
        rw [create_of_present now suffix named isThere (stored.isLegible_of_ne other)] at refused
        exact .inr ⟨by simp, (Except.error.inj refused).symm⟩

/-- An object that gives the start of a name is refused only when all names drawn are taken. -/
theorem namesTaken_of_create {object : Object kind} {now : Nat} {suffix : Nat → NameSuffix}
    {error : StoreError} (other : kind ≠ .scheduling) (unnamed : object.metadata.name = "")
    (started : object.metadata.generateName ≠ "")
    (refused : store.create object now suffix = .error error) :
    error = .namesTaken kind object.metadata.scope object.metadata.generateName := by
  obtain ⟨found, isFound, isFree⟩ := store.exists_freeName? other object.metadata suffix
  unfold create nameFor at refused
  rw [if_neg (by simp [unnamed]), if_neg started, isFound] at refused
  cases found with
  | none => exact (Except.error.inj refused).symm
  | some name =>
      have absent : store.read kind (store.initialObject object name now).key = .ok none :=
        (store.read_of_ne _ other).trans (congrArg Except.ok (isFree name rfl))
      change (store.read kind (store.initialObject object name now).key >>= _) = _ at refused
      rw [absent] at refused
      contradiction

theorem stored_of_create {object created : Object kind} {now : Nat}
    {suffix : Nat → NameSuffix} {after : Store}
    (done : store.create object now suffix = .ok (created, after)) :
    ∃ name, store.nameFor kind object.metadata suffix = .ok name ∧
      created = store.initialObject object name now ∧
      store.find? kind created.key = none ∧ after = store.write none created := by
  obtain ⟨name, named, made⟩ := exists_of_bind_eq_ok done
  obtain ⟨found, isRead, decided⟩ := exists_of_bind_eq_ok made
  cases found with
  | some holder => contradiction
  | none =>
      obtain ⟨rfl, rfl⟩ := Prod.mk.inj (Except.ok.inj decided)
      exact ⟨name, named, rfl, find?_of_read isRead, rfl⟩

end Store

end TenantFleet
