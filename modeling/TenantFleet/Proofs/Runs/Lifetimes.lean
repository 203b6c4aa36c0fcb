import TenantFleet.Proofs.Passes.Running
import TenantFleet.Proofs.Store.Edit

/-!
# The lives of stored objects

An object lives from the request that creates it to the one with which it goes.
In between its time of creation stays, its generation counts the changes of its
spec, its mark stays once it is there, and its status is what the last writer of
the status left.  It goes when it is deleted without finalizers, or when an
update takes the last finalizer off a marked one.  What a request does to the
object under one key is said once, in `Store.Turn`.
-/

namespace TenantFleet

variable {kind : Kind}

namespace Request

/-- Whether the request is for a change of what is stored under the key. -/
def IsAbout (kind : Kind) (key : ObjectKey) : Request → Prop
  | .create _ _ _ => False
  | @update other object | @setStatus other object =>
      other = kind ∧ object.keyText = key.text
  | .delete other deleted _ => other = kind ∧ deleted.text = key.text

/-- What becomes of an object that the request leaves in the store. -/
structure Keeps (request : Request) (key : ObjectKey) (old new : Object kind) : Prop where
  creationTime : new.metadata.creationTime = old.metadata.creationTime
  /-- The generation moves by one with the spec, and with nothing else. -/
  generation : new.metadata.generation =
    if new.spec = old.spec then old.metadata.generation else old.metadata.generation + 1
  /-- Only an update changes the spec. -/
  spec : new.spec ≠ old.spec →
    ∃ object : Object kind, request = .update object ∧ object.keyText = key.text
  /-- An update puts its spec in place. -/
  updates : ∀ object : Object kind, request = .update object → object.keyText = key.text →
    new.spec = object.spec
  /-- A mark stays as it is. -/
  deletionTime : ∀ time, old.metadata.deletionTime = some time →
    new.metadata.deletionTime = some time
  /-- Only a deletion marks. -/
  marks : ∀ time, old.metadata.deletionTime = none → new.metadata.deletionTime = some time →
    ∃ deleted : ObjectKey, request = .delete kind deleted time ∧ deleted.text = key.text
  /-- Only a write of the status changes it. -/
  status : new.status ≠ old.status →
    ∃ object : Object kind, request = .setStatus object ∧ object.keyText = key.text ∧
      new.status = object.status
  /-- A write of a status changes nothing but that and the version. -/
  restates : ∀ {other : Kind} (object : Object other), request = .setStatus object →
    new.spec = old.spec ∧
      new.metadata = { old.metadata with resourceVersion := new.metadata.resourceVersion }

/-- The request takes what is stored under the key away: it deletes an object without finalizers, or
leaves a marked one without them. -/
def Ends (request : Request) (key : ObjectKey) (stored : Object kind) : Prop :=
  (∃ (deleted : ObjectKey) (now : Nat), request = .delete kind deleted now ∧
    deleted.text = key.text ∧ stored.metadata.finalizers = []) ∨
  ∃ object : Object kind, request = .update object ∧ object.keyText = key.text ∧
    stored.isMarked = true ∧ object.metadata.finalizers = []

/-- The request as work on a world, which draws the time and the suffixes for itself. -/
def onWorld : Request → Pass StoreError Unit
  | .create object _ _ => discard (World.create object)
  | .update object => discard (World.update object)
  | .setStatus object => discard (World.setStatus object)
  | .delete kind key _ => discard (World.delete kind key)

/-- Work on a world that fails writes nothing. -/
theorem unwritten_of_onWorld_error {request : Request} {world after : World} {error : StoreError}
    (failed : request.onWorld.runOn world = (.error error, after)) :
    after.store = world.store ∧ after.journal = world.journal := by
  cases request with
  | create object now suffix =>
      cases done : world.store.create object world.clock.next world.suffixes.ahead with
      | error refusal =>
          rw [onWorld, Pass.runOn_discard, World.runOn_create_of_error done] at failed
          obtain ⟨-, rfl⟩ := Prod.mk.inj failed
          exact ⟨rfl, rfl⟩
      | ok result =>
          rw [onWorld, Pass.runOn_discard, World.runOn_create_of_ok done] at failed
          cases failed
  | update object =>
      cases done : world.store.update object with
      | error refusal =>
          rw [onWorld, Pass.runOn_discard, World.runOn_update_of_error done] at failed
          obtain ⟨-, rfl⟩ := Prod.mk.inj failed
          exact ⟨rfl, rfl⟩
      | ok result =>
          rw [onWorld, Pass.runOn_discard, World.runOn_update_of_ok done] at failed
          cases failed
  | setStatus object =>
      cases done : world.store.setStatus object with
      | error refusal =>
          rw [onWorld, Pass.runOn_discard, World.runOn_setStatus_of_error done] at failed
          obtain ⟨-, rfl⟩ := Prod.mk.inj failed
          exact ⟨rfl, rfl⟩
      | ok result =>
          rw [onWorld, Pass.runOn_discard, World.runOn_setStatus_of_ok done] at failed
          cases failed
  | delete kind key now =>
      cases done : world.store.delete kind key world.clock.next with
      | error refusal =>
          rw [onWorld, Pass.runOn_discard, World.runOn_delete_of_error done] at failed
          obtain ⟨-, rfl⟩ := Prod.mk.inj failed
          exact ⟨rfl, rfl⟩
      | ok result =>
          rw [onWorld, Pass.runOn_discard, World.runOn_delete_of_ok done] at failed
          cases failed

end Request

namespace Store

variable {store after : Store} {key : ObjectKey} {request : Request}

/-- What a request that succeeds does to the object under a key. -/
inductive Turn (store : Store) (kind : Kind) (key : ObjectKey) :
    Request → Option (Object kind) → Option (Object kind) → Prop
  | apart {request : Request} {found : Option (Object kind)}
      (other : ¬ request.IsAbout kind key) : Turn store kind key request found found
  | created (object : Object kind) (name : String) (now : Nat) (suffix : Nat → NameSuffix) :
      Turn store kind key (.create object now suffix) none
        (some (store.initialObject object name now))
  | replaced {object stored : Object kind} (sameText : object.keyText = key.text)
      (kept : isSpent (store.replacement stored object) = false) :
      Turn store kind key (.update object) (some stored) (some (store.replacement stored object))
  | spent {object stored : Object kind} (sameText : object.keyText = key.text)
      (spent : isSpent (store.replacement stored object) = true) :
      Turn store kind key (.update object) (some stored) none
  | restated {object stored : Object kind} (sameText : object.keyText = key.text) :
      Turn store kind key (.setStatus object) (some stored)
        (some (store.restated stored object.status))
  | purged {stored : Object kind} {deleted : ObjectKey} (now : Nat)
      (sameText : deleted.text = key.text) (free : stored.metadata.finalizers = []) :
      Turn store kind key (.delete kind deleted now) (some stored) none
  | pending {stored : Object kind} {deleted : ObjectKey} (now : Nat)
      (sameText : deleted.text = key.text) (kept : stored.metadata.finalizers ≠ [])
      (marked : stored.isMarked = true) :
      Turn store kind key (.delete kind deleted now) (some stored) (some stored)
  | marked {stored : Object kind} {deleted : ObjectKey} (now : Nat)
      (sameText : deleted.text = key.text) (kept : stored.metadata.finalizers ≠ [])
      (unmarked : stored.isMarked = false) :
      Turn store kind key (.delete kind deleted now) (some stored)
        (some (store.stamped stored now))

theorem turn_of_create {other : Kind} {object created : Object other} {now : Nat}
    {suffix : Nat → NameSuffix} (done : store.create object now suffix = .ok (created, after)) :
    store.Turn kind key (.create object now suffix) (store.find? kind key)
      (after.find? kind key) := by
  obtain ⟨name, -, rfl, absent, rfl⟩ := stored_of_create done
  by_cases sameKind : kind = other
  · subst sameKind
    rw [find?_write]
    split
    next sameText =>
      have vacant : store.find? kind key = none := by
        rw [find?, ← sameText]
        exact absent
      rw [vacant]
      exact .created object name now suffix
    next => exact .apart id
  · rw [find?_write_of_ne _ _ _ sameKind]
    exact .apart id

theorem turn_of_update {other : Kind} {object updated : Object other}
    (done : store.update object = .ok (updated, after)) :
    store.Turn kind key (.update object) (store.find? kind key) (after.find? kind key) := by
  obtain ⟨stored, present, sameText, -, rfl⟩ := stored_of_update done
  by_cases sameKind : kind = other
  · subst sameKind
    by_cases own : object.keyText = key.text
    · rw [find?_eq_some_of_mem present (sameText.trans own)]
      cases isKept : isSpent (store.replacement stored object) with
      | true =>
          rw [find?_supplant_of_spent isKept (sameText.trans own)]
          exact .spent own isKept
      | false =>
          rw [supplant_of_kept isKept, find?_write,
            if_pos (show (store.replacement stored object).keyText = key.text from own)]
          exact .replaced own isKept
    · rw [find?_supplant_of_ne (fun text => own (sameText.symm.trans text))
        (show (store.replacement stored object).keyText ≠ key.text from own)]
      exact .apart fun about => own about.2
  · rw [(sameBeside_supplant store stored _).find? sameKind]
    exact .apart fun about => sameKind about.1.symm

theorem turn_of_setStatus {other : Kind} {object updated : Object other}
    (done : store.setStatus object = .ok (updated, after)) :
    store.Turn kind key (.setStatus object) (store.find? kind key) (after.find? kind key) := by
  obtain ⟨stored, present, sameText, -, rfl⟩ := stored_of_setStatus done
  by_cases sameKind : kind = other
  · subst sameKind
    rw [find?_write, keyText_restated]
    split
    next own =>
      rw [find?_eq_some_of_mem present own]
      exact .restated (sameText.symm.trans own)
    next other => exact .apart fun about => other (sameText.trans about.2)
  · rw [find?_write_of_ne _ _ _ sameKind]
    exact .apart fun about => sameKind about.1.symm

theorem turn_of_delete {other : Kind} {deleted : ObjectKey} {now : Nat} {removal : Removal}
    (done : store.delete other deleted now = .ok (removal, after)) :
    store.Turn kind key (.delete other deleted now) (store.find? kind key)
      (after.find? kind key) := by
  obtain ⟨stored, isRead⟩ := exists_read_of_delete done
  have isStored := find?_of_read isRead
  have present := mem_list_of_find? isStored
  have storedText := keyText_of_find? isStored
  by_cases about : other = kind ∧ deleted.text = key.text
  · obtain ⟨rfl, sameText⟩ := about
    have own : stored.keyText = key.text := storedText.trans sameText
    rw [find?_eq_some_of_mem present own]
    rw [delete_of_read now isRead] at done
    split at done
    next free =>
      obtain ⟨-, rfl⟩ := Prod.mk.inj (Except.ok.inj done)
      rw [find?_remove, if_pos own.symm]
      exact .purged now sameText (by simpa using free)
    next kept =>
      have held : stored.metadata.finalizers ≠ [] := by simpa using kept
      split at done
      next marked =>
        obtain ⟨-, rfl⟩ := Prod.mk.inj (Except.ok.inj done)
        rw [find?_eq_some_of_mem present own]
        exact .pending now sameText held marked
      next unmarked =>
        obtain ⟨-, rfl⟩ := Prod.mk.inj (Except.ok.inj done)
        rw [find?_write, if_pos (show (store.stamped stored now).keyText = key.text from own)]
        exact .marked now sameText held (by simpa using unmarked)
  · have same : after.find? kind key = store.find? kind key := by
      rcases deletion_of_delete done with ⟨-, rfl⟩ | ⟨-, current, currentPresent, currentText, done⟩
      · rfl
      · by_cases sameKind : kind = other
        · subst sameKind
          have apart : current.keyText ≠ key.text := fun text =>
            about ⟨rfl, currentText.symm.trans text⟩
          cases done with
          | purged free => rw [find?_remove, if_neg apart.symm]
          | marked kept unmarked now =>
              rw [find?_write,
                if_neg (show (store.stamped current now).keyText ≠ key.text from apart)]
        · exact done.sameBeside.find? sameKind key
    rw [same]
    exact .apart about

/-- A request that succeeds does one of these things to what is stored under a key. -/
theorem turn_of_perform {issue : Option Issue} (done : request.perform store = .ok (issue, after)) :
    store.Turn kind key request (store.find? kind key) (after.find? kind key) := by
  cases request with
  | create object now suffix =>
      obtain ⟨⟨created, left⟩, made, answered⟩ := exists_of_bind_eq_ok done
      obtain ⟨-, rfl⟩ := Prod.mk.inj (Except.ok.inj answered)
      exact turn_of_create made
  | update object =>
      obtain ⟨⟨updated, left⟩, made, answered⟩ := exists_of_bind_eq_ok done
      obtain ⟨-, rfl⟩ := Prod.mk.inj (Except.ok.inj answered)
      exact turn_of_update made
  | setStatus object =>
      obtain ⟨⟨updated, left⟩, made, answered⟩ := exists_of_bind_eq_ok done
      obtain ⟨-, rfl⟩ := Prod.mk.inj (Except.ok.inj answered)
      exact turn_of_setStatus made
  | delete other deleted now =>
      obtain ⟨⟨removal, left⟩, made, answered⟩ := exists_of_bind_eq_ok done
      have sameStore : left = after := by
        cases removal <;> exact (Prod.mk.inj (Except.ok.inj answered)).2
      exact turn_of_delete (sameStore ▸ made)

variable {old new stored : Object kind}

/-- An object that is there after a request is new, or was there before. -/
theorem Turn.begins (turn : store.Turn kind key request none (some new)) :
    new.metadata.generation = 1 ∧ new.metadata.deletionTime = none ∧
      ∃ (object : Object kind) (now : Nat) (suffix : Nat → NameSuffix),
        request = .create object now suffix ∧ new.metadata.creationTime = now ∧
          new.spec = object.spec ∧ new.status = object.status := by
  cases turn with
  | created object name now suffix => exact ⟨rfl, rfl, object, now, suffix, rfl, rfl, rfl, rfl⟩

/-- A request that is for no update of an object and leaves it as it is breaks no law. -/
theorem keeps_self (notUpdated : ∀ object : Object kind, request = .update object →
    object.keyText ≠ key.text) (object : Object kind) : request.Keeps key object object where
  creationTime := rfl
  generation := (if_pos rfl).symm
  spec changed := absurd rfl changed
  updates other isUpdate sameText := absurd sameText (notUpdated other isUpdate)
  deletionTime _ isTime := isTime
  marks time unmarked isTime := by cases unmarked.symm.trans isTime
  status changed := absurd rfl changed
  restates _ _ := ⟨rfl, rfl⟩

theorem keeps_replacement (store : Store) (stored : Object kind) {object : Object kind}
    (sameText : object.keyText = key.text) :
    (Request.update object).Keeps key stored (store.replacement stored object) where
  creationTime := rfl
  generation := by
    change (if stored.spec = object.spec then _ else _) = if object.spec = stored.spec then _ else _
    simp only [eq_comm]
  spec _ := ⟨object, rfl, sameText⟩
  updates other isUpdate _ := by
    injection isUpdate with _ same
    rw [← same]
    rfl
  deletionTime _ isTime := isTime
  marks time unmarked isTime := by
    cases unmarked.symm.trans (show stored.metadata.deletionTime = some time from isTime)
  status changed := absurd rfl changed
  restates _ isStatus := by contradiction

theorem keeps_restated (store : Store) (stored : Object kind) {object : Object kind}
    (sameText : object.keyText = key.text) :
    (Request.setStatus object).Keeps key stored (store.restated stored object.status) where
  creationTime := rfl
  generation := (if_pos rfl).symm
  spec changed := absurd rfl changed
  updates _ isUpdate := by contradiction
  deletionTime _ isTime := isTime
  marks time unmarked isTime := by
    cases unmarked.symm.trans (show stored.metadata.deletionTime = some time from isTime)
  status _ := ⟨object, rfl, sameText, rfl⟩
  restates _ _ := ⟨rfl, rfl⟩

theorem keeps_stamped (store : Store) {stored : Object kind} (unmarked : stored.isMarked = false)
    {deleted : ObjectKey} (now : Nat) (sameText : deleted.text = key.text) :
    (Request.delete kind deleted now).Keeps key stored (store.stamped stored now) where
  creationTime := rfl
  generation := (if_pos rfl).symm
  spec changed := absurd rfl changed
  updates _ isUpdate := by contradiction
  deletionTime time isTime := by
    simp [Object.isMarked, Metadata.isMarked, isTime] at unmarked
  marks time _ isTime := ⟨deleted, Option.some.inj isTime ▸ rfl, sameText⟩
  status changed := absurd rfl changed
  restates _ isStatus := by contradiction

/-- What a request leaves in the store it leaves as it should. -/
theorem Turn.keeps (turn : store.Turn kind key request (some old) (some new)) :
    request.Keeps key old new := by
  cases turn with
  | apart other =>
      refine keeps_self (fun object isUpdate sameText => other ?_) old
      rw [isUpdate]
      exact ⟨rfl, sameText⟩
  | pending now sameText kept marked => exact keeps_self (fun _ isUpdate => by contradiction) old
  | replaced sameText kept => exact keeps_replacement store old sameText
  | restated sameText => exact keeps_restated store old sameText
  | marked now sameText kept unmarked => exact keeps_stamped store unmarked now sameText

/-- An object goes with a request exactly if that ends its life. -/
theorem Turn.eq_none_iff {left : Option (Object kind)}
    (turn : store.Turn kind key request (some stored) left) :
    left = none ↔ request.Ends key stored := by
  cases turn with
  | apart other =>
      refine iff_of_false (Option.some_ne_none _) ?_
      rintro (⟨deleted, now, rfl, sameText, -⟩ | ⟨object, rfl, sameText, -⟩)
      · exact other ⟨rfl, sameText⟩
      · exact other ⟨rfl, sameText⟩
  | @replaced object stored sameText kept =>
      refine iff_of_false (Option.some_ne_none _) ?_
      rintro (⟨deleted, now, isDeletion, -⟩ | ⟨other, isUpdate, -, marked, free⟩)
      · contradiction
      · injection isUpdate with _ same
        rw [← same] at free
        simp [isSpent, marked, free] at kept
  | @spent object stored sameText spent =>
      refine iff_of_true rfl (.inr ⟨object, rfl, sameText, ?_⟩)
      simpa [isSpent] using spent
  | restated sameText =>
      refine iff_of_false (Option.some_ne_none _) ?_
      rintro (⟨deleted, now, isDeletion, -⟩ | ⟨other, isUpdate, -⟩) <;> contradiction
  | @purged stored deleted now sameText free =>
      exact iff_of_true rfl (.inl ⟨deleted, now, rfl, sameText, free⟩)
  | pending now sameText kept | marked now sameText kept =>
      refine iff_of_false (Option.some_ne_none _) ?_
      rintro (⟨deleted, time, -, -, free⟩ | ⟨other, isUpdate, -⟩)
      · exact kept free
      · contradiction

end Store

namespace History

variable {history : History} {request : Request} {key : ObjectKey} {old new : Object kind}

theorem after_of_refused (refused : ¬ request.Succeeds history.store) :
    history.after request = history := by
  unfold after
  split
  next issue store done => exact absurd ⟨_, done⟩ refused
  next => rfl

theorem turn_after (succeeds : request.Succeeds history.store) (kind : Kind) (key : ObjectKey) :
    history.store.Turn kind key request (history.store.find? kind key)
      ((history.after request).store.find? kind key) := by
  obtain ⟨⟨issue, store⟩, done⟩ := succeeds
  have isAfter : (history.after request).store = store := by simp only [after, done]
  rw [isAfter]
  exact Store.turn_of_perform done

/-- The object under the key is there all the while that the requests are made. -/
def Lives (kind : Kind) (key : ObjectKey) : History → List Request → Prop
  | history, [] => (history.store.find? kind key).isSome
  | history, request :: rest =>
      (history.store.find? kind key).isSome ∧ Lives kind key (history.after request) rest

/-- How often the spec under the key changes while the requests are made. -/
def specChanges (kind : Kind) (key : ObjectKey) : History → List Request → Nat
  | _, [] => 0
  | history, request :: rest =>
      let next := history.after request
      (if (next.store.find? kind key).map Object.spec =
          (history.store.find? kind key).map Object.spec then 0 else 1) +
        specChanges kind key next rest

/-- What a part of the life of an object comes to, in the course of which the spec changes so many
times. -/
structure Ages (changes : Nat) (first last : Object kind) : Prop where
  creationTime : last.metadata.creationTime = first.metadata.creationTime
  generation : last.metadata.generation = first.metadata.generation + changes
  deletionTime : ∀ time, first.metadata.deletionTime = some time →
    last.metadata.deletionTime = some time

theorem Ages.refl (object : Object kind) : Ages 0 object object :=
  ⟨rfl, by simp, fun _ isTime => isTime⟩

theorem Ages.trans {earlier later : Nat} {first middle last : Object kind}
    (toMiddle : Ages earlier first middle) (toLast : Ages later middle last) :
    Ages (earlier + later) first last where
  creationTime := toLast.creationTime.trans toMiddle.creationTime
  generation := by
    rw [toLast.generation, toMiddle.generation]
    omega
  deletionTime time isTime := toLast.deletionTime time (toMiddle.deletionTime time isTime)

/-- One request ages what it leaves in the store by whether it changes the spec. -/
theorem ages_after (before : history.store.find? kind key = some old)
    (left : (history.after request).store.find? kind key = some new) :
    Ages (if new.spec = old.spec then 0 else 1) old new := by
  by_cases succeeds : request.Succeeds history.store
  · have turn := turn_after succeeds kind key
    rw [before, left] at turn
    have keeps := turn.keeps
    refine ⟨keeps.creationTime, ?_, keeps.deletionTime⟩
    rw [keeps.generation]
    split <;> simp
  · rw [after_of_refused succeeds, before] at left
    obtain rfl := Option.some.inj left
    simpa using Ages.refl old

/-- A part of a life is as long as the requests that make it up. -/
theorem ages_of_lives (requests : List Request) (lives : Lives kind key history requests) :
    ∃ first last, history.store.find? kind key = some first ∧
      (requests.foldl after history).store.find? kind key = some last ∧
        Ages (specChanges kind key history requests) first last := by
  induction requests generalizing history with
  | nil =>
      obtain ⟨object, found⟩ := Option.isSome_iff_exists.1 lives
      exact ⟨object, object, found, found, .refl object⟩
  | cons request rest ih =>
      obtain ⟨here, later⟩ := lives
      obtain ⟨first, found⟩ := Option.isSome_iff_exists.1 here
      obtain ⟨middle, last, isMiddle, isLast, toLast⟩ := ih later
      have step := ages_after found isMiddle
      refine ⟨first, last, found, isLast, ?_⟩
      simpa [specChanges, found, isMiddle] using step.trans toLast

/-- What holds of the lives of objects once the requests have been made. -/
structure LivesAreLawful (requests : List Request) : Prop where
  /-- What is new was created, at the first generation and without a mark. -/
  begins : ∀ (request : Request) kind key (object : Object kind),
    (ofRequests requests).store.find? kind key = none →
    ((ofRequests requests).after request).store.find? kind key = some object →
      object.metadata.generation = 1 ∧ object.metadata.deletionTime = none ∧
        ∃ (created : Object kind) (now : Nat) (suffix : Nat → NameSuffix),
          request = .create created now suffix ∧ object.metadata.creationTime = now ∧
            object.spec = created.spec ∧ object.status = created.status
  /-- What stays is changed by the request as far as that may. -/
  keeps : ∀ (request : Request) kind key (old new : Object kind),
    request.Succeeds (ofRequests requests).store →
    (ofRequests requests).store.find? kind key = some old →
    ((ofRequests requests).after request).store.find? kind key = some new →
      request.Keeps key old new
  /-- What goes is deleted without finalizers, or was marked and loses them by an update. -/
  ends : ∀ (request : Request) kind key (stored : Object kind),
    request.Succeeds (ofRequests requests).store →
    (ofRequests requests).store.find? kind key = some stored →
      (((ofRequests requests).after request).store.find? kind key = none ↔
        request.Ends key stored)
  /-- What is marked has a finalizer. -/
  held : ∀ kind, ∀ object ∈ (ofRequests requests).store.list kind, object.isMarked = true →
    object.metadata.finalizers ≠ []
  /-- A request that fails leaves everything as it is. -/
  refused : ∀ request : Request, ¬ request.Succeeds (ofRequests requests).store →
    (ofRequests requests).after request = ofRequests requests
  /-- Nor does one that fails as part of the work on a world write anything there. -/
  unwritten : ∀ (request : Request) (world after : World) (error : StoreError),
    request.onWorld.runOn world = (.error error, after) →
      after.store = world.store ∧ after.journal = world.journal
  /-- However long an object lives on, it ages by the changes of its spec alone. -/
  ages : ∀ later kind key, Lives kind key (ofRequests requests) later →
    ∃ first last, (ofRequests requests).store.find? kind key = some first ∧
      (ofRequests (requests ++ later)).store.find? kind key = some last ∧
        Ages (specChanges kind key (ofRequests requests) later) first last

/-- In every history, objects live by the laws. -/
theorem lives_are_lawful (requests : List Request) : LivesAreLawful requests where
  begins := by
    intro request kind key object absent created
    by_cases succeeds : request.Succeeds (ofRequests requests).store
    · have turn := turn_after succeeds kind key
      rw [absent, created] at turn
      exact turn.begins
    · rw [after_of_refused succeeds, absent] at created
      contradiction
  keeps := by
    intro request kind key old new succeeds before left
    have turn := turn_after succeeds kind key
    rw [before, left] at turn
    exact turn.keeps
  ends := by
    intro request kind key stored succeeds before
    have turn := turn_after succeeds kind key
    rw [before] at turn
    exact turn.eq_none_iff
  held := fun _ _ => (isUnspent_ofRequests requests).finalizers_ne_nil
  refused := fun _ => after_of_refused
  unwritten := fun _ _ _ _ => Request.unwritten_of_onWorld_error
  ages := by
    intro later kind key lives
    rw [ofRequests_append]
    exact ages_of_lives later lives

end History

end TenantFleet
