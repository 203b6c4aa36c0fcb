import Mathlib.Logic.Function.Basic
import TenantFleet.Proofs.Store.Index
import TenantFleet.Proofs.Store.Times

/-!
# What a store has, whenever it was written

Without resource versions and times, a store is a function from places to
objects: a kind and the text of a key lead to what is stored there.  A change
of the store updates this function at one place.  With an exact index, stores
that have the same in all places differ in versions and times only.
-/

namespace TenantFleet

variable {kind : Kind}

@[simp]
theorem Kind.timelessStatus_timelessStatus (status : kind.Status) :
    kind.timelessStatus (kind.timelessStatus status) = kind.timelessStatus status := by
  have once : FailureRecord.timeless ∘ FailureRecord.timeless = FailureRecord.timeless := rfl
  cases kind <;> simp [timelessStatus, once]

namespace Object

/-- The object without its resource version and its times; whether it is marked stays. -/
def unstamped (object : Object kind) : Object kind :=
  { object.timeless with metadata := { object.timeless.metadata with resourceVersion := 0 } }

@[simp]
theorem keyText_unstamped (object : Object kind) : object.unstamped.keyText = object.keyText := rfl

@[simp]
theorem key_unstamped (object : Object kind) : object.unstamped.key = object.key := rfl

@[simp]
theorem spec_unstamped (object : Object kind) : object.unstamped.spec = object.spec := rfl

@[simp]
theorem isHeld_unstamped (object : Object kind) : object.unstamped.isHeld = object.isHeld := rfl

@[simp]
theorem isMarked_unstamped (object : Object kind) :
    object.unstamped.isMarked = object.isMarked := by
  cases marked : object.metadata.deletionTime <;>
    simp [unstamped, timeless, isMarked, Metadata.isMarked, marked]

@[simp]
theorem isSpent_unstamped (object : Object kind) :
    Store.isSpent object.unstamped = Store.isSpent object := by
  rw [Store.isSpent, isMarked_unstamped]
  rfl

/-- A new object, as it is stored under the name at whatever time. -/
def fresh (object : Object kind) (name : String) : Object kind :=
  (Store.initialObject {} object name 0).unstamped

/-- What the store makes of `next` in the place of `stored`. -/
def rewritten (stored next : Object kind) : Object kind :=
  (Store.replacement {} stored next).unstamped

/-- The stored object with another status. -/
def retold (stored : Object kind) (status : kind.Status) : Object kind :=
  (Store.restated {} stored status).unstamped

/-- What is left of the stored object when the control plane lets it go. -/
def relieved? (stored : Object kind) : Option (Object kind) :=
  let next := stored.rewritten stored.letGo
  if Store.isSpent next then none else some next

/-- The stored object, marked for deletion. -/
def marked (stored : Object kind) : Object kind :=
  (Store.stamped {} stored 0).unstamped

@[simp]
theorem unstamped_hold (object : Object kind) : object.hold.unstamped = object.unstamped.hold := by
  have sameHeld : object.unstamped.metadata.isHeldBy finalizer =
      object.metadata.isHeldBy finalizer := rfl
  rw [hold, hold, Metadata.heldBy, Metadata.heldBy, sameHeld]
  split <;> rfl

theorem unstamped_replacement (store : Store) (stored next : Object kind) :
    (store.replacement stored next).unstamped = stored.unstamped.rewritten next.unstamped := by
  by_cases sameSpec : stored.spec = next.spec <;>
    simp [unstamped, rewritten, timeless, Store.replacement, Function.comp_def, sameSpec]

theorem unstamped_restated (store : Store) (stored : Object kind) (status : kind.Status) :
    (store.restated stored status).unstamped = stored.retold status := rfl

theorem unstamped_stamped (store : Store) (stored : Object kind) (now : Nat) :
    (store.stamped stored now).unstamped = stored.unstamped.marked := by
  simp [unstamped, marked, timeless, Store.stamped]

@[simp]
theorem retold_unstamped (stored : Object kind) (status : kind.Status) :
    stored.unstamped.retold status = stored.retold status := by
  simp [retold, unstamped, timeless, Store.restated, Function.comp_def]

/-- The last status counts. -/
theorem retold_retold (stored : Object kind) (first second : kind.Status) :
    (stored.retold first).retold second = stored.retold second := by
  simp [retold, unstamped, timeless, Store.restated, Function.comp_def]

end Object

namespace Store

/-- Where an object is stored: its kind, and the text of its key. -/
abbrev Place := Kind × String

/-- What is stored in each place. -/
abbrev Contents := (place : Place) → Option (Object place.1)

/-- What the store has in each place, without resource versions and times. -/
def contents (store : Store) : Contents := fun place =>
  ((store.table place.1).find? place.2).map Object.unstamped

/-- The stores are the same but for resource versions and times. -/
structure IsAlike (first second : Store) : Prop where
  lists : ∀ kind, (first.list kind).map Object.unstamped = (second.list kind).map Object.unstamped
  index : first.labelIndex = second.labelIndex

variable {store first second : Store}

theorem IsAlike.refl (store : Store) : store.IsAlike store :=
  ⟨fun _ => rfl, rfl⟩

theorem contents_text (store : Store) (kind : Kind) (key : ObjectKey) :
    store.contents (kind, key.text) = (store.find? kind key).map Object.unstamped := rfl

theorem contents_write (store : Store) (previous : Option (Object kind)) (next : Object kind) :
    (store.write previous next).contents =
      Function.update store.contents (kind, next.keyText) (some next.unstamped) := by
  funext ⟨read, text⟩
  by_cases sameKind : read = kind
  · subst sameKind
    by_cases sameText : next.keyText = text
    · subst sameText
      rw [Function.update_self]
      simp [contents, Table.find?_insert]
    · have apart : (read, text) ≠ (read, next.keyText) := fun same =>
        sameText (Prod.mk.inj same).2.symm
      rw [Function.update_of_ne apart]
      simp [contents, Table.find?_insert, sameText]
  · have apart : (read, text) ≠ (kind, next.keyText) := fun same => sameKind (Prod.mk.inj same).1
    rw [Function.update_of_ne apart]
    simp only [contents, table_write_of_ne store previous next sameKind]

theorem contents_remove (store : Store) (current : Object kind) :
    (store.remove current).contents =
      Function.update store.contents (kind, current.keyText) none := by
  funext ⟨read, text⟩
  by_cases sameKind : read = kind
  · subst sameKind
    by_cases sameText : text = current.keyText
    · subst sameText
      rw [Function.update_self]
      simp [contents, Table.find?_erase]
    · have apart : (read, text) ≠ (read, current.keyText) := fun same =>
        sameText (Prod.mk.inj same).2
      rw [Function.update_of_ne apart]
      simp [contents, Table.find?_erase, sameText]
  · have apart : (read, text) ≠ (kind, current.keyText) := fun same =>
      sameKind (Prod.mk.inj same).1
    rw [Function.update_of_ne apart]
    simp only [contents, table_remove_of_ne store current sameKind]

theorem contents_supplant {stored next : Object kind} (sameText : next.keyText = stored.keyText) :
    (store.supplant stored next).contents =
      Function.update store.contents (kind, stored.keyText)
        (if isSpent next then none else some next.unstamped) := by
  unfold supplant
  split
  · exact contents_remove store stored
  · rw [contents_write, sameText]

/-- What is listed is what is in the places. -/
theorem mem_map_unstamped_iff {item : Object kind} :
    item ∈ (store.list kind).map Object.unstamped ↔
      ∃ key : ObjectKey, store.contents (kind, key.text) = some item := by
  simp only [List.mem_map, contents_text, Option.map_eq_some_iff]
  constructor
  · rintro ⟨object, present, isItem⟩
    exact ⟨object.key, object, find?_key_of_mem present, isItem⟩
  · rintro ⟨key, object, found, isItem⟩
    exact ⟨object, mem_list_of_find? found, isItem⟩

/-- An exact index can be told from the listed objects, whatever their versions and times. -/
theorem IsIndexed.mem_labelIndex_iff (indexed : store.IsIndexed) {entry : String} :
    entry ∈ store.labelIndex.entries ↔
      ∃ kind, ∃ item ∈ (store.list kind).map Object.unstamped, entry ∈ indexEntries item := by
  rw [indexed entry]
  refine exists_congr fun kind => ?_
  simp only [List.mem_map, exists_exists_and_eq_and]
  rfl

theorem isAlike_of_contents_eq (same : first.contents = second.contents)
    (firstIndexed : first.IsIndexed) (secondIndexed : second.IsIndexed) :
    first.IsAlike second := by
  have ordered (store : Store) (kind : Kind) :
      InKeyOrder ((store.list kind).map Object.unstamped) :=
    List.pairwise_map.2 (store.table kind).ordered
  have lists (kind : Kind) : (first.list kind).map Object.unstamped =
      (second.list kind).map Object.unstamped :=
    (ordered first kind).eq_of_mem_iff (ordered second kind) fun item => by
      rw [mem_map_unstamped_iff, mem_map_unstamped_iff, same]
  refine ⟨lists, Table.eq_of_mem_iff fun entry => ?_⟩
  rw [firstIndexed.mem_labelIndex_iff, secondIndexed.mem_labelIndex_iff]
  simp only [lists]

end Store

end TenantFleet
