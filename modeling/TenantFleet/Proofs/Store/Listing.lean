import TenantFleet.Store.Change

/-!
# What is stored after a change

A write puts one object in the place of the object with its key, a removal
takes one away, and neither touches the objects of other kinds.  The laws are
stated for membership in the lists of the kinds, the form in which invariants
over all stored objects use them.
-/

namespace TenantFleet

namespace Store

variable {kind : Kind} {store : Store}

theorem mem_list_of_find? {key : ObjectKey} {object : Object kind}
    (found : store.find? kind key = some object) : object ∈ store.list kind :=
  (Table.find?_eq_some_iff.1 found).1

theorem keyText_of_find? {key : ObjectKey} {object : Object kind}
    (found : store.find? kind key = some object) : object.keyText = key.text :=
  (Table.find?_eq_some_iff.1 found).2

theorem find?_eq_some_of_mem {key : ObjectKey} {object : Object kind}
    (present : object ∈ store.list kind) (sameText : object.keyText = key.text) :
    store.find? kind key = some object :=
  Table.find?_eq_some_iff.2 ⟨present, sameText⟩

theorem find?_key_of_mem {object : Object kind} (present : object ∈ store.list kind) :
    store.find? kind object.key = some object :=
  find?_eq_some_of_mem present rfl

theorem keyText_ne_of_find?_eq_none {key : ObjectKey} {object : Object kind}
    (absent : store.find? kind key = none) (present : object ∈ store.list kind) :
    object.keyText ≠ key.text :=
  Table.find?_eq_none_iff.1 absent object present

/-- No two stored objects of a kind share the text of their keys. -/
theorem eq_of_keyText_eq {first second : Object kind} (firstPresent : first ∈ store.list kind)
    (secondPresent : second ∈ store.list kind) (sameText : first.keyText = second.keyText) :
    first = second :=
  (store.table kind).key_injective_on_entries firstPresent secondPresent sameText

@[simp]
theorem list_empty (kind : Kind) : ({} : Store).list kind = [] := by
  cases kind <;> rfl

theorem mem_list_write {previous : Option (Object kind)} {next object : Object kind} :
    object ∈ (store.write previous next).list kind ↔
      object = next ∨ object ∈ store.list kind ∧ object.keyText ≠ next.keyText := by
  simp only [list, table_write, Table.mem_insert]

theorem mem_list_write_self (store : Store) (previous : Option (Object kind))
    (next : Object kind) : next ∈ (store.write previous next).list kind :=
  mem_list_write.2 (.inl rfl)

theorem find?_write_self (store : Store) (previous : Option (Object kind)) (next : Object kind) :
    (store.write previous next).find? kind next.key = some next := by
  rw [find?_write]
  exact if_pos rfl

/-- What all stored objects have, they still have once an object with it is written. -/
theorem forall_mem_list_write {property : (read : Kind) → Object read → Prop}
    {previous : Option (Object kind)} {next : Object kind}
    (all : ∀ read, ∀ object ∈ store.list read, property read object)
    (ofNext : property kind next) :
    ∀ read, ∀ object ∈ (store.write previous next).list read, property read object := by
  intro read object present
  by_cases sameKind : read = kind
  · subst sameKind
    rcases mem_list_write.1 present with rfl | ⟨wasPresent, -⟩
    · exact ofNext
    · exact all read object wasPresent
  · rw [list, table_write_of_ne store previous next sameKind] at present
    exact all read object present

theorem list_write_of_ne (store : Store) (previous : Option (Object kind)) (next : Object kind)
    {read : Kind} (different : read ≠ kind) :
    (store.write previous next).list read = store.list read := by
  simp only [list, table_write_of_ne store previous next different]

theorem find?_write_of_ne (store : Store) (previous : Option (Object kind)) (next : Object kind)
    {read : Kind} (different : read ≠ kind) (key : ObjectKey) :
    (store.write previous next).find? read key = store.find? read key := by
  simp only [find?, table_write_of_ne store previous next different]

theorem find?_of_write {previous : Option (Object kind)} {next object : Object kind}
    (found : (store.write previous next).find? kind key = some object) :
    next.keyText = key.text ∧ object = next ∨ store.find? kind key = some object := by
  rw [find?_write] at found
  split at found
  next isNext => exact .inl ⟨isNext, (Option.some.inj found).symm⟩
  next => exact .inr found

theorem mem_list_remove {current object : Object kind} :
    object ∈ (store.remove current).list kind ↔
      object ∈ store.list kind ∧ object.keyText ≠ current.keyText := by
  simp only [list, table_remove, Table.mem_erase]

theorem list_remove_of_ne (store : Store) (current : Object kind) {read : Kind}
    (different : read ≠ kind) : (store.remove current).list read = store.list read := by
  simp only [list, table_remove_of_ne store current different]

theorem mem_list_of_mem_list_remove {current : Object kind} {read : Kind} {object : Object read}
    (present : object ∈ (store.remove current).list read) : object ∈ store.list read := by
  by_cases sameKind : read = kind
  · subst sameKind
    exact (mem_list_remove.1 present).1
  · rwa [list_remove_of_ne store current sameKind] at present

/-- The store once `next` has taken the place of `stored` by an update: nothing is left of an
object that nothing keeps any more. -/
def supplant (store : Store) (stored next : Object kind) : Store :=
  if isSpent next then { store.remove stored with lastVersion := store.lastVersion + 1 }
  else store.write (some stored) next

theorem supplant_of_kept {stored next : Object kind} (kept : isSpent next = false) :
    store.supplant stored next = store.write (some stored) next := by
  simp [supplant, kept]

theorem supplant_of_spent {stored next : Object kind} (spent : isSpent next = true) :
    store.supplant stored next =
      { store.remove stored with lastVersion := store.lastVersion + 1 } := by
  simp [supplant, spent]

/-- An update leaves what is found under another key. -/
theorem find?_supplant_of_ne {stored next : Object kind} {key : ObjectKey}
    (storedText : stored.keyText ≠ key.text) (nextText : next.keyText ≠ key.text) :
    (store.supplant stored next).find? kind key = store.find? kind key := by
  unfold supplant
  split
  · have removed := find?_remove store stored key
    rw [if_neg storedText.symm] at removed
    cases kind <;> exact removed
  · rw [find?_write, if_neg nextText]

/-- An update of a marked object that takes its last finalizer off leaves nothing under its key. -/
theorem find?_supplant_of_spent {stored next : Object kind} {key : ObjectKey}
    (spent : isSpent next = true) (storedText : stored.keyText = key.text) :
    (store.supplant stored next).find? kind key = none := by
  have removed := find?_remove store stored key
  rw [if_pos storedText.symm] at removed
  rw [supplant_of_spent spent]
  cases kind <;> exact removed

/-- The objects stand in the order of their keys, and none of them twice. -/
def InKeyOrder (objects : List (Object kind)) : Prop :=
  objects.Pairwise fun first second => first.keyText < second.keyText

theorem inKeyOrder_filter (store : Store) (kept : Object kind → Bool) :
    InKeyOrder ((store.list kind).filter kept) :=
  (store.table kind).ordered.sublist List.filter_sublist

/-- Objects in the order of their keys have different keys. -/
theorem InKeyOrder.nodup_keys {objects : List (Object kind)} (ordered : InKeyOrder objects) :
    (objects.map Object.key).Nodup := by
  rw [List.Nodup, List.pairwise_map]
  refine List.Pairwise.imp (fun {first second} before same => ?_) ordered
  have sameText : first.keyText = second.keyText := congrArg ObjectKey.text same
  exact String.lt_irrefl _ (sameText ▸ before)

theorem nodup_keys (store : Store) (kind : Kind) : ((store.list kind).map Object.key).Nodup :=
  InKeyOrder.nodup_keys (store.table kind).ordered

/-- Lists in the order of keys that have the same objects are the same. -/
theorem InKeyOrder.eq_of_mem_iff {first second : List (Object kind)} (ordered : InKeyOrder first)
    (ordered' : InKeyOrder second) (same : ∀ object, object ∈ first ↔ object ∈ second) :
    first = second := by
  have sameTables : (⟨first, ordered⟩ : ObjectTable kind) = ⟨second, ordered'⟩ :=
    Table.eq_of_mem_iff same
  exact (Table.mk.injEq ..).mp sameTables

/-- The counter of versions has no part in what is listed. -/
@[simp]
theorem list_with_lastVersion (store : Store) (version : Nat) (kind : Kind) :
    ({ store with lastVersion := version } : Store).list kind = store.list kind := by
  cases kind <;> rfl

/-- What all stored objects have, they still have once an object with it has taken the place of
another, and also when nothing is left of that. -/
theorem forall_mem_list_supplant {property : (read : Kind) → Object read → Prop}
    {stored next : Object kind} (all : ∀ read, ∀ object ∈ store.list read, property read object)
    (ofNext : isSpent next = false → property kind next) :
    ∀ read, ∀ object ∈ (store.supplant stored next).list read, property read object := by
  cases spent : isSpent next with
  | true =>
      rw [supplant_of_spent spent]
      intro read object present
      rw [list_with_lastVersion] at present
      exact all read object (mem_list_of_mem_list_remove present)
  | false =>
      rw [supplant_of_kept spent]
      exact forall_mem_list_write all (ofNext spent)

end Store

end TenantFleet
