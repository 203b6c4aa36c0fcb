import TenantFleet.Store.Reading

/-!
# Changes of the store

Creating, replacing and deleting stored objects.  Every change of an object
takes the next resource version.  A replacement bears the version that its
writer has seen and fails when that is not the stored one.  A change that fails
leaves the store as it was: it yields an error in place of a store.
-/

namespace TenantFleet

/-- The end of a name that the store completes: a number of five hexadecimal digits. -/
abbrev NameSuffix := Fin 0x100000

/-- The five digits of a name's end. -/
def NameSuffix.text (suffix : NameSuffix) : String :=
  let digits := Nat.toDigits 16 suffix.val
  String.ofList (List.replicate (5 - digits.length) '0' ++ digits)

/-- How many names are tried for an object whose name the store completes. -/
def nameAttempts : Nat := 8

/-- What became of an object that was deleted. -/
inductive Removal where
  /-- It is gone. -/
  | purged
  /-- It is marked, and goes with its last finalizer. -/
  | marked
  /-- It had been marked before. -/
  | pending
deriving DecidableEq, Repr

namespace Store

variable {kind : Kind}

/-- The index with the entries of `previous` replaced by those of `next`. -/
def reindexed (store : Store) (previous next : Option (Object kind)) :
    Table (α := String) id :=
  let withoutPrevious := (previous.elim [] indexEntries).foldl Table.erase store.labelIndex
  (next.elim [] indexEntries).foldl Table.insert withoutPrevious

/-- The store with `next` written over `previous`, at the next resource version. -/
def write (store : Store) (previous : Option (Object kind)) (next : Object kind) : Store :=
  { store.withTable kind ((store.table kind).insert next) with
    labelIndex := store.reindexed previous (some next)
    lastVersion := store.lastVersion + 1 }

/-- The store without the object `current`. -/
def remove (store : Store) (current : Object kind) : Store :=
  { store.withTable kind ((store.table kind).erase current.keyText) with
    labelIndex := store.reindexed (some current) none }

@[simp]
theorem lastVersion_write (store : Store) (previous : Option (Object kind)) (next : Object kind) :
    (store.write previous next).lastVersion = store.lastVersion + 1 := rfl

@[simp]
theorem lastVersion_remove (store : Store) (current : Object kind) :
    (store.remove current).lastVersion = store.lastVersion := by
  simp [remove]

@[simp]
theorem table_write (store : Store) (previous : Option (Object kind)) (next : Object kind) :
    (store.write previous next).table kind = (store.table kind).insert next := by
  cases kind <;> rfl

@[simp]
theorem table_remove (store : Store) (current : Object kind) :
    (store.remove current).table kind = (store.table kind).erase current.keyText := by
  cases kind <;> rfl

theorem table_write_of_ne (store : Store) (previous : Option (Object kind)) (next : Object kind)
    {read : Kind} (different : read ≠ kind) :
    (store.write previous next).table read = store.table read := by
  cases kind <;> cases read <;> first | rfl | exact absurd rfl different

theorem table_remove_of_ne (store : Store) (current : Object kind) {read : Kind}
    (different : read ≠ kind) : (store.remove current).table read = store.table read := by
  cases kind <;> cases read <;> first | rfl | exact absurd rfl different

/-- What is written is found under its key, and nothing else moves. -/
theorem find?_write (store : Store) (previous : Option (Object kind)) (next : Object kind)
    (key : ObjectKey) :
    (store.write previous next).find? kind key =
      if next.keyText = key.text then some next else store.find? kind key := by
  simp only [find?, table_write, Table.find?_insert]

/-- What is removed is found no more, and nothing else moves. -/
theorem find?_remove (store : Store) (current : Object kind) (key : ObjectKey) :
    (store.remove current).find? kind key =
      if key.text = current.keyText then none else store.find? kind key := by
  simp only [find?, table_remove, Table.find?_erase]

/-- The first of the names made from the drawn suffixes that is not taken. -/
def freeName? (store : Store) (kind : Kind) (metadata : Metadata)
    (suffix : Nat → NameSuffix) : Except StoreError (Option String) :=
  (List.range nameAttempts).findSomeM? fun attempt => do
    let name := metadata.generateName ++ (suffix attempt).text
    let holder ← store.read kind ⟨metadata.scope, name⟩
    return if holder.isSome then none else some name

/-- The name of a new object: its own, or one that the store completes. -/
def nameFor (store : Store) (kind : Kind) (metadata : Metadata) (suffix : Nat → NameSuffix) :
    Except StoreError String := do
  if metadata.name ≠ "" then
    .ok metadata.name
  else if metadata.generateName = "" then
    .error (.unnamed kind metadata.scope)
  else
    match ← store.freeName? kind metadata suffix with
    | some name => .ok name
    | none => .error (.namesTaken kind metadata.scope metadata.generateName)

def initialObject (store : Store) (object : Object kind) (name : String) (now : Nat) :
    Object kind :=
  { object with
    metadata :=
      { object.metadata with
        name := name
        resourceVersion := store.lastVersion + 1
        generation := 1
        creationTime := now
        deletionTime := none } }

/-- Create an object; yields it as it is stored. -/
def create (store : Store) (object : Object kind) (now : Nat) (suffix : Nat → NameSuffix) :
    Except StoreError (Object kind × Store) := do
  let name ← store.nameFor kind object.metadata suffix
  let created := store.initialObject object name now
  match ← store.read kind created.key with
  | some _ => .error (.alreadyExists kind created.key)
  | none => .ok (created, store.write none created)

/-- The stored object that `object` is a change of, if it is at the version that the writer of
`object` has seen. -/
def current (store : Store) (object : Object kind) : Except StoreError (Object kind) := do
  match ← store.read kind object.key with
  | none => .error (.notFound kind object.key)
  | some stored =>
      if stored.metadata.resourceVersion = object.metadata.resourceVersion then
        .ok stored
      else
        .error (.conflict kind object.key object.metadata.resourceVersion
          stored.metadata.resourceVersion)

/-- The object as it is stored when it replaces `stored`: the status, the times and, unless the
spec changes, the generation stay. -/
def replacement (store : Store) (stored object : Object kind) : Object kind where
  metadata :=
    { object.metadata with
      resourceVersion := store.lastVersion + 1
      creationTime := stored.metadata.creationTime
      deletionTime := stored.metadata.deletionTime
      generation :=
        if stored.spec = object.spec then stored.metadata.generation
        else stored.metadata.generation + 1 }
  spec := object.spec
  status := stored.status

/-- Whether nothing keeps the object: it is marked for deletion and has no finalizers. -/
def isSpent (object : Object kind) : Bool :=
  object.isMarked && object.metadata.finalizers.isEmpty

/-- Replace the metadata and the spec of an object; one that nothing keeps any more is removed.
Yields the object as it is written. -/
def update (store : Store) (object : Object kind) : Except StoreError (Object kind × Store) := do
  let stored ← store.current object
  let next := store.replacement stored object
  if isSpent next then
    .ok (next, { store.remove stored with lastVersion := store.lastVersion + 1 })
  else
    .ok (next, store.write (some stored) next)

def setStatus (store : Store) (object : Object kind) :
    Except StoreError (Object kind × Store) := do
  let stored ← store.current object
  let next : Object kind :=
    { stored with
      status := object.status
      metadata := { stored.metadata with resourceVersion := store.lastVersion + 1 } }
  .ok (next, store.write (some stored) next)

def delete (store : Store) (kind : Kind) (key : ObjectKey) (now : Nat) :
    Except StoreError (Removal × Store) := do
  match ← store.read kind key with
  | none => .error (.notFound kind key)
  | some stored =>
      if stored.metadata.finalizers.isEmpty then
        .ok (.purged, store.remove stored)
      else if stored.isMarked then
        .ok (.pending, store)
      else
        let next : Object kind :=
          { stored with
            metadata :=
              { stored.metadata with
                deletionTime := some now
                resourceVersion := store.lastVersion + 1 } }
        .ok (.marked, store.write (some stored) next)

end Store

end TenantFleet
