import TenantFleet.Object.Basic

/-!
# The store

The store holds a table of objects for each kind, an index of their labels, and
the counter of resource versions.  The index has one entry for each label of
each object; an entry joins the kind, the label, its value and the key of the
object with NUL characters, and all entries stand in one order, so the objects
with a label are read off by a scan of the entries that begin alike.
-/

namespace TenantFleet

abbrev ObjectTable (kind : Kind) := Table (α := Object kind) Object.keyText

/-- The stored objects, the index of their labels, and the last resource version issued. -/
structure Store where
  tenantSpaces : ObjectTable .tenantSpace := .empty
  targets : ObjectTable .target := .empty
  deployments : ObjectTable .deployment := .empty
  instances : ObjectTable .tenantInstance := .empty
  registrations : ObjectTable .registration := .empty
  schedulings : ObjectTable .scheduling := .empty
  labelIndex : Table (α := String) id := .empty
  lastVersion : Nat := 0
deriving DecidableEq, Inhabited

namespace Store

def table (store : Store) : (kind : Kind) → ObjectTable kind
  | .tenantSpace => store.tenantSpaces
  | .target => store.targets
  | .deployment => store.deployments
  | .tenantInstance => store.instances
  | .registration => store.registrations
  | .scheduling => store.schedulings

def withTable (store : Store) : (kind : Kind) → ObjectTable kind → Store
  | .tenantSpace, objects => { store with tenantSpaces := objects }
  | .target, objects => { store with targets := objects }
  | .deployment, objects => { store with deployments := objects }
  | .tenantInstance, objects => { store with instances := objects }
  | .registration, objects => { store with registrations := objects }
  | .scheduling, objects => { store with schedulings := objects }

@[simp]
theorem table_withTable (store : Store) (kind : Kind) (objects : ObjectTable kind) :
    (store.withTable kind objects).table kind = objects := by
  cases kind <;> rfl

@[simp]
theorem labelIndex_withTable (store : Store) (kind : Kind) (objects : ObjectTable kind) :
    (store.withTable kind objects).labelIndex = store.labelIndex := by
  cases kind <;> rfl

@[simp]
theorem lastVersion_withTable (store : Store) (kind : Kind) (objects : ObjectTable kind) :
    (store.withTable kind objects).lastVersion = store.lastVersion := by
  cases kind <;> rfl

def find? (store : Store) (kind : Kind) (key : ObjectKey) : Option (Object kind) :=
  (store.table kind).find? key.text

/-- The objects of a kind in the order of their keys. -/
def list (store : Store) (kind : Kind) : List (Object kind) :=
  (store.table kind).entries

/-- The objects of a kind in a namespace in the order of their keys. -/
def listIn (store : Store) (kind : Kind) (scope : String) : List (Object kind) :=
  (store.table kind).scan (scope ++ "/")

def indexStem (kind : Kind) (label value : String) : String :=
  kind.title ++ "\x00" ++ label ++ "\x00" ++ value ++ "\x00"

def indexEntries {kind : Kind} (object : Object kind) : List String :=
  object.metadata.labels.entries.map fun (label, value) =>
    indexStem kind label value ++ object.keyText

/-- The objects of a kind that the index has under a label and its value. -/
def labelled (store : Store) (kind : Kind) (label value : String) : List (Object kind) :=
  let stem := indexStem kind label value
  (store.labelIndex.scan stem).filterMap fun entry =>
    (store.table kind).find? (String.ofList (entry.toList.drop stem.toList.length))

end Store

end TenantFleet
