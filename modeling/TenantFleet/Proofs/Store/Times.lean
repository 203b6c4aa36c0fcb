import TenantFleet.Proofs.Store.Outcome

/-!
# Stores without their times

Times enter a stored object in three places: its creation, its deletion and the
record of its last failure.  Erasing them commutes with writes and removals, so
work that is done once more at another time leaves the same store but for the
times.
-/

namespace TenantFleet

namespace Table

variable {α : Type} {key : α → String} {change : α → α}

/-- The table with every item changed by a function that keeps the keys. -/
def map (table : Table key) (change : α → α) (keepsKey : ∀ item, key (change item) = key item) :
    Table key where
  entries := table.entries.map change
  ordered := List.pairwise_map.2 (by simpa only [keepsKey] using table.ordered)

theorem map_place (keepsKey : ∀ item, key (change item) = key item) (item : α) (items : List α) :
    (place key item items).map change = place key (change item) (items.map change) := by
  induction items with
  | nil => rfl
  | cons next rest ih =>
      simp only [place, List.map_cons, keepsKey]
      split
      · rfl
      · split
        · rw [List.map_cons, ih]
        · rfl

theorem map_insert (table : Table key) (keepsKey : ∀ item, key (change item) = key item)
    (item : α) :
    (table.insert item).map change keepsKey = (table.map change keepsKey).insert (change item) := by
  have sameEntries := map_place keepsKey item table.entries
  simp only [map, insert, sameEntries]

theorem map_erase (table : Table key) (keepsKey : ∀ item, key (change item) = key item)
    (name : String) :
    (table.erase name).map change keepsKey = (table.map change keepsKey).erase name := by
  have sameEntries : (table.entries.filter fun item => key item != name).map change =
      (table.entries.map change).filter fun item => key item != name := by
    rw [List.filter_map]
    refine congrArg (List.map change) (List.filter_congr fun item _ => ?_)
    rw [Function.comp_apply, keepsKey]
  simp only [map, erase, sameEntries]

end Table

def FailureRecord.timeless (record : FailureRecord) : FailureRecord :=
  { record with lastTransitionTime := 0, lastUpdateTime := 0 }

/-- The status without the times of the last failure. -/
def Kind.timelessStatus : (kind : Kind) → kind.Status → kind.Status
  | .deployment, status =>
      { status with lastError := DeploymentStatus.lastError status |>.map FailureRecord.timeless }
  | .tenantInstance, status =>
      { status with lastError := InstanceStatus.lastError status |>.map FailureRecord.timeless }
  | .registration, status =>
      { status with lastError := RegistrationStatus.lastError status |>.map FailureRecord.timeless }
  | .tenantSpace, status | .target, status | .scheduling, status => status

variable {kind : Kind}

/-- The object without its times; whether it is marked stays. -/
def Object.timeless (object : Object kind) : Object kind where
  metadata :=
    { object.metadata with
      creationTime := 0
      deletionTime := object.metadata.deletionTime.map fun _ => 0 }
  spec := object.spec
  status := kind.timelessStatus object.status

namespace Store

variable {store : Store}

/-- The store without the times of its objects. -/
def timeless (store : Store) : Store where
  tenantSpaces := store.tenantSpaces.map Object.timeless fun _ => rfl
  targets := store.targets.map Object.timeless fun _ => rfl
  deployments := store.deployments.map Object.timeless fun _ => rfl
  instances := store.instances.map Object.timeless fun _ => rfl
  registrations := store.registrations.map Object.timeless fun _ => rfl
  schedulings := store.schedulings.map Object.timeless fun _ => rfl
  labelIndex := store.labelIndex
  lastVersion := store.lastVersion

theorem lastVersion_eq_of_timeless_eq {first second : Store}
    (same : first.timeless = second.timeless) : first.lastVersion = second.lastVersion := by
  change first.timeless.lastVersion = second.timeless.lastVersion
  rw [same]

theorem table_timeless (store : Store) (kind : Kind) :
    store.timeless.table kind = (store.table kind).map Object.timeless fun _ => rfl := by
  cases kind <;> rfl

theorem list_timeless (store : Store) (kind : Kind) :
    store.timeless.list kind = (store.list kind).map Object.timeless := by
  rw [list, table_timeless]
  rfl

theorem ext_table {first second : Store} (tables : ∀ kind, first.table kind = second.table kind)
    (index : first.labelIndex = second.labelIndex)
    (version : first.lastVersion = second.lastVersion) : first = second := by
  obtain ⟨spaces, targets, deployments, instances, registrations, schedulings, _, _⟩ := first
  obtain rfl : spaces = _ := tables .tenantSpace
  obtain rfl : targets = _ := tables .target
  obtain rfl : deployments = _ := tables .deployment
  obtain rfl : instances = _ := tables .tenantInstance
  obtain rfl : registrations = _ := tables .registration
  obtain rfl : schedulings = _ := tables .scheduling
  obtain rfl := index
  obtain rfl := version
  rfl

theorem timeless_write (store : Store) (previous : Option (Object kind)) (next : Object kind) :
    (store.write previous next).timeless =
      store.timeless.write (previous.map Object.timeless) next.timeless := by
  refine ext_table (fun read => ?_) ?_ rfl
  · rw [table_timeless]
    by_cases sameKind : read = kind
    · subst sameKind
      rw [table_write, table_write, table_timeless]
      exact Table.map_insert _ _ next
    · rw [table_write_of_ne store previous next sameKind,
        table_write_of_ne store.timeless _ _ sameKind, table_timeless]
  · cases previous <;> rfl

theorem timeless_remove (store : Store) (current : Object kind) :
    (store.remove current).timeless = store.timeless.remove current.timeless := by
  refine ext_table (fun read => ?_) rfl ?_
  · rw [table_timeless]
    by_cases sameKind : read = kind
    · subst sameKind
      rw [table_remove, table_remove, table_timeless]
      exact Table.map_erase _ _ current.keyText
    · rw [table_remove_of_ne store current sameKind,
        table_remove_of_ne store.timeless _ sameKind, table_timeless]
  · rw [lastVersion_remove]
    exact lastVersion_remove store current

end Store

end TenantFleet
