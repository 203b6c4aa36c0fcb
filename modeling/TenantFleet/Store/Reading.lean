import TenantFleet.Object.Codec
import TenantFleet.Store.Basic

/-!
# Reading from the store

The store keeps its objects as JSON text, and its reader follows containers to
a certain depth.  An object that nests deeper is written all the same, and every
attempt to read it back fails.  Only the selectors of scheduling rules nest
without bound, so an object of any other kind can always be read, and `find?`
is what a reader of it gets.
-/

namespace TenantFleet

/-- Why the store refuses what it is asked for. -/
inductive StoreError where
  /-- There is no such object. -/
  | notFound (kind : Kind) (key : ObjectKey)
  /-- There is such an object. -/
  | alreadyExists (kind : Kind) (key : ObjectKey)
  /-- Every name drawn for the object was taken. -/
  | namesTaken (kind : Kind) (scope generateName : String)
  /-- The object has changed since its writer saw it. -/
  | conflict (kind : Kind) (key : ObjectKey) (expected found : Nat)
  /-- The object has no name, nor the start of one. -/
  | unnamed (kind : Kind) (scope : String)
  /-- The object is there, and its text cannot be read back. -/
  | illegible
deriving DecidableEq, Repr

namespace StoreError

def message : StoreError → String
  | .notFound kind key => kind.title ++ " " ++ key.text ++ " not found"
  | .alreadyExists kind key => kind.title ++ " " ++ key.text ++ " already exists"
  | .namesTaken kind scope generateName =>
      kind.title ++ " " ++ scope ++ "/" ++ generateName ++ "* already exists"
  | .conflict kind key expected found =>
      "conflict writing " ++ kind.title ++ " " ++ key.text ++ ": expected resource version " ++
        toString expected ++ ", found " ++ toString found
  | .unnamed kind scope =>
      "invalid object " ++ kind.title ++ " " ++ scope ++ "/: name or generateName is required"
  | .illegible => "deserialization error: recursion limit exceeded"

/-- Whether there is no such object. -/
def isAbsence : StoreError → Bool
  | .notFound _ _ => true
  | _ => false

def isTaken : StoreError → Bool
  | .alreadyExists _ _ | .namesTaken _ _ _ => true
  | _ => false

/-- Whether another writer came first. -/
def isConflict : StoreError → Bool
  | .conflict _ _ _ _ => true
  | _ => false

end StoreError

namespace Object

variable {kind : Kind}

/-- Whether the text of the object can be read back. -/
def isLegible : {kind : Kind} → Object kind → Bool
  | .scheduling, scheduling =>
      (SchedulingSpec.toJson scheduling.spec).nesting < Json.nestingLimit
  | .tenantSpace, _ | .target, _ | .deployment, _ | .tenantInstance, _ | .registration, _ => true

@[simp]
theorem isLegible_of_ne (object : Object kind) (other : kind ≠ .scheduling) :
    object.isLegible = true := by
  cases kind with
  | scheduling => exact absurd rfl other
  | tenantSpace | target | deployment | tenantInstance | registration => rfl

end Object

namespace Store

variable {kind : Kind}

def read (store : Store) (kind : Kind) (key : ObjectKey) :
    Except StoreError (Option (Object kind)) :=
  match store.find? kind key with
  | none => .ok none
  | some stored => if stored.isLegible then .ok (some stored) else .error .illegible

/-- The objects, read back from their texts; one that cannot be read fails the others. -/
def readAll (objects : List (Object kind)) : Except StoreError (List (Object kind)) :=
  if objects.all Object.isLegible then .ok objects else .error .illegible

variable {store : Store} {key : ObjectKey} {object : Object kind}

theorem read_eq_some_iff : store.read kind key = .ok (some object) ↔
    store.find? kind key = some object ∧ object.isLegible = true := by
  unfold read
  cases store.find? kind key with
  | none => simp
  | some stored =>
      by_cases legible : stored.isLegible = true
      · simp only [legible, if_true, Except.ok.injEq, Option.some.injEq]
        exact ⟨fun same => ⟨same, same ▸ legible⟩, And.left⟩
      · simp only [legible, Bool.false_eq_true, if_false, reduceCtorEq, Option.some.injEq,
          false_iff]
        rintro ⟨rfl, isLegible⟩
        exact legible isLegible

theorem read_eq_none_iff : store.read kind key = .ok none ↔ store.find? kind key = none := by
  unfold read
  cases store.find? kind key with
  | none => simp
  | some stored => by_cases legible : stored.isLegible = true <;> simp [legible]

theorem read_eq_error_iff {error : StoreError} : store.read kind key = .error error ↔
    error = .illegible ∧
      ∃ object, store.find? kind key = some object ∧ object.isLegible = false := by
  unfold read
  cases store.find? kind key with
  | none => simp
  | some stored =>
      by_cases legible : stored.isLegible = true
      · simp [legible]
      · simp only [legible, Bool.false_eq_true, if_false, Except.error.injEq, Option.some.injEq,
          exists_eq_left']
        exact ⟨fun same => ⟨same.symm, trivial⟩, fun same => same.1.symm⟩

theorem readAll_eq_ok_iff {objects all : List (Object kind)} :
    readAll objects = .ok all ↔ all = objects ∧ ∀ object ∈ objects, object.isLegible = true := by
  rw [readAll, ← List.all_eq_true]
  cases objects.all Object.isLegible <;> simp [eq_comm]

theorem readAll_eq_error_iff {objects : List (Object kind)} {error : StoreError} :
    readAll objects = .error error ↔
      error = .illegible ∧ ∃ object ∈ objects, object.isLegible = false := by
  have failed : (∃ object ∈ objects, object.isLegible = false) ↔
      objects.all Object.isLegible = false := by
    simp [List.all_eq_false]
  rw [readAll, failed]
  cases objects.all Object.isLegible <;> simp [eq_comm]

theorem find?_of_read {found : Option (Object kind)} (isRead : store.read kind key = .ok found) :
    store.find? kind key = found := by
  cases found with
  | none => exact read_eq_none_iff.1 isRead
  | some object => exact (read_eq_some_iff.1 isRead).1

/-- Objects of every kind but one can always be read. -/
theorem read_of_ne (store : Store) (key : ObjectKey) (other : kind ≠ .scheduling) :
    store.read kind key = .ok (store.find? kind key) := by
  cases isStored : store.find? kind key with
  | none => exact read_eq_none_iff.2 isStored
  | some stored => exact read_eq_some_iff.2 ⟨isStored, stored.isLegible_of_ne other⟩

end Store

end TenantFleet
