import TenantFleet.Json.Basic

/-!
# Merge patches

A merge patch describes a change of a JSON value by its outcome: an object is
merged entry by entry, a null entry removes what is there, and anything else
takes the place of the value.  Values that are patched, and patches, are taken
with the last of several entries of one name in place of all of them.
-/

namespace TenantFleet.Json

/-! ### Repeated entries -/

/-- The entries without those whose name occurs again later, so that the last one stands. -/
def lastEntries : List (String × Json) → List (String × Json)
  | [] => []
  | (name, value) :: rest =>
      if rest.any (fun entry => entry.1 == name) then
        lastEntries rest
      else
        (name, value) :: lastEntries rest

mutual

/-- The value with the last of several entries of one name in place of all of them. -/
def collapsed : Json → Json
  | .array items => .array (collapsedItems items)
  | .object entries => .object (lastEntries (collapsedEntries entries))
  | .null => .null
  | .bool value => .bool value
  | .integer value => .integer value
  | .real spelling => .real spelling
  | .string value => .string value
  | .garbled => .garbled

def collapsedItems : List Json → List Json
  | [] => []
  | item :: rest => collapsed item :: collapsedItems rest

def collapsedEntries : List (String × Json) → List (String × Json)
  | [] => []
  | (name, value) :: rest => (name, collapsed value) :: collapsedEntries rest

end

/-! ### Patches -/

/-- The entries with `value` under `name`, in place of the entry of that name or at the end. -/
def setEntry (name : String) (value : Json) : List (String × Json) → List (String × Json)
  | [] => [(name, value)]
  | (other, current) :: rest =>
      if other = name then
        (name, value) :: rest
      else
        (other, current) :: setEntry name value rest

/-- The entries of an object; other values have none. -/
def entriesOf : Json → List (String × Json)
  | .object entries => entries
  | _ => []

mutual

/-- The value `target` changed as `patch` says. -/
def merge (target : Json) : (patch : Json) → Json
  | .object changes => .object (mergeEntries (entriesOf target) changes)
  | .null => .null
  | .bool value => .bool value
  | .integer value => .integer value
  | .real spelling => .real spelling
  | .string value => .string value
  | .array items => .array items
  | .garbled => .garbled

/-- The entries of an object changed as the entries of a patch say, one after the other. -/
def mergeEntries (entries : List (String × Json)) : List (String × Json) → List (String × Json)
  | [] => entries
  | (name, .null) :: rest => mergeEntries (entries.filter fun entry => entry.1 != name) rest
  | (name, change) :: rest =>
      let current := (entries.lookup name).getD .null
      mergeEntries (setEntry name (merge current change) entries) rest

end

end TenantFleet.Json
