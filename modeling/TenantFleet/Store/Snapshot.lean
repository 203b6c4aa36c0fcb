import TenantFleet.Object.Codec
import TenantFleet.Store.Basic

/-!
# Snapshots of the store

A store as one JSON value, for the time between two runs: the objects of each
kind, the index of labels and the last resource version.  The index is kept as
it is and not made anew from the objects: two labels with NUL characters can
share an entry, and the entry is gone as soon as one of them is.
-/

namespace TenantFleet

namespace Store

def tableToJson (store : Store) (kind : Kind) : Json :=
  .array ((store.list kind).map Object.toJson)

def toJson (store : Store) : Json :=
  .object (Kind.all.map (fun kind => (kind.title, store.tableToJson kind)) ++
    [("labelIndex", .array (store.labelIndex.entries.map .string)),
     ("resourceVersion", .integer store.lastVersion)])

def restoreTable (entries : List (String × Json)) (store : Store) (kind : Kind) :
    Option Store := do
  let objects ← Json.required entries kind.title (Json.list? (Object.ofJson? .plain kind))
  return store.withTable kind (.ofList Object.keyText objects)

/-- The store that a snapshot spells. -/
def ofJson? : Json → Option Store
  | .object entries => do
      let lastVersion ← Json.required entries "resourceVersion" (Json.natural? 64)
      let labels ← Json.required entries "labelIndex" (Json.list? Json.text?)
      let labelIndex := .ofList id labels
      Kind.all.foldlM (restoreTable entries) { labelIndex, lastVersion }
  | _ => none

end Store

end TenantFleet
