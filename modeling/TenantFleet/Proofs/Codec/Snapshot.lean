import TenantFleet.Proofs.Codec.Legibility
import TenantFleet.Store.Snapshot

/-!
# A store that was saved is opened again

A snapshot is read without a limit to its depth, since no text nests more
containers than it has characters.  So unlike a single object of the store,
which may be illegible, the store as a whole comes back as it was.
-/

namespace TenantFleet

open Json

namespace Json

mutual

theorem nesting_le_length : (json : Json) → json.nesting ≤ (render json).toList.length
  | .array items => by
      have inside := nestingOfItems_le_length items
      simp only [nesting_array, toList_render_array, List.length_cons, List.length_append]
      omega
  | .object entries => by
      have inside := nestingOfEntries_le_length entries
      simp only [nesting_object, toList_render_object, List.length_cons, List.length_append]
      omega
  | .null | .bool _ | .integer _ | .real _ | .string _ | .garbled => Nat.zero_le _

theorem nestingOfItems_le_length :
    (items : List Json) → nestingOfItems items ≤ (renderItems items).toList.length
  | [] => Nat.zero_le _
  | [item] => by
      have inside := nesting_le_length item
      simpa [nestingOfItems] using inside
  | item :: next :: rest => by
      have first := nesting_le_length item
      have others := nestingOfItems_le_length (next :: rest)
      rw [nestingOfItems, toList_renderItems_cons_cons, List.length_append, List.length_cons]
      omega

theorem nestingOfEntries_le_length : (entries : List (String × Json)) →
    nestingOfEntries entries ≤ (renderEntries entries).toList.length
  | [] => Nat.zero_le _
  | [(name, value)] => by
      have inside := nesting_le_length value
      simp only [nestingOfEntries_cons, nestingOfEntries_nil, toList_renderEntries_singleton,
        List.length_append, List.length_cons]
      omega
  | (name, value) :: next :: rest => by
      have first := nesting_le_length value
      have others := nestingOfEntries_le_length (next :: rest)
      rw [nestingOfEntries_cons, toList_renderEntries_cons_cons, List.length_append,
        List.length_cons, List.length_append, List.length_cons]
      omega

end

end Json

namespace Store

variable {store : Store}

/-- The numbers in the store fit into 64 bits. -/
structure Fits (store : Store) : Prop where
  objects : ∀ kind, ∀ object ∈ store.list kind, object.Fits
  lastVersion : FitsNatural store.lastVersion

theorem Fits.holdsOnly (fits : store.Fits) : store.toJson.HoldsOnly IsShort := by
  have tables (kind : Kind) : (store.tableToJson kind).HoldsOnly IsShort := by
    rw [tableToJson, holdsOnly_array]
    intro json jsonMem
    obtain ⟨object, objectMem, rfl⟩ := List.mem_map.1 jsonMem
    exact (fits.objects kind object objectMem).holdsOnly
  have version := isShort_of_fitsNatural fits.lastVersion
  simp [toJson, Kind.all, tables, version]

/-- The entries of a snapshot. -/
def entries (store : Store) : List (String × Json) :=
  Kind.all.map (fun kind => (kind.title, store.tableToJson kind)) ++
    [("labelIndex", .array (store.labelIndex.entries.map .string)),
     ("resourceVersion", .integer store.lastVersion)]

theorem restoreTable_entries (fits : store.Fits) (begun : Store) (kind : Kind) :
    restoreTable store.entries begun kind = some (begun.withTable kind (store.table kind)) := by
  have found : store.entries.lookup kind.title = some (store.tableToJson kind) := by
    cases kind <;> simp [entries, Kind.all, Kind.title]
  have objects : list? (Object.ofJson? .plain kind) (store.tableToJson kind) =
      some (store.list kind) :=
    list?_map fun object objectMem => Object.ofJson?_toJson (fits.objects kind object objectMem)
  have table : Table.ofList Object.keyText (store.list kind) = store.table kind :=
    Table.ofList_entries (store.table kind)
  simp [restoreTable, required, found, objects, table]

theorem ofJson?_toJson (fits : store.Fits) : ofJson? store.toJson = some store := by
  have version : required store.entries "resourceVersion" (natural? 64) =
      some store.lastVersion := by
    have found : store.entries.lookup "resourceVersion" = some (.integer store.lastVersion) := by
      simp [entries, Kind.all, Kind.title]
    rw [required, found, Option.bind_some, natural?_integer fits.lastVersion]
  have labels : required store.entries "labelIndex" (list? text?) =
      some store.labelIndex.entries := by
    simp [required, entries, Kind.all, Kind.title]
  change ofJson? (.object store.entries) = some store
  simp only [ofJson?, version, labels, Kind.all, List.foldlM_cons, List.foldlM_nil,
    restoreTable_entries fits, Table.ofList_entries, Option.bind_eq_bind, Option.bind_some,
    Option.pure_def]
  rfl

/-- What was saved of a store is read as the store. -/
theorem readWithin_render_toJson (fits : store.Fits) :
    let text := store.toJson.render
    (readWithin text.length text).bind ofJson? = some store := by
  intro text
  have followed : store.toJson.nesting ≤ text.length := nesting_le_length store.toJson
  rw [(readWithin_render_eq_some_iff fits.holdsOnly).2 followed, Option.bind_some,
    ofJson?_toJson fits]

end Store

end TenantFleet
