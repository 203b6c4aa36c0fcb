import TenantFleet.Json.MergePatch
import TenantFleet.Proofs.Codec.RoundTrip

/-!
# Edits by merge patches

A patch says of each entry that it names what becomes of it, and leaves the
others; made twice, it has no further effect.  This holds of patches in which
no object has two entries of one name, as is so of every value in which the last
of several entries stands for all of them.  An edit of an object by such a patch
leaves the parts of the object that it does not name.
-/

namespace TenantFleet

namespace Json

variable {name : String} {entries changes : List (String × Json)}

/-! ### Repeated entries -/

theorem any_name_iff :
    entries.any (fun entry => entry.1 == name) = true ↔ name ∈ entries.map Prod.fst := by
  simp

theorem lookup_eq_none_iff_name : entries.lookup name = none ↔ name ∉ entries.map Prod.fst := by
  induction entries with
  | nil => simp
  | cons entry rest ih =>
      obtain ⟨other, value⟩ := entry
      by_cases same : name = other
      · simp [same]
      · simpa [same] using ih

theorem lookup_of_mem (once : (entries.map Prod.fst).Nodup) {entry : String × Json}
    (entryMem : entry ∈ entries) : entries.lookup entry.1 = some entry.2 := by
  induction entries with
  | nil => contradiction
  | cons first rest ih =>
      obtain ⟨name, value⟩ := first
      obtain ⟨absent, further⟩ := List.nodup_cons.1 once
      rcases List.mem_cons.1 entryMem with rfl | inRest
      · simp
      · have present : entry.1 ∈ rest.map Prod.fst := List.mem_map_of_mem inRest
        have different : entry.1 ≠ name := fun same => absent (same ▸ present)
        rw [lookup_cons, if_neg different, ih further inRest]

/-- Of several entries of one name, the last is found. -/
theorem lookup_lastEntries (name : String) (entries : List (String × Json)) :
    (lastEntries entries).lookup name = entries.reverse.lookup name := by
  induction entries with
  | nil => rfl
  | cons entry rest ih =>
      obtain ⟨other, value⟩ := entry
      rw [List.reverse_cons, List.lookup_append, lastEntries, ← ih]
      by_cases same : name = other
      · subst same
        split
        next later =>
          have found : (lastEntries rest).lookup name ≠ none := by
            rw [ih, Ne, lookup_eq_none_iff_name, List.map_reverse, List.mem_reverse]
            exact fun absent => absent (any_name_iff.1 later)
          rw [Option.or_of_isSome (Option.isSome_iff_ne_none.2 found)]
        next absent =>
          have notFound : (lastEntries rest).lookup name = none := by
            rw [ih, lookup_eq_none_iff_name, List.map_reverse, List.mem_reverse]
            exact mt any_name_iff.2 absent
          simp [notFound]
      · split <;> simp [same]

theorem mem_of_mem_lastEntries {entry : String × Json} (entryMem : entry ∈ lastEntries entries) :
    entry ∈ entries := by
  induction entries with
  | nil => exact entryMem
  | cons first rest ih =>
      obtain ⟨other, value⟩ := first
      unfold lastEntries at entryMem
      split at entryMem
      · exact List.mem_cons_of_mem _ (ih entryMem)
      · rcases List.mem_cons.1 entryMem with rfl | inRest
        · exact List.mem_cons_self
        · exact List.mem_cons_of_mem _ (ih inRest)

theorem nodup_lastEntries (entries : List (String × Json)) :
    ((lastEntries entries).map Prod.fst).Nodup := by
  induction entries with
  | nil => exact List.nodup_nil
  | cons entry rest ih =>
      obtain ⟨name, value⟩ := entry
      unfold lastEntries
      split
      next => exact ih
      next absent =>
        refine List.nodup_cons.2 ⟨fun nameMem => absent (any_name_iff.2 ?_), ih⟩
        obtain ⟨entry, entryMem, rfl⟩ := List.mem_map.1 nameMem
        exact List.mem_map_of_mem (mem_of_mem_lastEntries entryMem)

theorem lastEntries_of_nodup (once : (entries.map Prod.fst).Nodup) :
    lastEntries entries = entries := by
  induction entries with
  | nil => rfl
  | cons entry rest ih =>
      obtain ⟨name, value⟩ := entry
      obtain ⟨absent, further⟩ := List.nodup_cons.1 once
      rw [lastEntries, if_neg (mt any_name_iff.1 absent), ih further]

/-- Entries of different names make a record, whatever its fields. -/
theorem hasRepeated_of_nodup (names : List String) (once : (entries.map Prod.fst).Nodup) :
    hasRepeated names entries = false := by
  induction entries with
  | nil => rfl
  | cons entry rest ih =>
      obtain ⟨name, value⟩ := entry
      obtain ⟨absent, further⟩ := List.nodup_cons.1 once
      rw [hasRepeated_cons, Bool.eq_false_iff.2 (mt any_name_iff.1 absent), ih further,
        Bool.and_false, Bool.false_or]

mutual

/-- Whether no object in the value has two entries of one name. -/
def NamesOnce : Json → Prop
  | .array items => ItemsNameOnce items
  | .object entries => (entries.map Prod.fst).Nodup ∧ EntriesNameOnce entries
  | .null | .bool _ | .integer _ | .real _ | .string _ | .garbled => True

def ItemsNameOnce : List Json → Prop
  | [] => True
  | item :: rest => NamesOnce item ∧ ItemsNameOnce rest

def EntriesNameOnce : List (String × Json) → Prop
  | [] => True
  | (_, value) :: rest => NamesOnce value ∧ EntriesNameOnce rest

end

theorem entriesNameOnce_iff :
    EntriesNameOnce entries ↔ ∀ entry ∈ entries, entry.2.NamesOnce := by
  induction entries with
  | nil => simp [EntriesNameOnce]
  | cons entry rest ih => simp [EntriesNameOnce, ih]

mutual

/-- With the last entry in place of those of its name, no object names one twice. -/
theorem namesOnce_collapsed : (json : Json) → (collapsed json).NamesOnce
  | .array items => itemsNameOnce_collapsedItems items
  | .object entries => by
      refine ⟨nodup_lastEntries _, entriesNameOnce_iff.2 fun entry entryMem => ?_⟩
      exact entriesNameOnce_iff.1 (entriesNameOnce_collapsedEntries entries) entry
        (mem_of_mem_lastEntries entryMem)
  | .null | .bool _ | .integer _ | .real _ | .string _ | .garbled => trivial

theorem itemsNameOnce_collapsedItems : (items : List Json) → ItemsNameOnce (collapsedItems items)
  | [] => trivial
  | item :: rest => ⟨namesOnce_collapsed item, itemsNameOnce_collapsedItems rest⟩

theorem entriesNameOnce_collapsedEntries :
    (entries : List (String × Json)) → EntriesNameOnce (collapsedEntries entries)
  | [] => trivial
  | (_, value) :: rest => ⟨namesOnce_collapsed value, entriesNameOnce_collapsedEntries rest⟩

end

mutual

theorem collapsed_of_namesOnce : (json : Json) → json.NamesOnce → collapsed json = json
  | .array items, once => congrArg array (collapsedItems_of_namesOnce items once)
  | .object entries, once => by
      rw [collapsed, collapsedEntries_of_namesOnce entries once.2, lastEntries_of_nodup once.1]
  | .null, _ | .bool _, _ | .integer _, _ | .real _, _ | .string _, _ | .garbled, _ => rfl

theorem collapsedItems_of_namesOnce :
    (items : List Json) → ItemsNameOnce items → collapsedItems items = items
  | [], _ => rfl
  | item :: rest, once => by
      rw [collapsedItems, collapsed_of_namesOnce item once.1,
        collapsedItems_of_namesOnce rest once.2]

theorem collapsedEntries_of_namesOnce :
    (entries : List (String × Json)) → EntriesNameOnce entries →
      collapsedEntries entries = entries
  | [], _ => rfl
  | (name, value) :: rest, once => by
      rw [collapsedEntries, collapsed_of_namesOnce value once.1,
        collapsedEntries_of_namesOnce rest once.2]

end

/-- Once a value was rid of repeated entries, no reader of a record refuses it for them. -/
theorem record?_collapsed (dialect : Dialect) (names : List String)
    (entries : List (String × Json)) :
    record? dialect names (collapsed (.object entries)) =
      some (lastEntries (collapsedEntries entries)) := by
  rw [collapsed, record?, hasRepeated_of_nodup names (nodup_lastEntries _)]
  rfl

theorem collapsed_collapsed (json : Json) : collapsed (collapsed json) = collapsed json :=
  collapsed_of_namesOnce (collapsed json) (namesOnce_collapsed json)

/-! ### Patches -/

/-- What becomes of an entry by what a patch says of it. -/
def patched? (current : Option Json) : Option Json → Option Json
  | none => current
  | some .null => none
  | some change => some (merge (current.getD .null) change)

@[simp]
theorem patched?_none (current : Option Json) : patched? current none = current := rfl

theorem lookup_setEntry (name wanted : String) (value : Json) (entries : List (String × Json)) :
    (setEntry name value entries).lookup wanted =
      if wanted = name then some value else entries.lookup wanted := by
  induction entries with
  | nil => simp [setEntry]
  | cons entry rest ih =>
      obtain ⟨other, current⟩ := entry
      unfold setEntry
      by_cases same : other = name
      · by_cases isWanted : wanted = name <;> simp [same, isWanted]
      · rw [if_neg same, lookup_cons, lookup_cons, ih]
        by_cases isWanted : wanted = name
        · subst isWanted
          simp [Ne.symm same]
        · simp [isWanted]

/-- To set what is there changes nothing. -/
theorem setEntry_of_lookup {value : Json} (found : entries.lookup name = some value) :
    setEntry name value entries = entries := by
  induction entries with
  | nil => contradiction
  | cons entry rest ih =>
      obtain ⟨other, current⟩ := entry
      rw [lookup_cons] at found
      unfold setEntry
      by_cases same : other = name
      · simp_all
      · rw [if_neg (Ne.symm same)] at found
        rw [if_neg same, ih found]

theorem lookup_filter_name (name wanted : String) (entries : List (String × Json)) :
    (entries.filter fun entry => entry.1 != name).lookup wanted =
      if wanted = name then none else entries.lookup wanted := by
  induction entries with
  | nil => simp
  | cons entry rest ih =>
      obtain ⟨other, current⟩ := entry
      by_cases same : other = name
      · rw [List.filter_cons_of_neg (by simpa using same), ih, lookup_cons]
        by_cases isWanted : wanted = name <;> simp [same, isWanted]
      · rw [List.filter_cons_of_pos (by simpa using same), lookup_cons, lookup_cons, ih]
        by_cases isWanted : wanted = name
        · subst isWanted
          simp [Ne.symm same]
        · simp [isWanted]

/-- The entries after the first change of a patch. -/
theorem mergeEntries_cons (change : Json) (rest : List (String × Json)) :
    mergeEntries entries ((name, change) :: rest) =
      mergeEntries
        (match patched? (entries.lookup name) (some change) with
          | none => entries.filter fun entry => entry.1 != name
          | some value => setEntry name value entries) rest := by
  cases change <;> rfl

/-- A patch says of each entry that it names what becomes of it, and leaves the others. -/
theorem lookup_mergeEntries (once : (changes.map Prod.fst).Nodup) (wanted : String)
    (entries : List (String × Json)) :
    (mergeEntries entries changes).lookup wanted =
      patched? (entries.lookup wanted) (changes.lookup wanted) := by
  induction changes generalizing entries with
  | nil => rfl
  | cons change rest ih =>
      obtain ⟨name, change⟩ := change
      obtain ⟨absent, further⟩ := List.nodup_cons.1 once
      rw [mergeEntries_cons, ih further, lookup_cons]
      by_cases isWanted : wanted = name
      · subst isWanted
        have notLater : rest.lookup wanted = none := lookup_eq_none_iff_name.2 absent
        rw [notLater, patched?_none, if_pos rfl]
        cases patched? (entries.lookup wanted) (some change) with
        | none => simp [lookup_filter_name]
        | some value => simp [lookup_setEntry]
      · cases patched? (entries.lookup name) (some change) with
        | none => simp [isWanted, lookup_filter_name]
        | some value => simp [isWanted, lookup_setEntry]

/-- A patch that says nothing new changes nothing. -/
theorem mergeEntries_eq_self
    (settled : ∀ change ∈ changes,
      patched? (entries.lookup change.1) (some change.2) = entries.lookup change.1) :
    mergeEntries entries changes = entries := by
  induction changes with
  | nil => rfl
  | cons change rest ih =>
      obtain ⟨name, change⟩ := change
      obtain ⟨isSettled, others⟩ := List.forall_mem_cons.1 settled
      rw [mergeEntries_cons, isSettled]
      cases found : entries.lookup name with
      | none =>
          have unnamed : entries.filter (fun entry => entry.1 != name) = entries := by
            refine List.filter_eq_self.2 fun entry entryMem => ?_
            have absent := lookup_eq_none_iff_name.1 found
            exact bne_iff_ne.2 fun same => absent (same ▸ List.mem_map_of_mem entryMem)
          dsimp only
          rw [unnamed, ih others]
      | some value =>
          dsimp only
          rw [setEntry_of_lookup found, ih others]

mutual

/-- A patch that was made has no further effect. -/
theorem merge_merge : (patch : Json) → patch.NamesOnce → ∀ target,
    merge (merge target patch) patch = merge target patch
  | .object changes, once, target => by
      change object (mergeEntries (mergeEntries (entriesOf target) changes) changes) =
        object (mergeEntries (entriesOf target) changes)
      rw [mergeEntries_eq_self]
      intro change changeMem
      rw [lookup_mergeEntries once.1, lookup_of_mem once.1 changeMem]
      exact patched?_patched? changes once.2 change changeMem _
  | .null, _, _ | .bool _, _, _ | .integer _, _, _ | .real _, _, _ | .string _, _, _
  | .array _, _, _ | .garbled, _, _ => rfl

theorem patched?_patched? : (changes : List (String × Json)) → EntriesNameOnce changes →
    ∀ change ∈ changes, ∀ current,
      patched? (patched? current (some change.2)) (some change.2) = patched? current (some change.2)
  | [], _, _, changeMem, _ => absurd changeMem List.not_mem_nil
  | (name, change) :: rest, once, other, otherMem, current => by
      rcases List.mem_cons.1 otherMem with rfl | inRest
      · have again := merge_merge change once.1 (current.getD .null)
        cases change with
        | null => rfl
        | _ => exact congrArg some again
      · exact patched?_patched? rest once.2 other inRest current

end

end Json

/-! ### Edits of objects -/

namespace Object

variable {kind : Kind} {object edited : Object kind} {changes : List (String × Json)}

/-- The object that comes of an edit by a patch with these changes. -/
def edited? (object : Object kind) (changes : List (String × Json)) : Option (Object kind) :=
  Object.ofJson? .plain kind (Json.merge object.toJson (.object changes))

/-- An edit leaves the parts of the object that its patch does not name. -/
theorem edit_keeps (fits : object.Fits) (once : (changes.map Prod.fst).Nodup)
    (isEdited : object.edited? changes = some edited) :
    (changes.lookup "metadata" = none → edited.metadata = object.metadata) ∧
      (changes.lookup "spec" = none → edited.spec = object.spec) ∧
        (changes.lookup "status" = none → edited.status = object.status) := by
  -- a part that the patch does not name stands in the edited record as it was written
  have kept (name : String) (unnamed : changes.lookup name = none) :
      (Json.mergeEntries (Json.entriesOf object.toJson) changes).lookup name =
        (Json.entriesOf object.toJson).lookup name := by
    rw [Json.lookup_mergeEntries once, unnamed, Json.patched?_none]
  simp only [edited?, Json.merge, Object.ofJson?, Json.record?, Option.bind_eq_bind,
    Option.bind_eq_some_iff, Option.ite_none_left_eq_some, Option.some.injEq,
    Option.pure_def] at isEdited
  obtain ⟨_, ⟨-, rfl⟩, metadata, readMetadata, spec, readSpec, status, readStatus, rfl⟩ := isEdited
  refine ⟨fun unnamed => ?metadata, fun unnamed => ?spec, fun unnamed => ?status⟩
  case metadata =>
    rw [Json.required, kept "metadata" unnamed] at readMetadata
    exact Option.some.inj (readMetadata.symm.trans (Metadata.ofJson?_toJson fits.metadata))
  case spec =>
    exact Option.some.inj (readSpec.symm.trans
      (Kind.specOf?_of_lookup fits.spec (kept "spec" unnamed)))
  case status =>
    exact Option.some.inj (readStatus.symm.trans
      (Kind.statusOf?_of_lookup fits.status (kept "status" unnamed)))

end Object

end TenantFleet
