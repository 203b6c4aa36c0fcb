import TenantFleet.Proofs.Codec.Record

/-!
# What a value holds and how deep it nests

Two things decide whether a value survives that it is written and read: what its
numbers and its other leaves are like, and how many containers it nests.  Both
are worked out here for lists of items and of entries, in the forms in which
records are written.
-/

namespace TenantFleet.Json

mutual

/-- Whether nothing in the value is garbled and all numbers in it are integers that are allowed. -/
def HoldsOnly (allowed : Int → Prop) : Json → Prop
  | .integer value => allowed value
  | .real _ | .garbled => False
  | .array items => ItemsHoldOnly allowed items
  | .object entries => EntriesHoldOnly allowed entries
  | .null | .bool _ | .string _ => True

def ItemsHoldOnly (allowed : Int → Prop) : List Json → Prop
  | [] => True
  | item :: rest => HoldsOnly allowed item ∧ ItemsHoldOnly allowed rest

def EntriesHoldOnly (allowed : Int → Prop) : List (String × Json) → Prop
  | [] => True
  | (_, value) :: rest => HoldsOnly allowed value ∧ EntriesHoldOnly allowed rest

end

section Holding

variable {allowed : Int → Prop} (name : String) (entries others : List (String × Json))

@[simp]
theorem holdsOnly_null : null.HoldsOnly allowed := trivial

@[simp]
theorem holdsOnly_bool (flag : Bool) : (bool flag).HoldsOnly allowed := trivial

@[simp]
theorem holdsOnly_string (text : String) : (string text).HoldsOnly allowed := trivial

@[simp]
theorem holdsOnly_integer (value : Int) : (integer value).HoldsOnly allowed ↔ allowed value :=
  Iff.rfl

@[simp]
theorem holdsOnly_array (items : List Json) :
    (array items).HoldsOnly allowed ↔ ∀ item ∈ items, item.HoldsOnly allowed := by
  change ItemsHoldOnly allowed items ↔ _
  induction items with
  | nil => simp [ItemsHoldOnly]
  | cons item rest ih => simp [ItemsHoldOnly, ih]

@[simp]
theorem holdsOnly_object : (object entries).HoldsOnly allowed ↔ EntriesHoldOnly allowed entries :=
  Iff.rfl

@[simp]
theorem entriesHoldOnly_nil : EntriesHoldOnly allowed [] := trivial

@[simp]
theorem entriesHoldOnly_cons (value : Json) :
    EntriesHoldOnly allowed ((name, value) :: entries) ↔
      value.HoldsOnly allowed ∧ EntriesHoldOnly allowed entries := Iff.rfl

@[simp]
theorem entriesHoldOnly_append :
    EntriesHoldOnly allowed (entries ++ others) ↔
      EntriesHoldOnly allowed entries ∧ EntriesHoldOnly allowed others := by
  induction entries with
  | nil => simp
  | cons entry rest ih =>
      obtain ⟨name, value⟩ := entry
      simp [ih, and_assoc]

@[simp]
theorem entriesHoldOnly_present (value : Option Json) :
    EntriesHoldOnly allowed (present name value) ↔ ∀ json ∈ value, json.HoldsOnly allowed := by
  cases value <;> simp [present]

@[simp]
theorem holdsOnly_ofTexts (texts : Table (α := String × String) Prod.fst) :
    (ofTexts texts).HoldsOnly allowed := by
  unfold ofTexts
  induction texts.entries with
  | nil => trivial
  | cons entry rest ih => exact ⟨trivial, ih⟩

end Holding

section Soundness

variable (name : String) (value : Json) (entries others : List (String × Json))

@[simp]
theorem isSound_string (text : String) : (string text).isSound = true := rfl

@[simp]
theorem isSound_object : (object entries).isSound = entriesAreSound entries := rfl

@[simp]
theorem entriesAreSound_cons :
    entriesAreSound ((name, value) :: entries) = (value.isSound && entriesAreSound entries) := rfl

@[simp]
theorem entriesAreSound_append :
    entriesAreSound (entries ++ others) = (entriesAreSound entries && entriesAreSound others) := by
  induction entries with
  | nil => rfl
  | cons entry rest ih =>
      obtain ⟨name, value⟩ := entry
      simp [ih, Bool.and_assoc]

end Soundness

mutual

/-- A value with nothing garbled in it is sound. -/
theorem HoldsOnly.isSound {allowed : Int → Prop} :
    {json : Json} → json.HoldsOnly allowed → json.isSound = true
  | .array _, held => ItemsHoldOnly.areSound held
  | .object _, held => EntriesHoldOnly.areSound held
  | .null, _ | .bool _, _ | .integer _, _ | .string _, _ => rfl

theorem ItemsHoldOnly.areSound {allowed : Int → Prop} :
    {items : List Json} → ItemsHoldOnly allowed items → Json.areSound items = true
  | [], _ => rfl
  | _ :: _, held =>
      Bool.and_eq_true_iff.2 ⟨HoldsOnly.isSound held.1, ItemsHoldOnly.areSound held.2⟩

theorem EntriesHoldOnly.areSound {allowed : Int → Prop} :
    {entries : List (String × Json)} → EntriesHoldOnly allowed entries →
      entriesAreSound entries = true
  | [], _ => rfl
  | (_, _) :: _, held =>
      Bool.and_eq_true_iff.2 ⟨HoldsOnly.isSound held.1, EntriesHoldOnly.areSound held.2⟩

end

section Nesting

variable {depth : Nat} (name : String) (entries others : List (String × Json))

@[simp]
theorem nesting_null : null.nesting = 0 := rfl

@[simp]
theorem nesting_bool (flag : Bool) : (bool flag).nesting = 0 := rfl

@[simp]
theorem nesting_string (text : String) : (string text).nesting = 0 := rfl

@[simp]
theorem nesting_integer (value : Int) : (integer value).nesting = 0 := rfl

theorem nesting_array (items : List Json) : (array items).nesting = nestingOfItems items + 1 := rfl

theorem nesting_object : (object entries).nesting = nestingOfEntries entries + 1 := rfl

@[simp]
theorem nestingOfEntries_nil : nestingOfEntries [] = 0 := rfl

theorem nestingOfEntries_cons (value : Json) :
    nestingOfEntries ((name, value) :: entries) = max value.nesting (nestingOfEntries entries) :=
  rfl

theorem nesting_object_singleton (value : Json) :
    (object [(name, value)]).nesting = value.nesting + 1 := by
  rw [nesting_object, nestingOfEntries_cons, nestingOfEntries_nil, Nat.max_zero]

theorem nestingOfItems_le_iff {items : List Json} :
    nestingOfItems items ≤ depth ↔ ∀ item ∈ items, item.nesting ≤ depth := by
  induction items with
  | nil => simp [nestingOfItems]
  | cons item rest ih => rw [nestingOfItems, Nat.max_le, ih, List.forall_mem_cons]

@[simp]
theorem nesting_array_le_iff {items : List Json} :
    (array items).nesting ≤ depth + 1 ↔ ∀ item ∈ items, item.nesting ≤ depth :=
  Nat.succ_le_succ_iff.trans nestingOfItems_le_iff

@[simp]
theorem nesting_object_le_iff :
    (object entries).nesting ≤ depth + 1 ↔ nestingOfEntries entries ≤ depth :=
  Nat.succ_le_succ_iff

@[simp]
theorem nestingOfEntries_cons_le_iff (value : Json) :
    nestingOfEntries ((name, value) :: entries) ≤ depth ↔
      value.nesting ≤ depth ∧ nestingOfEntries entries ≤ depth :=
  Nat.max_le

@[simp]
theorem nestingOfEntries_append_le_iff :
    nestingOfEntries (entries ++ others) ≤ depth ↔
      nestingOfEntries entries ≤ depth ∧ nestingOfEntries others ≤ depth := by
  induction entries with
  | nil => simp
  | cons entry rest ih =>
      obtain ⟨name, value⟩ := entry
      simp [ih, and_assoc]

@[simp]
theorem nestingOfEntries_present_le_iff (value : Option Json) :
    nestingOfEntries (present name value) ≤ depth ↔ ∀ json ∈ value, json.nesting ≤ depth := by
  cases value <;> simp [present]

@[simp]
theorem nesting_ofTexts (texts : Table (α := String × String) Prod.fst) :
    (ofTexts texts).nesting = 1 := by
  have flat (pairs : List (String × String)) :
      nestingOfEntries (pairs.map fun pair => (pair.1, .string pair.2)) = 0 := by
    induction pairs with
    | nil => rfl
    | cons pair rest ih => rw [List.map_cons, nestingOfEntries_cons, ih, nesting_string, Nat.max_self]
  rw [ofTexts, nesting_object, flat]

end Nesting

end TenantFleet.Json
