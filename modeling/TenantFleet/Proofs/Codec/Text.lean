import TenantFleet.Proofs.Codec.Contents
import TenantFleet.Proofs.Codec.Scalars

/-!
# Values are read back from their texts

A reader who follows containers to some depth makes of the text of a value that
value, with whatever nests deeper garbled.  So the value itself comes back just
if it does not nest deeper than its reader follows.  This is said of values that
hold no number but integers of 64 bits and nothing garbled.
-/

namespace TenantFleet.Json

mutual

/-- The value as seen by a reader who follows containers to the depth. -/
def truncated (depth : Nat) : Json → Json
  | .array items => if depth = 0 then .garbled else .array (truncatedItems (depth - 1) items)
  | .object entries =>
      if depth = 0 then .garbled else .object (truncatedEntries (depth - 1) entries)
  | .null => .null
  | .bool value => .bool value
  | .integer value => .integer value
  | .real spelling => .real spelling
  | .string value => .string value
  | .garbled => .garbled

def truncatedItems (depth : Nat) : List Json → List Json
  | [] => []
  | item :: rest => truncated depth item :: truncatedItems depth rest

def truncatedEntries (depth : Nat) : List (String × Json) → List (String × Json)
  | [] => []
  | (name, value) :: rest => (name, truncated depth value) :: truncatedEntries depth rest

end

/-! ### Texts of arrays and objects -/

section Texts

variable (item next value : Json) (items : List Json) (name : String) (other : String × Json)
  (entries : List (String × Json))

@[simp]
theorem toList_render_array :
    (render (.array items)).toList = '[' :: ((renderItems items).toList ++ [']']) := by
  simp [render]

@[simp]
theorem toList_render_object :
    (render (.object entries)).toList = '\x7b' :: ((renderEntries entries).toList ++ ['\x7d']) := by
  simp [render]

@[simp]
theorem toList_renderItems_singleton : (renderItems [item]).toList = (render item).toList := rfl

@[simp]
theorem toList_renderItems_cons_cons :
    (renderItems (item :: next :: items)).toList =
      (render item).toList ++ ',' :: (renderItems (next :: items)).toList := by
  simp [renderItems]

@[simp]
theorem toList_renderEntries_singleton :
    (renderEntries [(name, value)]).toList =
      (renderText name).toList ++ ':' :: (render value).toList := by
  simp [renderEntries]

@[simp]
theorem toList_renderEntries_cons_cons :
    (renderEntries ((name, value) :: other :: entries)).toList =
      (renderText name).toList ++
        ':' :: ((render value).toList ++ ',' :: (renderEntries (other :: entries)).toList) := by
  simp [renderEntries]

end Texts

/-! ### One step of the reader -/

variable {fuel depth : Nat} {text rest : List Char}

/-- Whether a number may begin with the character. -/
def beginsNumber (character : Char) : Bool := character == '-' || character.isDigit

/-- What begins a number is no white space and begins nothing else. -/
theorem ne_of_beginsNumber {character other : Char} (begins : beginsNumber character = true)
    (otherMem : other ∈ [' ', '\n', '\t', '\r', 'n', 't', 'f', '"', '[', '\x7b']) :
    character ≠ other := by
  have none : ∀ other ∈ [' ', '\n', '\t', '\r', 'n', 't', 'f', '"', '[', '\x7b'],
      (!beginsNumber other) = true := List.all_eq_true.1 rfl
  rintro rfl
  have fails := none character otherMem
  rw [begins] at fails
  exact Bool.false_ne_true fails

theorem readValue_of_beginsNumber {character : Char} (begins : beginsNumber character = true) :
    readValue (fuel + 1) depth (character :: rest) = readNumber (character :: rest) := by
  have shown : skipSpace (character :: rest) = character :: rest := by
    rw [skipSpace, if_neg]
    intro space
    simp only [Bool.or_eq_true, decide_eq_true_eq, or_assoc] at space
    rcases space with same | same | same | same <;>
      exact ne_of_beginsNumber begins (by simp) same
  rw [readValue, shown]
  split
  case h_7 => rfl
  all_goals
    next same => exact absurd (List.cons.inj same).1 (ne_of_beginsNumber begins (by simp))

/-- No value begins with a closing bracket. -/
theorem readValue_of_bracket (closes : skipSpace text = ']' :: rest) :
    readValue fuel depth text = none := by
  cases fuel with
  | zero => rfl
  | succ fuel =>
      rw [readValue, closes]
      rfl

theorem exists_beginsNumber (value : Int) : ∃ character rest,
    (toString value).toList = character :: rest ∧ beginsNumber character = true := by
  cases value with
  | ofNat size =>
      obtain ⟨digit, digits, front⟩ := List.exists_cons_of_ne_nil (@Nat.toDigits_ne_nil size 10)
      have isDigit : digit.isDigit = true :=
        Nat.isDigit_of_mem_toDigits (by decide) (by decide) (front ▸ List.mem_cons_self)
      refine ⟨digit, digits, Nat.toList_repr.trans front, ?_⟩
      rw [beginsNumber, isDigit, Bool.or_true]
  | negSucc size =>
      refine ⟨'-', Nat.toDigits 10 (size + 1), ?_, rfl⟩
      change ("-" ++ (size + 1).repr).toList = _
      simp

section Steps

variable {items : List Json} {entries : List (String × Json)} {item value : Json}
  {others : List Char}

theorem readItems_last (read : readValue fuel depth text = some (item, ']' :: rest)) :
    readItems (fuel + 1) depth text = some ([item], rest) := by
  simp [readItems, read, skipSpace]

theorem readItems_next (read : readValue fuel depth text = some (item, ',' :: others))
    (further : readItems fuel depth others = some (items, rest)) :
    readItems (fuel + 1) depth text = some (item :: items, rest) := by
  simp [readItems, read, further, skipSpace]

/-- An array is read from its items. -/
theorem readValue_of_readItems (read : readItems fuel (depth - 1) text = some (items, rest)) :
    readValue (fuel + 1) depth ('[' :: text) =
      some (if depth = 0 then .garbled else .array items, rest) := by
  have opens : ∀ further, skipSpace text ≠ ']' :: further := by
    intro further closes
    cases fuel with
    | zero => simp [readItems] at read
    | succ fuel => simp [readItems, readValue_of_bracket closes] at read
  simp [readValue, skipSpace, read]

theorem readEntries_last (name : String)
    (read : readValue fuel depth text = some (value, '\x7d' :: rest)) :
    readEntries (fuel + 1) depth ((renderText name).toList ++ ':' :: text) =
      some (some [(name, value)], rest) := by
  simp [readEntries, renderText, readString_renderText, read, skipSpace]

theorem readEntries_next (name : String)
    (read : readValue fuel depth text = some (value, ',' :: others))
    (further : readEntries fuel depth others = some (some entries, rest)) :
    readEntries (fuel + 1) depth ((renderText name).toList ++ ':' :: text) =
      some (some ((name, value) :: entries), rest) := by
  simp [readEntries, renderText, readString_renderText, read, further, skipSpace]

/-- An object is read from its entries. -/
theorem readValue_of_readEntries
    (read : readEntries fuel (depth - 1) text = some (some entries, rest)) :
    readValue (fuel + 1) depth ('\x7b' :: text) =
      some (if depth = 0 then .garbled else .object entries, rest) := by
  have opens : ∀ further, skipSpace text ≠ '\x7d' :: further := by
    intro further closes
    cases fuel with
    | zero => simp [readEntries] at read
    | succ fuel => simp [readEntries, closes] at read
  simp [readValue, skipSpace, read]

end Steps

theorem endsNumber_of_closing {character : Char} (closing : character ∈ [',', ']', '\x7d']) :
    EndsNumber (character :: rest) := by
  have each : ∀ other ∈ [',', ']', '\x7d'],
      (!(other.isDigit || ['.', 'e', 'E'].contains other)) = true := List.all_eq_true.1 rfl
  intro first isFirst
  obtain rfl := Option.some.inj isFirst
  simpa using each character closing

/-- With this much fuel, the texts of values, items and entries are read back to any depth. -/
structure ReadsBack (fuel : Nat) : Prop where
  value : ∀ json depth rest, json.HoldsOnly IsShort → 2 * (render json).toList.length < fuel →
    EndsNumber rest →
    readValue fuel depth ((render json).toList ++ rest) = some (truncated depth json, rest)
  items : ∀ item items depth rest, ItemsHoldOnly IsShort (item :: items) →
    2 * (renderItems (item :: items)).toList.length + 1 < fuel →
    readItems fuel depth ((renderItems (item :: items)).toList ++ ']' :: rest) =
      some (truncatedItems depth (item :: items), rest)
  entries : ∀ entry entries depth rest, EntriesHoldOnly IsShort (entry :: entries) →
    2 * (renderEntries (entry :: entries)).toList.length + 1 < fuel →
    readEntries fuel depth ((renderEntries (entry :: entries)).toList ++ '\x7d' :: rest) =
      some (some (truncatedEntries depth (entry :: entries)), rest)

namespace ReadsBack

variable (below : ReadsBack fuel)

include below

theorem readValue_render (json : Json) (held : json.HoldsOnly IsShort)
    (enough : 2 * (render json).toList.length < fuel + 1) (ends : EndsNumber rest) :
    readValue (fuel + 1) depth ((render json).toList ++ rest) =
      some (truncated depth json, rest) := by
  cases json with
  | null => simp [render, readValue, skipSpace, truncated]
  | bool value => cases value <;> simp [render, readValue, skipSpace, truncated]
  | integer value =>
      obtain ⟨character, others, front, begins⟩ := exists_beginsNumber value
      have read := readNumber_toString held ends
      rw [front] at read
      rw [render, front, List.cons_append, readValue_of_beginsNumber begins]
      exact read
  | string text =>
      simp [render, renderText, readValue, skipSpace, truncated, readString_renderText]
  | real spelling => exact absurd held id
  | garbled => exact absurd held id
  | array items =>
      cases items with
      | nil => simp [renderItems, readValue, skipSpace, truncated, truncatedItems]
      | cons item items =>
          have shorter : 2 * (renderItems (item :: items)).toList.length + 1 < fuel := by
            simp at enough
            omega
          have read := below.items item items (depth - 1) rest held shorter
          simpa [truncated] using readValue_of_readItems read
  | object entries =>
      cases entries with
      | nil => simp [renderEntries, readValue, skipSpace, truncated, truncatedEntries]
      | cons entry entries =>
          have shorter : 2 * (renderEntries (entry :: entries)).toList.length + 1 < fuel := by
            simp at enough
            omega
          have read := below.entries entry entries (depth - 1) rest held shorter
          simpa [truncated] using readValue_of_readEntries read

theorem readItems_render (item : Json) (items : List Json)
    (held : ItemsHoldOnly IsShort (item :: items))
    (enough : 2 * (renderItems (item :: items)).toList.length + 1 < fuel + 1) :
    readItems (fuel + 1) depth ((renderItems (item :: items)).toList ++ ']' :: rest) =
      some (truncatedItems depth (item :: items), rest) := by
  cases items with
  | nil =>
      have shorter : 2 * (render item).toList.length < fuel := by simp at enough; omega
      have read := below.value item depth (']' :: rest) held.1 shorter
        (endsNumber_of_closing (by simp))
      simpa [truncatedItems] using readItems_last read
  | cons next items =>
      simp only [toList_renderItems_cons_cons, List.length_append, List.length_cons] at enough
      have read := below.value item depth
        (',' :: ((renderItems (next :: items)).toList ++ ']' :: rest)) held.1 (by omega)
        (endsNumber_of_closing (by simp))
      have further := below.items next items depth rest held.2 (by omega)
      simpa [truncatedItems] using readItems_next read further

theorem readEntries_render (entry : String × Json) (entries : List (String × Json))
    (held : EntriesHoldOnly IsShort (entry :: entries))
    (enough : 2 * (renderEntries (entry :: entries)).toList.length + 1 < fuel + 1) :
    readEntries (fuel + 1) depth ((renderEntries (entry :: entries)).toList ++ '\x7d' :: rest) =
      some (some (truncatedEntries depth (entry :: entries)), rest) := by
  obtain ⟨name, value⟩ := entry
  cases entries with
  | nil =>
      simp only [toList_renderEntries_singleton, List.length_append, List.length_cons] at enough
      have read := below.value value depth ('\x7d' :: rest) held.1 (by omega)
        (endsNumber_of_closing (by simp))
      simpa [truncatedEntries] using readEntries_last name read
  | cons next entries =>
      simp only [toList_renderEntries_cons_cons, List.length_append, List.length_cons] at enough
      have read := below.value value depth
        (',' :: ((renderEntries (next :: entries)).toList ++ '\x7d' :: rest)) held.1 (by omega)
        (endsNumber_of_closing (by simp))
      have further := below.entries next entries depth rest held.2 (by omega)
      simpa [truncatedEntries] using readEntries_next name read further

end ReadsBack

theorem readsBack (fuel : Nat) : ReadsBack fuel := by
  induction fuel with
  | zero =>
      exact {
        value := fun _ _ _ _ enough => absurd enough (Nat.not_lt_zero _)
        items := fun _ _ _ _ _ enough => absurd enough (Nat.not_lt_zero _)
        entries := fun _ _ _ _ _ enough => absurd enough (Nat.not_lt_zero _) }
  | succ fuel below =>
      exact {
        value := fun json _ _ => below.readValue_render json
        items := fun item items _ _ => below.readItems_render item items
        entries := fun entry entries _ _ => below.readEntries_render entry entries }

/-- The text of a value is read as the value, up to the depth that the reader follows. -/
theorem readWithin_render {json : Json} (held : json.HoldsOnly IsShort) (depth : Nat) :
    readWithin depth (render json) = some (truncated depth json) := by
  have read := (readsBack (2 * (render json).toList.length + 2)).value json depth [] held
    (by omega) (by simp [EndsNumber])
  rw [List.append_nil] at read
  simp [readWithin, read, skipSpace]

/-! ### Depth -/

mutual

theorem truncated_eq_self_iff (depth : Nat) :
    (json : Json) → (truncated depth json = json ↔ json.nesting ≤ depth)
  | .array items => by
      have inside := truncatedItems_eq_self_iff (depth - 1) items
      by_cases zero : depth = 0
      · simp [truncated, nesting, zero]
      · simp only [truncated, nesting, zero, if_false, array.injEq, inside]
        omega
  | .object entries => by
      have inside := truncatedEntries_eq_self_iff (depth - 1) entries
      by_cases zero : depth = 0
      · simp [truncated, nesting, zero]
      · simp only [truncated, nesting, zero, if_false, object.injEq, inside]
        omega
  | .null | .bool _ | .integer _ | .real _ | .string _ | .garbled => by
      simp [truncated, nesting]

theorem truncatedItems_eq_self_iff (depth : Nat) :
    (items : List Json) → (truncatedItems depth items = items ↔ nestingOfItems items ≤ depth)
  | [] => by simp [truncatedItems, nestingOfItems]
  | item :: rest => by
      simp only [truncatedItems, nestingOfItems, List.cons.injEq, truncated_eq_self_iff depth item,
        truncatedItems_eq_self_iff depth rest, Nat.max_le]

theorem truncatedEntries_eq_self_iff (depth : Nat) : (entries : List (String × Json)) →
    (truncatedEntries depth entries = entries ↔ nestingOfEntries entries ≤ depth)
  | [] => by simp [truncatedEntries, nestingOfEntries]
  | (name, value) :: rest => by
      simp only [truncatedEntries, nestingOfEntries, List.cons.injEq, Prod.mk.injEq, true_and,
        truncated_eq_self_iff depth value, truncatedEntries_eq_self_iff depth rest, Nat.max_le]

end

/-- A value comes back from its text just if its reader follows it to the end. -/
theorem readWithin_render_eq_some_iff {json : Json} (held : json.HoldsOnly IsShort) :
    readWithin depth (render json) = some json ↔ json.nesting ≤ depth := by
  rw [readWithin_render held, Option.some.injEq, truncated_eq_self_iff]

end TenantFleet.Json
