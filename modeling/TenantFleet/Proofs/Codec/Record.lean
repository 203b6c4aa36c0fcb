import TenantFleet.Json.Record

/-!
# What is written in a record is found there

The entries of a record are written one after the other, some of them only when
there is something to say, and no name comes twice.  So the reader of the record
finds under each name what was written there, and of each field it reads the
value that was written: in the order of the declarations or not, with or without
the entries that were left out.  The other way round, whatever a reader makes of
a field is its default or comes from some value.
-/

namespace TenantFleet

namespace Table

variable {α : Type} {key : α → String}

/-- Placing an item behind all others puts it at the end. -/
theorem place_of_forall_lt {item : α} {items : List α}
    (last : ∀ other ∈ items, key other < key item) : place key item items = items ++ [item] := by
  induction items with
  | nil => rfl
  | cons next rest ih =>
      have nextBefore : key next < key item := last next (by simp)
      have notBefore : ¬ key item < key next := String.lt_asymm nextBefore
      simp only [place, notBefore, nextBefore, if_true, if_false, List.cons_append]
      rw [ih fun other otherMem => last other (List.mem_cons_of_mem next otherMem)]

/-- A table is made again from its entries. -/
theorem ofList_entries (table : Table key) : ofList key table.entries = table := by
  -- what was placed so far stands in front of what is still to come
  have inserted (items : List α) (start : Table key)
      (ordered : (start.entries ++ items).Pairwise fun first second => key first < key second) :
      (items.foldl insert start).entries = start.entries ++ items := by
    induction items generalizing start with
    | nil => simp
    | cons item rest ih =>
        have last : ∀ other ∈ start.entries, key other < key item := fun other otherMem =>
          (List.pairwise_append.1 ordered).2.2 other otherMem item (by simp)
        have placed : (start.insert item).entries = start.entries ++ [item] :=
          place_of_forall_lt last
        rw [List.foldl_cons, ih (start.insert item) (by simpa [placed] using ordered), placed]
        simp
  apply eq_of_mem_iff
  intro item
  rw [ofList, inserted table.entries empty (by simpa [empty] using table.ordered)]
  simp [empty]

end Table

namespace Json

variable {α : Type} {dialect : Dialect} {entries : List (String × Json)} {name : String}
  {default : α} {decode : Json → Option α} {encode : α → Json}

section Entries

variable (names : List String) (name wanted : String) (value : Option Json)

@[simp]
theorem present_none : present name none = [] := rfl

@[simp]
theorem present_some (value : Json) : present name (some value) = [(name, value)] := rfl

@[simp]
theorem lookup_cons (value : Json) (rest : List (String × Json)) :
    ((name, value) :: rest).lookup wanted =
      if wanted = name then some value else rest.lookup wanted := by
  by_cases same : wanted = name
  · simp [same]
  · have different : (wanted == name) = false := beq_false_of_ne same
    simp [List.lookup_cons, same, different]

@[simp]
theorem lookup_present_append (rest : List (String × Json)) :
    (present name value ++ rest).lookup wanted =
      if wanted = name then value.or (rest.lookup wanted) else rest.lookup wanted := by
  cases value <;> simp [present]

@[simp]
theorem lookup_present :
    (present name value).lookup wanted = if wanted = name then value else none := by
  cases value <;> simp [present]

@[simp]
theorem any_present :
    ((present name value).any fun entry => entry.1 == wanted) =
      (value.isSome && name == wanted) := by
  cases value <;> simp [present]

@[simp]
theorem hasRepeated_nil : hasRepeated names [] = false := rfl

@[simp]
theorem hasRepeated_cons (value : Json) (rest : List (String × Json)) :
    hasRepeated names ((name, value) :: rest) =
      ((names.contains name && rest.any fun entry => entry.1 == name) ||
        hasRepeated names rest) := rfl

@[simp]
theorem hasRepeated_present : hasRepeated names (present name value) = false := by
  cases value <;> simp [present]

@[simp]
theorem hasRepeated_present_append (rest : List (String × Json)) :
    hasRepeated names (present name value ++ rest) =
      ((value.isSome && names.contains name && rest.any fun entry => entry.1 == name) ||
        hasRepeated names rest) := by
  cases value <;> simp [present]

/-- A text that is left out when it is empty is an entry like the others. -/
@[simp]
theorem presentText_eq_present (text : String) :
    presentText name text =
      present name (if text = "" then none else some (.string text)) := by
  unfold presentText
  split <;> rfl

/-- Texts under names that are left out when there are none are an entry like the others. -/
@[simp]
theorem ofTexts_eq_present (texts : Table (α := String × String) Prod.fst) :
    (if texts.isEmpty then [] else [(name, ofTexts texts)]) =
      present name (if texts.isEmpty then none else some (ofTexts texts)) := by
  split <;> rfl

variable {name} {before after : List (String × Json)}

/-- An entry is found by its name wherever it was put, if none before it bears the name. -/
theorem lookup_insert (value : Json) (unnamed : ∀ entry ∈ before, entry.1 ≠ name) :
    (before ++ (name, value) :: after).lookup name = some value := by
  induction before with
  | nil => simp
  | cons entry rest ih =>
      obtain ⟨other, _⟩ := entry
      obtain ⟨different, others⟩ := List.forall_mem_cons.1 unnamed
      have apart : name ≠ other := Ne.symm different
      simp [apart, ih others]

theorem hasRepeated_eq_false (unnamed : ∀ entry ∈ after, entry.1 ≠ name) :
    hasRepeated [name] after = false := by
  induction after with
  | nil => rfl
  | cons entry rest ih =>
      obtain ⟨other, _⟩ := entry
      obtain ⟨different, others⟩ := List.forall_mem_cons.1 unnamed
      have apart : other ≠ name := different
      simp [apart, ih others]

theorem hasRepeated_insert (value : Json) (unnamed : ∀ entry ∈ before ++ after, entry.1 ≠ name) :
    hasRepeated [name] (before ++ (name, value) :: after) = false := by
  induction before with
  | nil =>
      have absent : after.any (fun entry => entry.1 == name) = false := by simpa using unnamed
      simpa [absent] using hasRepeated_eq_false unnamed
  | cons entry rest ih =>
      obtain ⟨other, _⟩ := entry
      obtain ⟨different, others⟩ := List.forall_mem_cons.1 unnamed
      have apart : other ≠ name := different
      simp [apart, ih others]

theorem filter_insert (value : Json) (unnamed : ∀ entry ∈ before ++ after, entry.1 ≠ name) :
    (before ++ (name, value) :: after).filter (fun entry => entry.1 ≠ name) = before ++ after := by
  rw [List.filter_append, List.filter_cons_of_neg (by simp), ← List.filter_append]
  exact List.filter_eq_self.2 (by simpa using unnamed)

end Entries

section Fields

/-- What is made of an optional field by what is found of it. -/
def readOptional (decode : Json → Option α) : Option Json → Option (Option α)
  | none => some none
  | some .null => some none
  | some value => (decode value).map some

/-- What is made of a field with a default by what is found of it. -/
def readDefaulted (default : α) (decode : Json → Option α) : Option Json → Option α
  | none => some default
  | some value => decode value

@[simp]
theorem optional_eq_readOptional :
    optional entries name decode = readOptional decode (entries.lookup name) := rfl

@[simp]
theorem defaulted_eq_readDefaulted :
    defaulted entries name default decode =
      readDefaulted default decode (entries.lookup name) := rfl

@[simp]
theorem readDefaulted_some (value : Json) :
    readDefaulted default decode (some value) = decode value := rfl

/-- An optional field whose value is never written as null is read back. -/
theorem readOptional_map {value : Option α} (solid : ∀ item, encode item ≠ .null)
    (readBack : ∀ item ∈ value, decode (encode item) = some item) :
    readOptional decode (value.map encode) = some value := by
  cases value with
  | none => rfl
  | some item =>
      have read := readBack item rfl
      have notNull := solid item
      rw [Option.map_some]
      cases written : encode item <;> simp_all [readOptional]

variable {property : α → Prop}

/-- A required field has every property that its decoder guarantees. -/
theorem of_required {value : α}
    (decoded : ∀ {json item}, decode json = some item → property item)
    (read : required entries name decode = some value) : property value := by
  obtain ⟨json, -, fromJson⟩ := Option.bind_eq_some_iff.1 read
  exact decoded fromJson

/-- A field with a default has every property that its default has and its decoder guarantees. -/
theorem of_defaulted {value : α} (ofDefault : property default)
    (decoded : ∀ {json item}, decode json = some item → property item)
    (read : defaulted entries name default decode = some value) : property value := by
  unfold defaulted at read
  split at read
  next => exact Option.some.inj read ▸ ofDefault
  next => exact decoded read

/-- What an optional field holds has every property that its decoder guarantees. -/
theorem of_optional {value : Option α}
    (decoded : ∀ {json item}, decode json = some item → property item)
    (read : optional entries name decode = some value) : ∀ item ∈ value, property item := by
  intro item itemMem
  unfold optional at read
  split at read
  next => simp_all
  next => simp_all
  next json _ _ =>
    obtain ⟨decodedItem, fromJson, rfl⟩ := Option.map_eq_some_iff.1 read
    obtain rfl := Option.some.inj itemMem
    exact decoded fromJson

end Fields

section Scalars

/-- Whether a signed field of 64 bits holds the number. -/
def FitsSigned (value : Int) : Prop :=
  -(Int.pow 2 63) ≤ value ∧ value < Int.pow 2 63

/-- Whether an unsigned field of 64 bits holds the number. -/
def FitsNatural (value : Nat) : Prop :=
  value < Int.pow 2 64

instance (value : Int) : Decidable (FitsSigned value) :=
  inferInstanceAs (Decidable (_ ∧ _))

instance (value : Nat) : Decidable (FitsNatural value) :=
  inferInstanceAs (Decidable (_ < _))

@[simp]
theorem text?_string (text : String) : text? (.string text) = some text := rfl

/-- A text that is left out when it is empty is read back. -/
@[simp]
theorem readDefaulted_text (text : String) :
    readDefaulted "" text? (if text = "" then none else some (.string text)) = some text := by
  split <;> simp_all [readDefaulted]

@[simp]
theorem readOptional_text (text : Option String) :
    readOptional text? (text.map .string) = some text :=
  readOptional_map (by simp) fun _ _ => rfl

@[simp]
theorem flag?_bool (flag : Bool) : flag? (.bool flag) = some flag := rfl

@[simp]
theorem unit?_null : unit? dialect .null = some () := rfl

theorem signed?_eq_some_iff {json : Json} {value : Int} :
    signed? json = some value ↔ json = .integer value ∧ FitsSigned value := by
  cases json <;> simp [signed?, FitsSigned]
  omega

theorem natural?_eq_some_iff {json : Json} {value : Nat} :
    natural? 64 json = some value ↔ json = .integer value ∧ FitsNatural value := by
  cases json <;> simp [natural?, FitsNatural]
  omega

theorem fitsSigned_of_signed? {json : Json} {value : Int} (read : signed? json = some value) :
    FitsSigned value :=
  (signed?_eq_some_iff.1 read).2

theorem fitsNatural_of_natural? {json : Json} {value : Nat}
    (read : natural? 64 json = some value) : FitsNatural value :=
  (natural?_eq_some_iff.1 read).2

@[simp]
theorem signed?_integer {value : Int} (fits : FitsSigned value) :
    signed? (.integer value) = some value :=
  signed?_eq_some_iff.2 ⟨rfl, fits⟩

@[simp]
theorem natural?_integer {value : Nat} (fits : FitsNatural value) :
    natural? 64 (.integer value) = some value :=
  natural?_eq_some_iff.2 ⟨rfl, fits⟩

end Scalars

section Lists

theorem mapM_map_eq_some {β : Type} {encode : α → β} {decode : β → Option α} {items : List α}
    (readBack : ∀ item ∈ items, decode (encode item) = some item) :
    (items.map encode).mapM decode = some items := by
  induction items with
  | nil => rfl
  | cons item rest ih =>
      have rest := ih fun other otherMem => readBack other (List.mem_cons_of_mem item otherMem)
      simp [readBack item (by simp), rest]

theorem list?_map {items : List α}
    (readBack : ∀ item ∈ items, decode (encode item) = some item) :
    list? decode (.array (items.map encode)) = some items :=
  mapM_map_eq_some readBack

@[simp]
theorem list?_text (texts : List String) :
    list? text? (.array (texts.map .string)) = some texts :=
  list?_map fun _ _ => rfl

/-- The items of a list have every property that their decoder guarantees. -/
theorem of_list? {property : α → Prop} {json : Json} {items : List α}
    (decoded : ∀ {json item}, decode json = some item → property item)
    (read : list? decode json = some items) : ∀ item ∈ items, property item := by
  cases json <;> simp only [list?, reduceCtorEq] at read
  next values =>
    induction values generalizing items with
    | nil => simp_all
    | cons value rest ih =>
        simp only [List.mapM_cons, Option.bind_eq_bind, Option.bind_eq_some_iff, Option.pure_def,
          Option.some.injEq] at read
        obtain ⟨first, firstRead, others, othersRead, rfl⟩ := read
        simp only [List.mem_cons, forall_eq_or_imp]
        exact ⟨decoded firstRead, ih othersRead⟩

@[simp]
theorem texts?_ofTexts (texts : Table (α := String × String) Prod.fst) :
    texts? (ofTexts texts) = some texts := by
  have pairs : (texts.entries.map fun entry => (entry.1, Json.string entry.2)).mapM
      (fun entry => do return (entry.1, ← text? entry.2)) = some texts.entries :=
    mapM_map_eq_some fun _ _ => rfl
  unfold texts? ofTexts
  dsimp only
  rw [pairs, Option.bind_eq_bind, Option.bind_some, Table.ofList_entries, Option.pure_def]

/-- Texts under names that are left out when there are none are read back. -/
@[simp]
theorem readDefaulted_texts (texts : Table (α := String × String) Prod.fst) :
    readDefaulted .empty texts? (if texts.isEmpty then none else some (ofTexts texts)) =
      some texts := by
  split
  next isEmpty =>
    have noEntries : texts.entries = [] := by simpa [Table.isEmpty] using isEmpty
    exact congrArg some (Table.eq_of_mem_iff (by simp [noEntries, Table.empty]))
  next => exact texts?_ofTexts texts

end Lists

end Json

end TenantFleet
