/-!
# Tables in key order

A table holds items in strictly increasing order of a text key, so every key
occurs once and two tables with the same items are the same table.  Text is
ordered by its UTF-8 bytes, which is the order of `String`.  The main
statements say how lookup sees insertion and removal, that lookups determine the
table, and that a scan from a text on finds all keys that begin with it.
-/

namespace TenantFleet

/-- Whether `text` begins with `stem`. -/
def beginsWith (stem text : String) : Bool :=
  stem.toList.isPrefixOf text.toList

theorem beginsWith_iff {stem text : String} :
    beginsWith stem text = true ↔ ∃ rest, text = stem ++ rest := by
  rw [beginsWith, List.isPrefixOf_iff_prefix]
  constructor
  · rintro ⟨rest, whole⟩
    exact ⟨String.ofList rest, String.toList_inj.1 (by simp [← whole])⟩
  · rintro ⟨rest, rfl⟩
    exact ⟨rest.toList, by simp⟩

private theorem not_append_lt (stem rest : List Char) : ¬ stem ++ rest < stem := by
  induction stem with
  | nil => exact List.not_lt_nil rest
  | cons character stem ih =>
      intro before
      rcases List.cons_lt_cons_iff.1 before with smaller | ⟨-, behind⟩
      · exact Char.lt_irrefl character smaller
      · exact ih behind

private theorem isPrefix_of_lt_append {stem first rest : List Char} (notBefore : ¬ first < stem)
    (before : first < stem ++ rest) : stem <+: first := by
  induction stem generalizing first with
  | nil => exact List.nil_prefix
  | cons character stem ih =>
      cases first with
      | nil => exact absurd (List.nil_lt_cons character stem) notBefore
      | cons other others =>
          rw [List.cons_lt_cons_iff, not_or] at notBefore
          rcases List.cons_lt_cons_iff.1 before with smaller | ⟨rfl, behind⟩
          · exact absurd smaller notBefore.1
          · have further := ih (fun less => notBefore.2 ⟨rfl, less⟩) behind
            exact List.cons_prefix_cons.2 ⟨rfl, further⟩

/-- No text stands before one that it begins with. -/
theorem not_lt_of_beginsWith {stem text : String} (begins : beginsWith stem text = true) :
    ¬ text < stem := by
  obtain ⟨rest, rfl⟩ := beginsWith_iff.1 begins
  change ¬ (stem ++ rest).toList < stem.toList
  rw [String.toList_append]
  exact not_append_lt stem.toList rest.toList

/-- From a text on, what stands before one that begins with it begins with it too. -/
theorem beginsWith_of_lt {stem first second : String} (notBefore : ¬ first < stem)
    (before : first < second) (begins : beginsWith stem second = true) :
    beginsWith stem first = true := by
  obtain ⟨rest, rfl⟩ := beginsWith_iff.1 begins
  change first.toList < (stem ++ rest).toList at before
  rw [String.toList_append] at before
  exact List.isPrefixOf_iff_prefix.2 (isPrefix_of_lt_append notBefore before)

variable {α : Type}

/-- Items in strictly increasing order of `key`. -/
structure Table {α : Type} (key : α → String) where
  entries : List α
  ordered : entries.Pairwise (fun first second => key first < key second)

namespace Table

variable {key : α → String}

/-- Put `item` in its place among `items`, in the stead of the item with its key, if any. -/
def place (key : α → String) (item : α) : List α → List α
  | [] => [item]
  | next :: rest =>
      if key item < key next then
        item :: next :: rest
      else if key next < key item then
        next :: place key item rest
      else
        item :: rest

theorem mem_of_mem_place {item member : α} {items : List α}
    (memberMem : member ∈ place key item items) : member = item ∨ member ∈ items := by
  induction items with
  | nil => simpa [place] using memberMem
  | cons next rest ih =>
      unfold place at memberMem
      split at memberMem
      · simpa using memberMem
      · split at memberMem
        · rcases List.mem_cons.1 memberMem with equal | inRest
          · exact .inr (by simp [equal])
          · exact (ih inRest).imp_right (List.mem_cons_of_mem next)
        · exact (List.mem_cons.1 memberMem).imp_right (List.mem_cons_of_mem next)

theorem place_ordered {item : α} {items : List α}
    (ordered : items.Pairwise (fun first second => key first < key second)) :
    (place key item items).Pairwise (fun first second => key first < key second) := by
  induction items with
  | nil => simp [place]
  | cons next rest ih =>
      have nextFirst : ∀ {other : α}, other ∈ rest → key next < key other :=
        fun otherMem => List.rel_of_pairwise_cons ordered otherMem
      have restOrdered := ordered.tail
      unfold place
      split
      next itemBefore =>
        refine List.pairwise_cons.2 ⟨fun member memberMem => ?_, ordered⟩
        rcases List.mem_cons.1 memberMem with equal | inRest
        · exact equal ▸ itemBefore
        · exact String.lt_trans itemBefore (nextFirst inRest)
      next itemNotBefore =>
        split
        next nextBefore =>
          refine List.pairwise_cons.2 ⟨fun member memberMem => ?_, ih restOrdered⟩
          rcases mem_of_mem_place memberMem with equal | inRest
          · exact equal ▸ nextBefore
          · exact nextFirst inRest
        next nextNotBefore =>
          have sameKey : key item = key next :=
            String.le_antisymm (String.not_lt.1 nextNotBefore) (String.not_lt.1 itemNotBefore)
          exact List.pairwise_cons.2
            ⟨fun member memberMem => sameKey ▸ nextFirst memberMem, restOrdered⟩

/-- The table without items. -/
def empty : Table key := ⟨[], .nil⟩

instance : Inhabited (Table key) := ⟨empty⟩

instance [DecidableEq α] : DecidableEq (Table key) := fun first second =>
  decidable_of_iff (first.entries = second.entries) (by
    cases first; cases second; simp)

/-- The item under `name`, if the table has one. -/
def find? (table : Table key) (name : String) : Option α :=
  table.entries.find? (fun item => key item == name)

/-- Whether the table has an item under `name`. -/
def contains (table : Table key) (name : String) : Bool :=
  (table.find? name).isSome

/-- The table with `item` under its key, in the stead of the item that was there. -/
def insert (table : Table key) (item : α) : Table key :=
  ⟨place key item table.entries, place_ordered table.ordered⟩

/-- The table without the item under `name`. -/
def erase (table : Table key) (name : String) : Table key :=
  ⟨table.entries.filter (fun item => key item != name),
    table.ordered.sublist List.filter_sublist⟩

/-- The table of `items`, where a later item takes the place of an earlier one with its key. -/
def ofList (key : α → String) (items : List α) : Table key :=
  items.foldl insert empty

def isEmpty (table : Table key) : Bool :=
  table.entries.isEmpty

/-- The items that a walk from `stem` on comes to before the first whose key does not begin with
it. -/
def scan (table : Table key) (stem : String) : List α :=
  (table.entries.dropWhile fun item => key item < stem).takeWhile fun item =>
    beginsWith stem (key item)

theorem key_injective_on_entries (table : Table key) {first second : α}
    (firstMem : first ∈ table.entries) (secondMem : second ∈ table.entries)
    (sameKey : key first = key second) : first = second := by
  obtain ⟨entries, ordered⟩ := table
  induction entries with
  | nil => simp at firstMem
  | cons next rest ih =>
      have nextFirst : ∀ {other : α}, other ∈ rest → key next < key other :=
        fun otherMem => List.rel_of_pairwise_cons ordered otherMem
      rcases List.mem_cons.1 firstMem with firstEq | firstIn <;>
        rcases List.mem_cons.1 secondMem with secondEq | secondIn
      · exact firstEq.trans secondEq.symm
      · have before := nextFirst secondIn
        rw [← firstEq, sameKey] at before
        exact absurd before (String.lt_irrefl _)
      · have before := nextFirst firstIn
        rw [← secondEq, sameKey] at before
        exact absurd before (String.lt_irrefl _)
      · exact ih ordered.tail firstIn secondIn

theorem find?_eq_some_iff {table : Table key} {name : String} {item : α} :
    table.find? name = some item ↔ item ∈ table.entries ∧ key item = name := by
  constructor
  · intro found
    exact ⟨List.mem_of_find?_eq_some found, by simpa using List.find?_some found⟩
  · rintro ⟨itemMem, itemKey⟩
    cases found : table.find? name with
    | none =>
        have absent := List.find?_eq_none.1 found item itemMem
        simp [itemKey] at absent
    | some other =>
        have otherMem := List.mem_of_find?_eq_some found
        have otherKey : key other = name := by simpa using List.find?_some found
        rw [table.key_injective_on_entries otherMem itemMem (otherKey.trans itemKey.symm)]

theorem find?_eq_none_iff {table : Table key} {name : String} :
    table.find? name = none ↔ ∀ item ∈ table.entries, key item ≠ name := by
  simp [find?]

private theorem takeWhile_beginsWith {stem : String} {items : List α}
    (ordered : items.Pairwise (fun first second => key first < key second))
    (reached : ∀ item ∈ items, ¬ key item < stem) :
    items.takeWhile (fun item => beginsWith stem (key item)) =
      items.filter fun item => beginsWith stem (key item) := by
  induction items with
  | nil => rfl
  | cons next rest ih =>
      cases begins : beginsWith stem (key next) with
      | true =>
          simp only [List.takeWhile_cons, List.filter_cons, begins, if_true]
          rw [ih ordered.tail fun item itemMem => reached item (List.mem_cons_of_mem next itemMem)]
      | false =>
          have noneBegins : ∀ item ∈ next :: rest, ¬ beginsWith stem (key item) = true := by
            intro item itemMem itemBegins
            rcases List.mem_cons.1 itemMem with rfl | inRest
            · rw [begins] at itemBegins
              contradiction
            · have nextBegins := beginsWith_of_lt (reached next List.mem_cons_self)
                (List.rel_of_pairwise_cons ordered inRest) itemBegins
              rw [begins] at nextBegins
              contradiction
          rw [List.filter_eq_nil_iff.2 noneBegins, List.takeWhile_cons, begins]
          rfl

/-- A scan comes to all items whose keys begin with the text, although it leaves off at the first
one that does not: in the order of the keys they stand together. -/
theorem scan_eq_filter (table : Table key) (stem : String) :
    table.scan stem = table.entries.filter fun item => beginsWith stem (key item) := by
  obtain ⟨entries, ordered⟩ := table
  unfold scan
  induction entries with
  | nil => rfl
  | cons next rest ih =>
      by_cases before : key next < stem
      · have unlike : beginsWith stem (key next) = false :=
          Bool.eq_false_iff.2 fun begins => not_lt_of_beginsWith begins before
        rw [List.dropWhile_cons_of_pos (by simpa using before), ih ordered.tail]
        simp [unlike]
      · rw [List.dropWhile_cons_of_neg (by simpa using before)]
        refine takeWhile_beginsWith ordered fun item itemMem less => ?_
        rcases List.mem_cons.1 itemMem with rfl | inRest
        · exact before less
        · exact before (String.lt_trans (List.rel_of_pairwise_cons ordered inRest) less)

theorem mem_scan {table : Table key} {stem : String} {item : α} :
    item ∈ table.scan stem ↔ item ∈ table.entries ∧ beginsWith stem (key item) = true := by
  rw [scan_eq_filter, List.mem_filter]

theorem scan_ordered (table : Table key) (stem : String) :
    (table.scan stem).Pairwise fun first second => key first < key second := by
  rw [scan_eq_filter]
  exact table.ordered.sublist List.filter_sublist

theorem mem_place_iff {item member : α} {items : List α}
    (ordered : items.Pairwise (fun first second => key first < key second)) :
    member ∈ place key item items ↔
      member = item ∨ (member ∈ items ∧ key member ≠ key item) := by
  induction items with
  | nil => simp [place]
  | cons next rest ih =>
      have nextFirst : ∀ {other : α}, other ∈ rest → key next < key other :=
        fun otherMem => List.rel_of_pairwise_cons ordered otherMem
      unfold place
      split
      next itemBefore =>
        have distinct : ∀ other ∈ next :: rest, key other ≠ key item := by
          intro other otherMem sameKey
          rcases List.mem_cons.1 otherMem with equal | inRest
          · rw [← equal, sameKey] at itemBefore
            exact String.lt_irrefl _ itemBefore
          · have before := String.lt_trans itemBefore (nextFirst inRest)
            rw [sameKey] at before
            exact String.lt_irrefl _ before
        constructor
        · intro memberMem
          rcases List.mem_cons.1 memberMem with equal | inItems
          · exact .inl equal
          · exact .inr ⟨inItems, distinct member inItems⟩
        · rintro (equal | ⟨inItems, _⟩)
          · simp [equal]
          · exact List.mem_cons_of_mem item inItems
      next itemNotBefore =>
        split
        next nextBefore =>
          have nextDistinct : key next ≠ key item := by
            intro sameKey
            rw [sameKey] at nextBefore
            exact String.lt_irrefl _ nextBefore
          rw [List.mem_cons, List.mem_cons, ih ordered.tail]
          constructor
          · rintro (equal | equal | ⟨inRest, distinct⟩)
            · exact .inr ⟨.inl equal, equal ▸ nextDistinct⟩
            · exact .inl equal
            · exact .inr ⟨.inr inRest, distinct⟩
          · rintro (equal | ⟨equal | inRest, distinct⟩)
            · exact .inr (.inl equal)
            · exact .inl equal
            · exact .inr (.inr ⟨inRest, distinct⟩)
        next nextNotBefore =>
          have sameKey : key item = key next :=
            String.le_antisymm (String.not_lt.1 nextNotBefore) (String.not_lt.1 itemNotBefore)
          rw [List.mem_cons, List.mem_cons]
          constructor
          · rintro (equal | inRest)
            · exact .inl equal
            · refine .inr ⟨.inr inRest, fun same => ?_⟩
              have before := nextFirst inRest
              rw [same, sameKey] at before
              exact String.lt_irrefl _ before
          · rintro (equal | ⟨equal | inRest, distinct⟩)
            · exact .inl equal
            · exact absurd (equal ▸ sameKey.symm) distinct
            · exact .inr inRest

theorem mem_insert {table : Table key} {item member : α} :
    member ∈ (table.insert item).entries ↔
      member = item ∨ (member ∈ table.entries ∧ key member ≠ key item) :=
  mem_place_iff table.ordered

theorem mem_erase {table : Table key} {name : String} {member : α} :
    member ∈ (table.erase name).entries ↔ member ∈ table.entries ∧ key member ≠ name := by
  simp [erase, List.mem_filter]

@[simp]
theorem find?_empty (name : String) : (empty : Table key).find? name = none := rfl

theorem find?_insert (table : Table key) (item : α) (name : String) :
    (table.insert item).find? name = if key item = name then some item else table.find? name := by
  apply Option.ext
  intro member
  rw [find?_eq_some_iff, mem_insert]
  split
  next itemKey =>
    constructor
    · rintro ⟨equal | ⟨_, distinct⟩, memberKey⟩
      · rw [equal]
      · exact absurd (memberKey.trans itemKey.symm) distinct
    · intro same
      obtain rfl := Option.some.inj same
      exact ⟨.inl rfl, itemKey⟩
  next itemKey =>
    rw [find?_eq_some_iff]
    constructor
    · rintro ⟨equal | ⟨inTable, _⟩, memberKey⟩
      · exact absurd (equal ▸ memberKey) itemKey
      · exact ⟨inTable, memberKey⟩
    · rintro ⟨inTable, memberKey⟩
      exact ⟨.inr ⟨inTable, fun same => itemKey (same.symm.trans memberKey)⟩, memberKey⟩

theorem find?_erase (table : Table key) (erased name : String) :
    (table.erase erased).find? name = if name = erased then none else table.find? name := by
  apply Option.ext
  intro member
  rw [find?_eq_some_iff, mem_erase]
  split
  next same =>
    simp only [reduceCtorEq, iff_false]
    rintro ⟨⟨_, distinct⟩, memberKey⟩
    exact distinct (memberKey.trans same)
  next different =>
    rw [find?_eq_some_iff]
    constructor
    · rintro ⟨⟨inTable, _⟩, memberKey⟩
      exact ⟨inTable, memberKey⟩
    · rintro ⟨inTable, memberKey⟩
      exact ⟨⟨inTable, fun same => different (memberKey.symm.trans same)⟩, memberKey⟩

theorem eq_of_mem_iff {first second : Table key}
    (sameMembers : ∀ item, item ∈ first.entries ↔ item ∈ second.entries) : first = second := by
  obtain ⟨firsts, firstOrdered⟩ := first
  obtain ⟨seconds, secondOrdered⟩ := second
  simp only at sameMembers
  suffices firsts = seconds by subst this; rfl
  induction firsts generalizing seconds with
  | nil =>
      cases seconds with
      | nil => rfl
      | cons item rest => exact absurd ((sameMembers item).2 (by simp)) (by simp)
  | cons head tail ih =>
      cases seconds with
      | nil => exact absurd ((sameMembers head).1 (by simp)) (by simp)
      | cons other rest =>
          have headFirst : ∀ {item : α}, item ∈ tail → key head < key item :=
            fun itemMem => List.rel_of_pairwise_cons firstOrdered itemMem
          have otherFirst : ∀ {item : α}, item ∈ rest → key other < key item :=
            fun itemMem => List.rel_of_pairwise_cons secondOrdered itemMem
          have headEq : head = other := by
            rcases List.mem_cons.1 ((sameMembers head).1 (by simp)) with equal | headIn
            · exact equal
            rcases List.mem_cons.1 ((sameMembers other).2 (by simp)) with equal | otherIn
            · exact equal.symm
            · exact absurd (String.lt_trans (otherFirst headIn) (headFirst otherIn))
                (String.lt_irrefl _)
          subst headEq
          congr 1
          refine ih firstOrdered.tail rest secondOrdered.tail fun item => ?_
          constructor
          · intro itemMem
            rcases List.mem_cons.1 ((sameMembers item).1 (List.mem_cons_of_mem head itemMem)) with
              equal | inRest
            · exact absurd (equal ▸ headFirst itemMem) (String.lt_irrefl _)
            · exact inRest
          · intro itemMem
            rcases List.mem_cons.1 ((sameMembers item).2 (List.mem_cons_of_mem head itemMem)) with
              equal | inTail
            · exact absurd (equal ▸ otherFirst itemMem) (String.lt_irrefl _)
            · exact inTail

theorem ext_find? {first second : Table key}
    (sameLookups : ∀ name, first.find? name = second.find? name) : first = second := by
  apply eq_of_mem_iff
  intro item
  have firstIff : first.find? (key item) = some item ↔ item ∈ first.entries ∧ key item = key item :=
    find?_eq_some_iff
  have secondIff :
      second.find? (key item) = some item ↔ item ∈ second.entries ∧ key item = key item :=
    find?_eq_some_iff
  rw [sameLookups, secondIff] at firstIff
  simpa using firstIff.symm

end Table

end TenantFleet
