import TenantFleet.Proofs.Store.Listing

/-!
# The index of labels

The index is exact when its entries are those of the stored objects and no
others.  As long as no key holds a NUL character, an entry shows the kind and
the key of the object that it belongs to, so two objects share none, and every
write and every removal keeps the index exact.  An exact index yields every
object with a label.
-/

namespace TenantFleet

/-- Neither a slash nor a NUL character occurs in the text. -/
def IsPlainText (text : String) : Prop :=
  '/' ∉ text.toList ∧ '\x00' ∉ text.toList

instance (text : String) : Decidable (IsPlainText text) :=
  inferInstanceAs (Decidable (_ ∧ _))

/-- Both parts of the key are plain. -/
def ObjectKey.IsPlain (key : ObjectKey) : Prop :=
  IsPlainText key.scope ∧ IsPlainText key.name

instance (key : ObjectKey) : Decidable key.IsPlain :=
  inferInstanceAs (Decidable (_ ∧ _))

/-- Neither part of the key has a slash in it. -/
def ObjectKey.IsSlashFree (key : ObjectKey) : Prop :=
  '/' ∉ key.scope.toList ∧ '/' ∉ key.name.toList

instance (key : ObjectKey) : Decidable key.IsSlashFree :=
  inferInstanceAs (Decidable (_ ∧ _))

theorem ObjectKey.IsPlain.isSlashFree {key : ObjectKey} (plain : key.IsPlain) : key.IsSlashFree :=
  ⟨plain.1.1, plain.2.1⟩

/-- What stands before a separator, and what stands behind it, are determined by the whole when
the separator does not occur before. -/
theorem parts_eq_of_append_eq {separator : Char} {first second : List Char}
    (firstFree : separator ∉ first) (secondFree : separator ∉ second) {firstRest secondRest}
    (sameWhole : first ++ separator :: firstRest = second ++ separator :: secondRest) :
    first = second ∧ firstRest = secondRest := by
  induction first generalizing second with
  | nil =>
      cases second with
      | nil => simpa using sameWhole
      | cons character characters =>
          have same : separator = character := by simpa using congrArg List.head? sameWhole
          exact absurd (by simp [same]) secondFree
  | cons character characters ih =>
      cases second with
      | nil =>
          have same : character = separator := by simpa using congrArg List.head? sameWhole
          exact absurd (by simp [same]) firstFree
      | cons other others =>
          simp only [List.cons_append, List.cons.injEq] at sameWhole
          obtain ⟨rfl, sameTail⟩ := sameWhole
          have rests := ih (fun inTail => firstFree (List.mem_cons_of_mem _ inTail))
            (fun inTail => secondFree (List.mem_cons_of_mem _ inTail)) sameTail
          exact ⟨by rw [rests.1], rests.2⟩

/-- The same, when the separator does not occur behind. -/
private theorem parts_eq_of_append_eq' {separator : Char} {first second : List Char}
    {firstRest secondRest} (firstFree : separator ∉ firstRest)
    (secondFree : separator ∉ secondRest)
    (sameWhole : first ++ separator :: firstRest = second ++ separator :: secondRest) :
    first = second ∧ firstRest = secondRest := by
  have reversed := congrArg List.reverse sameWhole
  simp only [List.reverse_append, List.reverse_cons, List.append_assoc, List.singleton_append]
    at reversed
  have parts := parts_eq_of_append_eq (by simpa using firstFree) (by simpa using secondFree)
    reversed
  exact ⟨List.reverse_inj.1 parts.2, List.reverse_inj.1 parts.1⟩

namespace ObjectKey

/-- Plain keys with one text are one key. -/
theorem eq_of_text_eq {first second : ObjectKey} (firstPlain : first.IsPlain)
    (secondPlain : second.IsPlain) (sameText : first.text = second.text) : first = second := by
  have sameWhole := congrArg String.toList sameText
  rw [toList_text, toList_text] at sameWhole
  have parts := parts_eq_of_append_eq firstPlain.1.1 secondPlain.1.1 sameWhole
  obtain ⟨firstScope, firstName⟩ := first
  obtain ⟨secondScope, secondName⟩ := second
  rw [ObjectKey.mk.injEq]
  exact ⟨String.toList_inj.1 parts.1, String.toList_inj.1 parts.2⟩

/-- So are keys with one text whose names have no slash in them. -/
theorem eq_of_text_eq_of_slash_free {first second : ObjectKey}
    (firstFree : '/' ∉ first.name.toList) (secondFree : '/' ∉ second.name.toList)
    (sameText : first.text = second.text) : first = second := by
  have sameWhole := congrArg String.toList sameText
  rw [toList_text, toList_text] at sameWhole
  have parts := parts_eq_of_append_eq' firstFree secondFree sameWhole
  obtain ⟨firstScope, firstName⟩ := first
  obtain ⟨secondScope, secondName⟩ := second
  rw [ObjectKey.mk.injEq]
  exact ⟨String.toList_inj.1 parts.1, String.toList_inj.1 parts.2⟩

/-- No other key has the text of a key without slashes, which has one slash in it. -/
theorem eq_of_text_eq_of_isSlashFree {key other : ObjectKey} (free : key.IsSlashFree)
    (sameText : other.text = key.text) : other = key := by
  have slashes : other.text.toList.count '/' = key.text.toList.count '/' := by rw [sameText]
  have noneBefore : key.scope.toList.count '/' = 0 := List.count_eq_zero_of_not_mem free.1
  have noneBehind : key.name.toList.count '/' = 0 := List.count_eq_zero_of_not_mem free.2
  rw [toList_text, toList_text, List.count_append, List.count_append, List.count_cons_self,
    List.count_cons_self, noneBefore, noneBehind] at slashes
  have nameFree : '/' ∉ other.name.toList := List.count_eq_zero.1 (by omega)
  exact eq_of_text_eq_of_slash_free nameFree free.2 sameText

/-- A plain key is the only one that its text spells. -/
theorem eq_of_ofText?_text {key other : ObjectKey} (plain : key.IsPlain)
    (spelled : ofText? key.text = some other) : other = key := by
  by_cases named : key.name = ""
  · have unspelled : ofText? key.text = none := by
      have scopeOnly : ∀ character ∈ key.scope.toList, (character != '/') = true :=
        fun character characterMem => bne_iff_ne.2 fun equal => plain.1.1 (equal ▸ characterMem)
      have behind : key.text.toList.dropWhile (· != '/') = ['/'] := by
        rw [toList_text, List.dropWhile_append_of_pos scopeOnly, named]
        rfl
      simp [ofText?, behind]
    rw [unspelled] at spelled
    contradiction
  · rw [ofText?_text plain.1.1 plain.2.1 named] at spelled
    exact (Option.some.inj spelled).symm

theorem nul_not_mem_text {key : ObjectKey} (plain : key.IsPlain) :
    '\x00' ∉ key.text.toList := by
  rw [toList_text]
  simpa using ⟨plain.1.2, plain.2.2⟩

end ObjectKey

theorem Kind.nul_not_mem_title (kind : Kind) : '\x00' ∉ kind.title.toList := by
  cases kind <;> decide

theorem Kind.title_injective {first second : Kind} (sameTitle : first.title = second.title) :
    first = second := by
  revert sameTitle
  cases first <;> cases second <;> decide

@[simp]
theorem Labels.value?_set (labels : Labels) (name value : String) :
    (labels.set name value).value? name = some value := by
  simp [value?, set, Table.find?_insert]

theorem Labels.value?_set_of_ne (labels : Labels) {name other : String} (value : String)
    (different : other ≠ name) : (labels.set name value).value? other = labels.value? other := by
  simp [value?, set, Table.find?_insert, different.symm]

theorem Metadata.hasLabel_iff {metadata : Metadata} {label value : String} :
    metadata.hasLabel label value = true ↔ (label, value) ∈ metadata.labels.entries := by
  simp only [hasLabel, label?, Labels.value?, beq_iff_eq, Option.map_eq_some_iff,
    Table.find?_eq_some_iff]
  constructor
  · rintro ⟨⟨name, text⟩, ⟨entryMem, rfl⟩, rfl⟩
    exact entryMem
  · intro entryMem
    exact ⟨(label, value), ⟨entryMem, rfl⟩, rfl⟩

/-- Texts that begin alike stand in the order of what is behind. -/
theorem lt_of_append_lt {stem first second : String} (before : stem ++ first < stem ++ second) :
    first < second := by
  change (stem ++ first).toList < (stem ++ second).toList at before
  change first.toList < second.toList
  rw [String.toList_append, String.toList_append] at before
  generalize stem.toList = characters at before
  induction characters with
  | nil => exact before
  | cons character characters ih =>
      rcases List.cons_lt_cons_iff.1 before with smaller | ⟨-, behind⟩
      · exact absurd smaller (Char.lt_irrefl character)
      · exact ih behind

/-- The text of a plain key begins with the namespace of the key, and with no other. -/
theorem ObjectKey.beginsWith_text_iff {scope : String} {key : ObjectKey}
    (plainScope : IsPlainText scope) (plain : key.IsPlain) :
    beginsWith (scope ++ "/") key.text = true ↔ key.scope = scope := by
  rw [beginsWith_iff]
  constructor
  · rintro ⟨rest, whole⟩
    have sameWhole := congrArg String.toList whole
    rw [toList_text, String.toList_append, String.toList_append, List.append_assoc] at sameWhole
    have parts := parts_eq_of_append_eq plain.1.1 plainScope.1 sameWhole
    exact String.toList_inj.1 parts.1
  · rintro rfl
    exact ⟨key.name, rfl⟩

namespace Store

variable {kind : Kind} {store : Store}

theorem toList_indexStem (kind : Kind) (label value : String) :
    (indexStem kind label value).toList =
      kind.title.toList ++ '\x00' :: (label.toList ++ '\x00' :: (value.toList ++ ['\x00'])) := by
  simp [indexStem, String.toList_append]

/-- The whole of an entry, cut at the NUL behind the kind. -/
private theorem toList_entry (kind : Kind) (label value rest : String) :
    (indexStem kind label value ++ rest).toList =
      kind.title.toList ++
        '\x00' :: (label.toList ++ '\x00' :: (value.toList ++ '\x00' :: rest.toList)) := by
  simp [toList_indexStem, String.toList_append]

/-- An entry begins with the title of one kind. -/
theorem kind_eq_of_entry_eq {first second : Kind} {label value rest label' value' rest' : String}
    (sameEntry : indexStem first label value ++ rest = indexStem second label' value' ++ rest') :
    first = second := by
  have sameWhole := congrArg String.toList sameEntry
  rw [toList_entry, toList_entry] at sameWhole
  exact Kind.title_injective (String.toList_inj.1
    (parts_eq_of_append_eq first.nul_not_mem_title second.nul_not_mem_title sameWhole).1)

/-- An entry ends with the text of one key, when the texts hold no NUL character. -/
theorem rest_eq_of_entry_eq {first second : Kind} {label value rest label' value' rest' : String}
    (restFree : '\x00' ∉ rest.toList) (restFree' : '\x00' ∉ rest'.toList)
    (sameEntry : indexStem first label value ++ rest = indexStem second label' value' ++ rest') :
    rest = rest' := by
  have sameWhole := congrArg String.toList sameEntry
  rw [toList_entry, toList_entry] at sameWhole
  simp only [← List.cons_append, ← List.append_assoc] at sameWhole
  exact String.toList_inj.1 (parts_eq_of_append_eq' restFree restFree' sameWhole).2

/-- An entry shows the label, when the labels hold no NUL character. -/
theorem label_eq_of_entry_eq {label value rest label' value' rest' : String}
    (labelFree : '\x00' ∉ label.toList) (labelFree' : '\x00' ∉ label'.toList)
    (sameEntry : indexStem kind label value ++ rest = indexStem kind label' value' ++ rest') :
    label = label' := by
  have sameWhole := congrArg String.toList sameEntry
  rw [toList_entry, toList_entry] at sameWhole
  have sameTail := (List.cons.inj (List.append_cancel_left sameWhole)).2
  exact String.toList_inj.1 (parts_eq_of_append_eq labelFree labelFree' sameTail).1

/-- An entry shows label and value, when those of one reading hold no NUL character: between the
kind and the rest there is then one such character only. -/
theorem stem_eq_of_entry_eq {label value label' value' rest : String}
    (labelFree : '\x00' ∉ label.toList) (valueFree : '\x00' ∉ value.toList)
    (sameEntry : indexStem kind label value ++ rest = indexStem kind label' value' ++ rest) :
    label = label' ∧ value = value' := by
  have sameMiddle : label.toList ++ '\x00' :: value.toList =
      label'.toList ++ '\x00' :: value'.toList := by
    have sameWhole := congrArg String.toList sameEntry
    have cut : (label.toList ++ '\x00' :: value.toList) ++ '\x00' :: rest.toList =
        (label'.toList ++ '\x00' :: value'.toList) ++ '\x00' :: rest.toList := by
      simpa [toList_indexStem, String.toList_append] using sameWhole
    exact List.append_cancel_right cut
  have labelFree' : '\x00' ∉ label'.toList := by
    have counted := congrArg (List.count '\x00') sameMiddle
    simp only [List.count_append, List.count_cons_self, List.count_eq_zero.2 labelFree,
      List.count_eq_zero.2 valueFree] at counted
    exact List.count_eq_zero.1 (by omega)
  obtain ⟨sameLabel, sameValue⟩ := parts_eq_of_append_eq labelFree labelFree' sameMiddle
  exact ⟨String.toList_inj.1 sameLabel, String.toList_inj.1 sameValue⟩

/-- An entry shows the value of a label when the label is known. -/
theorem value_eq_of_entry_eq {label value value' rest : String}
    (sameEntry : indexStem kind label value ++ rest = indexStem kind label value' ++ rest) :
    value = value' := by
  have sameWhole := congrArg String.toList sameEntry
  rw [toList_entry, toList_entry] at sameWhole
  exact String.toList_inj.1 (by simpa using sameWhole)

theorem mem_indexEntries {object : Object kind} {entry : String} :
    entry ∈ indexEntries object ↔
      ∃ label value, (label, value) ∈ object.metadata.labels.entries ∧
        entry = indexStem kind label value ++ object.keyText := by
  simp [indexEntries, eq_comm]

/-- No entry belongs to two objects. -/
theorem same_object_of_entry {first second : Kind} {object : Object first}
    {other : Object second} (free : '\x00' ∉ object.keyText.toList)
    (otherFree : '\x00' ∉ other.keyText.toList) {entry : String}
    (ofObject : entry ∈ indexEntries object) (ofOther : entry ∈ indexEntries other) :
    first = second ∧ object.keyText = other.keyText := by
  obtain ⟨label, value, -, rfl⟩ := mem_indexEntries.1 ofObject
  obtain ⟨label', value', -, sameEntry⟩ := mem_indexEntries.1 ofOther
  exact ⟨kind_eq_of_entry_eq sameEntry, rest_eq_of_entry_eq free otherFree sameEntry⟩

theorem mem_foldl_insert {entries : List String} {index : Table (α := String) id}
    {entry : String} :
    entry ∈ (entries.foldl Table.insert index).entries ↔
      entry ∈ entries ∨ entry ∈ index.entries := by
  induction entries generalizing index with
  | nil => simp
  | cons next rest ih =>
      rw [List.foldl_cons, ih, Table.mem_insert, List.mem_cons]
      by_cases same : entry = next <;> simp [same]

theorem mem_foldl_erase {entries : List String} {index : Table (α := String) id}
    {entry : String} :
    entry ∈ (entries.foldl Table.erase index).entries ↔
      entry ∈ index.entries ∧ entry ∉ entries := by
  induction entries generalizing index with
  | nil => simp
  | cons next rest ih =>
      rw [List.foldl_cons, ih, Table.mem_erase, List.mem_cons, not_or, and_assoc]
      rfl

theorem mem_reindexed {previous next : Option (Object kind)} {entry : String} :
    entry ∈ (store.reindexed previous next).entries ↔
      entry ∈ next.elim [] indexEntries ∨
        entry ∈ store.labelIndex.entries ∧ entry ∉ previous.elim [] indexEntries := by
  rw [reindexed, mem_foldl_insert, mem_foldl_erase]

/-- The entries of the index are those of the stored objects. -/
def IsIndexed (store : Store) : Prop :=
  ∀ entry, entry ∈ store.labelIndex.entries ↔
    ∃ kind, ∃ object : Object kind, object ∈ store.list kind ∧ entry ∈ indexEntries object

/-- The keys of all stored objects are plain. -/
def HasPlainKeys (store : Store) : Prop :=
  ∀ kind, ∀ object ∈ store.list kind, object.key.IsPlain

/-- No stored object has a slash in a part of its key. -/
def HasSlashFreeKeys (store : Store) : Prop :=
  ∀ kind, ∀ object ∈ store.list kind, object.key.IsSlashFree

/-- No stored object has a NUL character in the text of its key. -/
def HasNulFreeKeys (store : Store) : Prop :=
  ∀ kind, ∀ object ∈ store.list kind, '\x00' ∉ object.keyText.toList

theorem HasPlainKeys.nulFree (plain : store.HasPlainKeys) : store.HasNulFreeKeys :=
  fun kind object present => ObjectKey.nul_not_mem_text (plain kind object present)

theorem HasPlainKeys.slashFree (plain : store.HasPlainKeys) : store.HasSlashFreeKeys :=
  fun kind object present => (plain kind object present).isSlashFree

/-- Where no key has slashes, an object is found under its own key only. -/
theorem HasSlashFreeKeys.key_eq_of_find? (free : store.HasSlashFreeKeys) {key : ObjectKey}
    {object : Object kind} (found : store.find? kind key = some object) : object.key = key := by
  have sameText : key.text = object.key.text := (keyText_of_find? found).symm
  exact (ObjectKey.eq_of_text_eq_of_isSlashFree
    (free kind object (mem_list_of_find? found)) sameText).symm

theorem HasPlainKeys.key_eq_of_find? (plain : store.HasPlainKeys) {key : ObjectKey}
    {object : Object kind} (found : store.find? kind key = some object) : object.key = key :=
  plain.slashFree.key_eq_of_find? found

theorem HasPlainKeys.find?_eq_none_of_text_eq (plain : store.HasPlainKeys) (kind : Kind)
    {first second : ObjectKey} (different : first ≠ second) (sameText : first.text = second.text) :
    store.find? kind first = none := by
  have samePlace : store.find? kind first = store.find? kind second :=
    congrArg (store.table kind).find? sameText
  refine Option.eq_none_iff_forall_ne_some.2 fun object found => different ?_
  have isFirst := plain.key_eq_of_find? found
  have isSecond := plain.key_eq_of_find? (samePlace ▸ found)
  exact isFirst.symm.trans isSecond

private theorem ofList_drop_stem (stem rest : String) :
    String.ofList ((stem ++ rest).toList.drop stem.toList.length) = rest := by
  simp [String.toList_append]

theorem mem_labelled {label value : String} {object : Object kind} :
    object ∈ store.labelled kind label value ↔
      object ∈ store.list kind ∧
        indexStem kind label value ++ object.keyText ∈ store.labelIndex.entries := by
  simp only [labelled, List.mem_filterMap, Table.mem_scan]
  constructor
  · rintro ⟨entry, ⟨entryMem, begins⟩, found⟩
    obtain ⟨rest, rfl⟩ := beginsWith_iff.1 begins
    rw [ofList_drop_stem] at found
    obtain ⟨present, sameText⟩ := Table.find?_eq_some_iff.1 found
    exact ⟨present, sameText ▸ entryMem⟩
  · rintro ⟨present, entryMem⟩
    refine ⟨_, ⟨entryMem, beginsWith_iff.2 ⟨_, rfl⟩⟩, ?_⟩
    rw [ofList_drop_stem]
    exact Table.find?_eq_some_iff.2 ⟨present, rfl⟩

/-- The index yields the objects in the order of their keys, since entries that begin alike stand
in the order of what is behind. -/
theorem ordered_labelled (store : Store) (kind : Kind) (label value : String) :
    InKeyOrder (store.labelled kind label value) := by
  let stem := indexStem kind label value
  have ordered : (store.labelIndex.scan stem).Pairwise
      (fun first second => first < second ∧ beginsWith stem first ∧ beginsWith stem second) := by
    refine (store.labelIndex.scan_ordered stem).imp_of_mem fun firstMem secondMem before => ?_
    exact ⟨before, (Table.mem_scan.1 firstMem).2, (Table.mem_scan.1 secondMem).2⟩
  refine ordered.filterMap _ fun first second apart object found other otherFound => ?_
  obtain ⟨before, firstBegins, secondBegins⟩ := apart
  obtain ⟨rest, rfl⟩ := beginsWith_iff.1 firstBegins
  obtain ⟨rest', rfl⟩ := beginsWith_iff.1 secondBegins
  have ofFirst := (Table.find?_eq_some_iff.1 found).2
  have ofSecond := (Table.find?_eq_some_iff.1 otherFound).2
  rw [ofList_drop_stem] at ofFirst ofSecond
  rw [ofFirst, ofSecond]
  exact lt_of_append_lt before

/-- No object is yielded twice. -/
theorem nodup_labelled (store : Store) (kind : Kind) (label value : String) :
    (store.labelled kind label value).Nodup := by
  refine (store.ordered_labelled kind label value).imp ?_
  rintro first _ before rfl
  exact String.lt_irrefl _ before

/-- An exact index leads to every object that has the label. -/
theorem IsIndexed.mem_labelled_of_hasLabel (indexed : store.IsIndexed) {object : Object kind}
    (present : object ∈ store.list kind) {label value : String}
    (labelled : object.metadata.hasLabel label value) :
    object ∈ store.labelled kind label value := by
  refine mem_labelled.2 ⟨present, (indexed _).2 ⟨kind, object, present, ?_⟩⟩
  exact mem_indexEntries.2 ⟨label, value, Metadata.hasLabel_iff.1 labelled, rfl⟩

/-- No object has a label that leads nowhere in an exact index. -/
theorem IsIndexed.label_ne_of_labelled_eq_nil (indexed : store.IsIndexed) {label value : String}
    (none : store.labelled kind label value = []) {object : Object kind}
    (present : object ∈ store.list kind) : object.metadata.label? label ≠ some value := by
  intro isLabel
  have listed := indexed.mem_labelled_of_hasLabel present (beq_iff_eq.2 isLabel)
  rw [none] at listed
  exact List.not_mem_nil listed

/-- What an exact index yields has a label with the entry that led there. -/
theorem IsIndexed.exists_label_of_mem_labelled (indexed : store.IsIndexed)
    (free : store.HasNulFreeKeys) {object : Object kind} {label value : String}
    (listed : object ∈ store.labelled kind label value) :
    ∃ label' value', (label', value') ∈ object.metadata.labels.entries ∧
      indexStem kind label value ++ object.keyText =
        indexStem kind label' value' ++ object.keyText := by
  obtain ⟨present, entryMem⟩ := mem_labelled.1 listed
  obtain ⟨read, other, isStored, ofOther⟩ := (indexed _).1 entryMem
  obtain ⟨label', value', labelMem, sameEntry⟩ := mem_indexEntries.1 ofOther
  obtain rfl := kind_eq_of_entry_eq sameEntry
  have sameText : object.keyText = other.keyText :=
    rest_eq_of_entry_eq (free _ object present) (free _ other isStored) sameEntry
  obtain rfl := eq_of_keyText_eq present isStored sameText
  exact ⟨label', value', labelMem, sameEntry⟩

/-- What an exact index yields under a label and a value without NUL characters has them. -/
theorem IsIndexed.hasLabel_of_mem_labelled (indexed : store.IsIndexed)
    (free : store.HasNulFreeKeys) {object : Object kind} {label value : String}
    (labelFree : '\x00' ∉ label.toList) (valueFree : '\x00' ∉ value.toList)
    (listed : object ∈ store.labelled kind label value) :
    object.metadata.hasLabel label value = true := by
  obtain ⟨label', value', labelMem, sameEntry⟩ := indexed.exists_label_of_mem_labelled free listed
  obtain ⟨rfl, rfl⟩ := stem_eq_of_entry_eq labelFree valueFree sameEntry
  exact Metadata.hasLabel_iff.2 labelMem

/-- What an exact index yields under a label has the value that was asked for, when it has no other
label at all. -/
theorem IsIndexed.value_eq_of_mem_labelled (indexed : store.IsIndexed)
    (free : store.HasNulFreeKeys)
    {object : Object kind} {label value text : String}
    (isLabels : object.metadata.labels = Labels.set .empty label text)
    (listed : object ∈ store.labelled kind label value) : value = text := by
  obtain ⟨label', value', labelMem, sameEntry⟩ := indexed.exists_label_of_mem_labelled free listed
  rw [isLabels, Labels.set, Table.mem_insert] at labelMem
  rcases labelMem with isOnly | ⟨inEmpty, -⟩
  · obtain ⟨rfl, rfl⟩ := Prod.mk.inj isOnly
    exact value_eq_of_entry_eq sameEntry
  · exact absurd inEmpty List.not_mem_nil

@[simp]
theorem isIndexed_empty : ({} : Store).IsIndexed := by
  intro entry
  simp only [list_empty, List.not_mem_nil, false_and, exists_false, iff_false]
  exact List.not_mem_nil

/-- Only the object that is stored under the key has an entry of what was found there. -/
theorem same_key_of_previous (free : store.HasNulFreeKeys) {key : ObjectKey}
    {previous : Option (Object kind)} (isPrevious : store.find? kind key = previous)
    {read : Kind} {object : Object read} (present : object ∈ store.list read) {entry : String}
    (ofObject : entry ∈ indexEntries object)
    (ofPrevious : entry ∈ previous.elim [] indexEntries) :
    read = kind ∧ object.keyText = key.text := by
  cases previous with
  | none => exact absurd ofPrevious List.not_mem_nil
  | some stored =>
      have same := same_object_of_entry (free read object present)
        (free kind stored (mem_list_of_find? isPrevious)) ofObject ofPrevious
      exact ⟨same.1, same.2.trans (keyText_of_find? isPrevious)⟩

/-- A write over the object that is stored under the key keeps the index exact. -/
theorem IsIndexed.write (indexed : store.IsIndexed) (free : store.HasNulFreeKeys)
    {previous : Option (Object kind)} {next : Object kind}
    (isPrevious : store.find? kind next.key = previous) :
    (store.write previous next).IsIndexed := by
  intro entry
  change entry ∈ (store.reindexed previous (some next)).entries ↔ _
  rw [mem_reindexed, indexed entry]
  constructor
  · rintro (ofNext | ⟨⟨read, object, present, ofObject⟩, notPrevious⟩)
    · exact ⟨kind, next, mem_list_write_self store previous next, ofNext⟩
    · refine ⟨read, object, ?_, ofObject⟩
      by_cases sameKind : read = kind
      · subst sameKind
        refine mem_list_write.2 (.inr ⟨present, fun sameText => notPrevious ?_⟩)
        rw [← isPrevious, find?_eq_some_of_mem present sameText]
        exact ofObject
      · rwa [list_write_of_ne store previous next sameKind]
  · rintro ⟨read, object, present, ofObject⟩
    by_cases sameKind : read = kind
    · subst sameKind
      rcases mem_list_write.1 present with rfl | ⟨wasPresent, otherText⟩
      · exact .inl ofObject
      · exact .inr ⟨⟨read, object, wasPresent, ofObject⟩, fun ofPrevious =>
          otherText (same_key_of_previous free isPrevious wasPresent ofObject ofPrevious).2⟩
    · rw [list_write_of_ne store previous next sameKind] at present
      exact .inr ⟨⟨read, object, present, ofObject⟩, fun ofPrevious =>
        sameKind (same_key_of_previous free isPrevious present ofObject ofPrevious).1⟩

/-- A removal keeps the index exact. -/
theorem IsIndexed.remove (indexed : store.IsIndexed) (free : store.HasNulFreeKeys)
    {current : Object kind} (present : current ∈ store.list kind) :
    (store.remove current).IsIndexed := by
  intro entry
  change entry ∈ (store.reindexed (some current) none).entries ↔ _
  rw [mem_reindexed, indexed entry]
  simp only [Option.elim_none, List.not_mem_nil, false_or, Option.elim_some]
  constructor
  · rintro ⟨⟨read, object, wasPresent, ofObject⟩, notCurrent⟩
    refine ⟨read, object, ?_, ofObject⟩
    by_cases sameKind : read = kind
    · subst sameKind
      refine mem_list_remove.2 ⟨wasPresent, fun sameText => notCurrent ?_⟩
      rwa [← eq_of_keyText_eq wasPresent present sameText]
    · rwa [list_remove_of_ne store current sameKind]
  · rintro ⟨read, object, stillPresent, ofObject⟩
    by_cases sameKind : read = kind
    · subst sameKind
      obtain ⟨wasPresent, otherText⟩ := mem_list_remove.1 stillPresent
      exact ⟨⟨read, object, wasPresent, ofObject⟩, fun ofCurrent => otherText
        (same_object_of_entry (free read object wasPresent) (free read current present)
          ofObject ofCurrent).2⟩
    · rw [list_remove_of_ne store current sameKind] at stillPresent
      exact ⟨⟨read, object, stillPresent, ofObject⟩, fun ofCurrent => sameKind
        (same_object_of_entry (free read object stillPresent) (free kind current present)
          ofObject ofCurrent).1⟩

end Store

end TenantFleet
