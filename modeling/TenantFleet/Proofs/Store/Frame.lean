import TenantFleet.Proofs.Store.Index
import TenantFleet.Proofs.Store.Outcome

/-!
# What a change leaves alone

A change of an object shows in the objects of its kind only: the tables of the
other kinds stay, and so does what the index has of them, since the entries of
a kind all begin with its title.
-/

namespace TenantFleet

namespace Store

variable {kind : Kind} {store before middle after : Store}

/-- The stores show the same objects, under the same labels, of every kind but one. -/
def SameBeside (kind : Kind) (before after : Store) : Prop :=
  ∀ read, read ≠ kind → after.table read = before.table read ∧
    ∀ label value, after.labelled read label value = before.labelled read label value

theorem SameBeside.refl (store : Store) : SameBeside kind store store :=
  fun _ _ => ⟨rfl, fun _ _ => rfl⟩

theorem SameBeside.trans (first : SameBeside kind before middle)
    (second : SameBeside kind middle after) : SameBeside kind before after :=
  fun read different =>
    ⟨(second read different).1.trans (first read different).1, fun label value =>
      ((second read different).2 label value).trans ((first read different).2 label value)⟩

theorem SameBeside.find? (same : SameBeside kind before after) {read : Kind}
    (different : read ≠ kind) (key : ObjectKey) : after.find? read key = before.find? read key := by
  simp only [Store.find?, (same read different).1]

theorem SameBeside.list (same : SameBeside kind before after) {read : Kind}
    (different : read ≠ kind) : after.list read = before.list read := by
  simp only [Store.list, (same read different).1]

theorem SameBeside.labelled (same : SameBeside kind before after) {read : Kind}
    (different : read ≠ kind) (label value : String) :
    after.labelled read label value = before.labelled read label value :=
  (same read different).2 label value

/-- The index is read through the entries with one beginning, so two indexes that agree on these
yield the same objects. -/
theorem labelled_congr {label value : String} (sameTable : after.table kind = before.table kind)
    (sameEntries : ∀ rest, indexStem kind label value ++ rest ∈ after.labelIndex.entries ↔
      indexStem kind label value ++ rest ∈ before.labelIndex.entries) :
    after.labelled kind label value = before.labelled kind label value := by
  have sameTables :
      (⟨_, after.labelIndex.scan_ordered (indexStem kind label value)⟩ :
          Table (α := String) id) =
        ⟨_, before.labelIndex.scan_ordered (indexStem kind label value)⟩ := by
    apply Table.eq_of_mem_iff
    intro entry
    rw [Table.mem_scan, Table.mem_scan]
    refine and_congr_left fun begins => ?_
    obtain ⟨rest, rfl⟩ := beginsWith_iff.1 begins
    exact sameEntries rest
  simp only [Store.labelled, sameTable, Table.mk.inj sameTables]

private theorem not_mem_indexEntries_of_ne {object : Object kind} {read : Kind}
    (different : read ≠ kind) (label value rest : String) :
    indexStem read label value ++ rest ∉ indexEntries object := by
  intro entryMem
  obtain ⟨label', value', -, sameEntry⟩ := mem_indexEntries.1 entryMem
  exact different (kind_eq_of_entry_eq sameEntry)

/-- Whatever entries of one kind go and come, those of the others stay. -/
private theorem mem_reindexed_of_ne (store : Store) (previous next : Option (Object kind))
    {read : Kind} (different : read ≠ kind) (label value rest : String) :
    indexStem read label value ++ rest ∈ (store.reindexed previous next).entries ↔
      indexStem read label value ++ rest ∈ store.labelIndex.entries := by
  have notOf (object : Option (Object kind)) :
      indexStem read label value ++ rest ∉ object.elim [] indexEntries := by
    cases object with
    | none => exact List.not_mem_nil
    | some object => exact not_mem_indexEntries_of_ne different label value rest
  simp [mem_reindexed, notOf]

theorem sameBeside_write (store : Store) (previous : Option (Object kind)) (next : Object kind) :
    SameBeside kind store (store.write previous next) :=
  fun _ different => ⟨table_write_of_ne store previous next different, fun label value =>
    labelled_congr (table_write_of_ne store previous next different)
      (mem_reindexed_of_ne store previous (some next) different label value)⟩

theorem sameBeside_remove (store : Store) (current : Object kind) :
    SameBeside kind store (store.remove current) :=
  fun _ different => ⟨table_remove_of_ne store current different, fun label value =>
    labelled_congr (table_remove_of_ne store current different)
      (mem_reindexed_of_ne store (some current) none different label value)⟩

theorem sameBeside_supplant (store : Store) (stored next : Object kind) :
    SameBeside kind store (store.supplant stored next) := by
  unfold supplant
  split
  · exact sameBeside_remove store stored
  · exact sameBeside_write store (some stored) next

theorem Deletion.sameBeside {stored : Object kind} (deletion : store.Deletion stored after) :
    SameBeside kind store after := by
  cases deletion with
  | purged => exact sameBeside_remove store stored
  | marked => exact sameBeside_write store (some stored) _

/-- The stores show the same objects, under the same labels, of every kind but the given ones. -/
def SameBut (kinds : List Kind) (before after : Store) : Prop :=
  ∀ read, read ∉ kinds → after.table read = before.table read ∧
    ∀ label value, after.labelled read label value = before.labelled read label value

theorem SameBeside.sameBut (same : SameBeside kind before after) {kinds : List Kind}
    (listed : kind ∈ kinds) : SameBut kinds before after :=
  fun read unlisted => same read fun isKind => unlisted (isKind ▸ listed)

namespace SameBut

variable {kinds : List Kind}

theorem refl (store : Store) : SameBut kinds store store :=
  fun _ _ => ⟨rfl, fun _ _ => rfl⟩

theorem trans (first : SameBut kinds before middle) (second : SameBut kinds middle after) :
    SameBut kinds before after :=
  fun read unlisted =>
    ⟨(second read unlisted).1.trans (first read unlisted).1, fun label value =>
      ((second read unlisted).2 label value).trans ((first read unlisted).2 label value)⟩

theorem table (same : SameBut kinds before after) {read : Kind} (unlisted : read ∉ kinds) :
    after.table read = before.table read :=
  (same read unlisted).1

theorem list (same : SameBut kinds before after) {read : Kind} (unlisted : read ∉ kinds) :
    after.list read = before.list read := by
  simp only [Store.list, same.table unlisted]

theorem find? (same : SameBut kinds before after) {read : Kind} (unlisted : read ∉ kinds)
    (key : ObjectKey) : after.find? read key = before.find? read key := by
  simp only [Store.find?, same.table unlisted]

end SameBut

end Store

end TenantFleet
