import TenantFleet.Draws
import TenantFleet.Proofs.Coherence.Naming
import TenantFleet.Proofs.Store.Requests

/-!
# Reads that agree with a scan

The store is read in three ways without a look at every object of a kind: under
a key, within a namespace, and through the index of labels.  As long as no
request writes the characters that the texts of keys and entries are joined
with, each way leads to the objects that a scan of all objects of the kind would,
in the order of their keys.  Whether a reader gets them depends on their texts.
Only scheduling rules can nest too deep to be read back; where one does, a scan
fails, and so does every other way that leads to it, while the rest answer.
-/

namespace TenantFleet

variable {kind : Kind}

/-- No name of a label holds a NUL character. -/
def Labels.ArePlain (labels : Labels) : Prop :=
  ∀ entry ∈ labels.entries, '\x00' ∉ entry.1.toList

instance (labels : Labels) : Decidable labels.ArePlain :=
  inferInstanceAs (Decidable (∀ entry ∈ labels.entries, _))

namespace Request

variable {request : Request}

/-- The namespaces, the names and the labels that the request writes are plain. -/
def IsPlain : Request → Prop
  | .create object _ _ =>
      object.key.IsPlain ∧
        (object.metadata.name = "" → IsPlainText object.metadata.generateName) ∧
          object.metadata.labels.ArePlain
  | .update object => object.key.IsPlain ∧ object.metadata.labels.ArePlain
  | .setStatus _ | .delete _ _ _ => True

instance : (request : Request) → Decidable request.IsPlain
  | .create _ _ _ => inferInstanceAs (Decidable (_ ∧ _ ∧ _))
  | .update _ => inferInstanceAs (Decidable (_ ∧ _))
  | .setStatus _ | .delete _ _ _ => inferInstanceAs (Decidable True)

theorem IsPlain.brings (plain : request.IsPlain) {key : ObjectKey} {labels : Labels}
    (brings : request.Brings key labels) : key.IsPlain ∧ labels.ArePlain := by
  cases request with
  | setStatus | delete => contradiction
  | update object =>
      obtain ⟨rfl, rfl⟩ := brings
      exact plain
  | create object now suffix =>
      obtain ⟨plainKey, plainStart, plainLabels⟩ := plain
      obtain ⟨scope, name⟩ := key
      obtain ⟨rfl, rfl, ⟨-, rfl⟩ | ⟨unnamed, attempt, rfl⟩⟩ := brings
      · exact ⟨plainKey, plainLabels⟩
      · have start := plainStart unnamed
        have digits := NameSuffix.isPlainText_text (suffix attempt)
        refine ⟨⟨plainKey.1, ?_⟩, plainLabels⟩
        simp only [IsPlainText, String.toList_append, List.mem_append, not_or]
        exact ⟨⟨start.1, digits.1⟩, ⟨start.2, digits.2⟩⟩

end Request

namespace Store

variable {store after : Store}

/-- The index is exact, and the keys and the labels of all objects are plain. -/
structure IsTidy (store : Store) : Prop where
  indexed : store.IsIndexed
  keys : store.HasPlainKeys
  labels : ∀ kind, ∀ object ∈ store.list kind, object.metadata.labels.ArePlain

theorem isTidy_empty : ({} : Store).IsTidy where
  indexed := isIndexed_empty
  keys := by
    intro kind object present
    rw [list_empty] at present
    exact absurd present List.not_mem_nil
  labels := by
    intro kind object present
    rw [list_empty] at present
    exact absurd present List.not_mem_nil

theorem IsTidy.remove (tidy : store.IsTidy) {current : Object kind}
    (present : current ∈ store.list kind) : (store.remove current).IsTidy where
  indexed := tidy.indexed.remove tidy.keys.nulFree present
  keys := fun read object remains => tidy.keys read object (mem_list_of_mem_list_remove remains)
  labels := fun read object remains =>
    tidy.labels read object (mem_list_of_mem_list_remove remains)

theorem IsTidy.with_lastVersion (tidy : store.IsTidy) (version : Nat) :
    ({ store with lastVersion := version } : Store).IsTidy where
  indexed := by simpa [IsIndexed] using tidy.indexed
  keys := by simpa [HasPlainKeys] using tidy.keys
  labels := by simpa using tidy.labels

theorem IsTidy.change (tidy : store.IsTidy) {request : Request} (plain : request.IsPlain)
    {issue : Option Issue} (change : store.Change request issue after) : after.IsTidy := by
  cases change with
  | idle => exact tidy
  | @written kind previous next isPrevious isNext header =>
      have ofNext : next.key.IsPlain ∧ next.metadata.labels.ArePlain := by
        rcases header with brought | ⟨stored, present, sameKey, sameLabels⟩
        · exact plain.brings brought
        · rw [sameKey, sameLabels]
          exact ⟨tidy.keys kind stored present, tidy.labels kind stored present⟩
      exact
        { indexed := tidy.indexed.write tidy.keys.nulFree isPrevious
          keys := forall_mem_list_write tidy.keys ofNext.1
          labels := forall_mem_list_write tidy.labels ofNext.2 }
  | spent stored present key => exact (tidy.remove present).with_lastVersion _
  | purged stored present => exact tidy.remove present

/-- The index leads only to objects that have the label. -/
theorem IsTidy.hasLabel_of_mem_labelled (tidy : store.IsTidy) {label value : String}
    (labelFree : '\x00' ∉ label.toList) {object : Object kind}
    (isLabelled : object ∈ store.labelled kind label value) :
    object.metadata.hasLabel label value = true := by
  obtain ⟨label', value', labelMem, sameEntry⟩ :=
    tidy.indexed.exists_label_of_mem_labelled tidy.keys.nulFree isLabelled
  have labelFree' := tidy.labels _ _ (mem_labelled.1 isLabelled).1 _ labelMem
  obtain rfl := label_eq_of_entry_eq labelFree labelFree' sameEntry
  obtain rfl := value_eq_of_entry_eq sameEntry
  exact Metadata.hasLabel_iff.2 labelMem

theorem IsTidy.labelled_eq_filter (tidy : store.IsTidy) {label : String}
    (labelFree : '\x00' ∉ label.toList) (value : String) :
    store.labelled kind label value =
      (store.list kind).filter fun object => object.metadata.hasLabel label value := by
  refine InKeyOrder.eq_of_mem_iff (store.ordered_labelled kind label value)
    (store.inKeyOrder_filter _) fun object => ?_
  rw [List.mem_filter]
  constructor
  · intro isLabelled
    exact ⟨(mem_labelled.1 isLabelled).1, tidy.hasLabel_of_mem_labelled labelFree isLabelled⟩
  · rintro ⟨present, hasLabel⟩
    exact tidy.indexed.mem_labelled_of_hasLabel present hasLabel

theorem IsTidy.listIn_eq_filter (tidy : store.IsTidy) {scope : String}
    (plainScope : IsPlainText scope) :
    store.listIn kind scope =
      (store.list kind).filter fun object => object.metadata.scope = scope := by
  rw [listIn, Table.scan_eq_filter]
  refine List.filter_congr fun object present => ?_
  rw [Bool.eq_iff_iff, decide_eq_true_iff]
  exact ObjectKey.beginsWith_text_iff plainScope (tidy.keys kind object present)

theorem IsTidy.find?_eq_some_iff (tidy : store.IsTidy) {key : ObjectKey} (plain : key.IsPlain)
    {object : Object kind} :
    store.find? kind key = some object ↔ object ∈ store.list kind ∧ object.key = key := by
  constructor
  · intro found
    have present := mem_list_of_find? found
    exact ⟨present, ObjectKey.eq_of_text_eq (tidy.keys kind object present) plain
      (keyText_of_find? found)⟩
  · rintro ⟨present, rfl⟩
    exact find?_key_of_mem present

/-- What a reader is told who is to get the objects: all of them if each can be read back from its
text, and else that one cannot. -/
structure Tells (answer : Except StoreError (List (Object kind))) (objects : List (Object kind)) :
    Prop where
  ok_iff : ∀ all, answer = .ok all ↔
    all = objects ∧ ∀ object ∈ objects, object.isLegible = true
  error_iff : ∀ error, answer = .error error ↔
    error = .illegible ∧ ∃ object ∈ objects, object.isLegible = false

theorem tells_readAll (objects : List (Object kind)) : Tells (readAll objects) objects :=
  ⟨fun _ => readAll_eq_ok_iff, fun _ => readAll_eq_error_iff⟩

/-- What a reader is told under a key: the object that is stored there, that there is none, or that
the one there cannot be read back. -/
structure TellsUnder (store : Store) (kind : Kind) (key : ObjectKey) : Prop where
  some_iff : ∀ object : Object kind, store.read kind key = .ok (some object) ↔
    object ∈ store.list kind ∧ object.key = key ∧ object.isLegible = true
  none_iff : store.read kind key = .ok none ↔ ∀ object ∈ store.list kind, object.key ≠ key
  error_iff : ∀ error, store.read kind key = .error error ↔
    error = .illegible ∧
      ∃ object ∈ store.list kind, object.key = key ∧ object.isLegible = false

/-- A scan of the kind yields `all`, and the three ways of reading agree with it. -/
structure ReadsLike (store : Store) (kind : Kind) (all : List (Object kind)) : Prop where
  scan : readAll (store.list kind) = .ok all
  ordered : InKeyOrder all
  labelled : ∀ label value, '\x00' ∉ label.toList →
    readAll (store.labelled kind label value) =
      .ok (all.filter fun object => object.metadata.hasLabel label value)
  listIn : ∀ scope, IsPlainText scope →
    readAll (store.listIn kind scope) =
      .ok (all.filter fun object => object.metadata.scope = scope)
  read : ∀ key : ObjectKey, key.IsPlain → ∃ found, store.read kind key = .ok found ∧
    ∀ object, found = some object ↔ object ∈ all ∧ object.key = key

/-- The three ways of reading lead to the objects that a scan would, and a reader is told of them
what each can tell.  They agree with a scan throughout just if every object of the kind can be read
back from its text, which is so for every kind but one. -/
structure ReadsAgree (store : Store) (kind : Kind) : Prop where
  labelled : ∀ label value, '\x00' ∉ label.toList →
    store.labelled kind label value =
      (store.list kind).filter fun object => object.metadata.hasLabel label value
  listIn : ∀ scope, IsPlainText scope →
    store.listIn kind scope =
      (store.list kind).filter fun object => object.metadata.scope = scope
  find : ∀ key : ObjectKey, key.IsPlain → ∀ object,
    store.find? kind key = some object ↔ object ∈ store.list kind ∧ object.key = key
  ordered : InKeyOrder (store.list kind) ∧
    (∀ label value, InKeyOrder (store.labelled kind label value)) ∧
      ∀ scope, InKeyOrder (store.listIn kind scope)
  scanTells : Tells (readAll (store.list kind)) (store.list kind)
  labelledTells : ∀ label value, '\x00' ∉ label.toList →
    Tells (readAll (store.labelled kind label value))
      ((store.list kind).filter fun object => object.metadata.hasLabel label value)
  listInTells : ∀ scope, IsPlainText scope →
    Tells (readAll (store.listIn kind scope))
      ((store.list kind).filter fun object => object.metadata.scope = scope)
  readTells : ∀ key : ObjectKey, key.IsPlain → store.TellsUnder kind key
  readsLike_iff : (∃ all, store.ReadsLike kind all) ↔
    ∀ object ∈ store.list kind, object.isLegible = true
  legible : kind ≠ .scheduling → ∀ object ∈ store.list kind, object.isLegible = true

theorem IsTidy.tellsUnder (tidy : store.IsTidy) (kind : Kind) {key : ObjectKey}
    (plain : key.IsPlain) : store.TellsUnder kind key where
  some_iff := fun object => by
    rw [read_eq_some_iff, tidy.find?_eq_some_iff plain, and_assoc]
  none_iff := by
    rw [read_eq_none_iff, Option.eq_none_iff_forall_ne_some]
    simp only [ne_eq, tidy.find?_eq_some_iff plain, not_and]
  error_iff := fun error => by
    simp only [read_eq_error_iff, tidy.find?_eq_some_iff plain, and_assoc]

/-- When every object can be read back, so can those that any way of reading leads to. -/
theorem IsTidy.readsLike (tidy : store.IsTidy)
    (legible : ∀ object ∈ store.list kind, object.isLegible = true) :
    store.ReadsLike kind (store.list kind) := by
  have ofFilter (kept : Object kind → Bool) :
      readAll ((store.list kind).filter kept) = .ok ((store.list kind).filter kept) :=
    readAll_eq_ok_iff.2 ⟨rfl, fun object objectMem =>
      legible object (List.mem_filter.1 objectMem).1⟩
  exact {
    scan := readAll_eq_ok_iff.2 ⟨rfl, legible⟩
    ordered := (store.table kind).ordered
    labelled := fun label value labelFree => by
      rw [tidy.labelled_eq_filter labelFree]
      exact ofFilter _
    listIn := fun scope plainScope => by
      rw [tidy.listIn_eq_filter plainScope]
      exact ofFilter _
    read := fun key plain => by
      refine ⟨store.find? kind key, ?_, fun object => tidy.find?_eq_some_iff plain⟩
      cases isStored : store.find? kind key with
      | none => exact read_eq_none_iff.2 isStored
      | some stored =>
          exact read_eq_some_iff.2 ⟨isStored, legible stored (mem_list_of_find? isStored)⟩ }

theorem IsTidy.readsAgree (tidy : store.IsTidy) (kind : Kind) : store.ReadsAgree kind where
  labelled := fun _ value labelFree => tidy.labelled_eq_filter labelFree value
  listIn := fun _ plainScope => tidy.listIn_eq_filter plainScope
  find := fun _ plain _ => tidy.find?_eq_some_iff plain
  ordered := ⟨(store.table kind).ordered, store.ordered_labelled kind, fun scope =>
    (store.table kind).scan_ordered (scope ++ "/")⟩
  scanTells := tells_readAll _
  labelledTells := fun label value labelFree => by
    rw [tidy.labelled_eq_filter labelFree]
    exact tells_readAll _
  listInTells := fun scope plainScope => by
    rw [tidy.listIn_eq_filter plainScope]
    exact tells_readAll _
  readTells := fun _ plain => tidy.tellsUnder kind plain
  readsLike_iff := by
    constructor
    · rintro ⟨all, like⟩
      exact (readAll_eq_ok_iff.1 like.scan).2
    · exact fun legible => ⟨_, tidy.readsLike legible⟩
  legible := fun other object _ => object.isLegible_of_ne other

end Store

namespace History

/-- In every history of plain requests, every way of reading leads to what a scan of the kind would,
and tells what it can of it. -/
theorem reads_agree_with_scan {requests : List Request}
    (plain : ∀ request ∈ requests, request.IsPlain) (kind : Kind) :
    (ofRequests requests).store.ReadsAgree kind := by
  have tidy : (ofRequests requests).store.IsTidy := by
    refine foldl_induction (fun history => history.store.IsTidy) Request.IsPlain ?_
      Store.isTidy_empty plain
    intro history request isPlain tidy issue store change
    exact tidy.change isPlain change
  exact tidy.readsAgree kind

/-- Two targets come with one label; then that of the first is changed, and the second goes. -/
def relabelling : List Request :=
  let target (name zone : String) (version : Nat) : Target :=
    { metadata := { name, labels := Labels.set .empty "zone" zone, resourceVersion := version }
      spec := { priority := 1 }
      status := {} }
  let suffix := (scatteredSuffixes 0).value
  [.create (target "east" "a" 0) 5 suffix, .create (target "west" "a" 0) 6 suffix,
    .update (target "east" "b" 1), .delete .target ⟨"", "west"⟩ 7]

/-- The keys of the objects that a reader gets, if it gets any answer. -/
def keysRead? {kind : Kind} (objects : List (Object kind)) : Option (List String) :=
  (Store.readAll objects).toOption.map (·.map Object.keyText)

theorem reads_agree_with_scan_once_relabelled :
    let store := (ofRequests relabelling).store
    (∀ request ∈ relabelling, request.IsPlain) ∧ store.ReadsAgree .target ∧
      keysRead? (store.list .target) = some ["/east"] ∧
      keysRead? (store.labelled .target "zone" "b") = some ["/east"] ∧
      keysRead? (store.labelled .target "zone" "a") = some [] ∧
      ∃ all, store.ReadsLike .target all := by
  intro store
  have plain : ∀ request ∈ relabelling, request.IsPlain := by decide +kernel
  have agree := reads_agree_with_scan plain .target
  exact ⟨plain, agree, by decide +kernel, by decide +kernel, by decide +kernel,
    agree.readsLike_iff.2 (agree.legible (by decide))⟩

/-- Scheduling rules come that anybody can read, and then some with too many negations inside each
other. -/
def nesting : List Request :=
  let scheduling (scope name zone : String) (depth : Nat) : Scheduling :=
    { metadata := { name, scope, labels := Labels.set .empty "zone" zone }
      spec := ⟨[⟨1, [], [Nat.repeat .negation depth (.matchTenant "tenant01")]⟩]⟩
      status := () }
  let suffix := (scatteredSuffixes 0).value
  [.create (scheduling "fleet" "open" "a" 0) 5 suffix,
    .create (scheduling "yard" "deep" "b" 121) 6 suffix]

/-- Once rules are stored that cannot be read back, a scan fails, though the rules beside them are
read in each of the other ways. -/
theorem reads_disagree_with_scan_once_nested :
    let store := (ofRequests nesting).store
    (∀ request ∈ nesting, request.IsPlain) ∧
      Store.readAll (store.list .scheduling) = .error .illegible ∧
      keysRead? (store.labelled .scheduling "zone" "a") = some ["fleet/open"] ∧
      keysRead? (store.listIn .scheduling "fleet") = some ["fleet/open"] ∧
      (∃ found, store.read .scheduling ⟨"fleet", "open"⟩ = .ok (some found)) ∧
      store.read .scheduling ⟨"yard", "deep"⟩ = .error .illegible ∧
      ¬ ∃ all, store.ReadsLike .scheduling all := by
  intro store
  have failed : Store.readAll (store.list .scheduling) = .error .illegible :=
    Store.readAll_eq_error_iff.2 ⟨rfl, by decide +kernel⟩
  have isOpen : ∃ found, store.find? .scheduling ⟨"fleet", "open"⟩ = some found ∧
      found.isLegible = true := Option.any_eq_true _ _ |>.1 (by decide +kernel)
  have isDeep : ∃ found, store.find? .scheduling ⟨"yard", "deep"⟩ = some found ∧
      (!found.isLegible) = true := Option.any_eq_true _ _ |>.1 (by decide +kernel)
  refine ⟨by decide +kernel, failed, by decide +kernel, by decide +kernel, ?plainRules,
    ?deepRules, ?differ⟩
  case plainRules =>
    obtain ⟨found, isFound⟩ := isOpen
    exact ⟨found, Store.read_eq_some_iff.2 isFound⟩
  case deepRules =>
    obtain ⟨found, isFound, illegible⟩ := isDeep
    exact Store.read_eq_error_iff.2 ⟨rfl, found, isFound, by simpa using illegible⟩
  case differ =>
    rintro ⟨all, like⟩
    rw [like.scan] at failed
    contradiction

end History

end TenantFleet
