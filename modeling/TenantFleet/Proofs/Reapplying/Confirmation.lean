import TenantFleet.Proofs.Derivation.Validity
import TenantFleet.Proofs.Passes.UserUpdates

/-!
# Versions that say nothing new

A user's version of a stored object may say no more than what is stored.  Review
accepts it, since it accepted what is stored, and the store writes it at the next
resource version and leaves all else as it is.  The index of labels stays as well,
as long as it has the entries of the object.
-/

namespace TenantFleet

variable {kind : Kind}

/-- The object at another resource version. -/
def Object.touched (object : Object kind) (version : Nat) : Object kind :=
  { object with metadata := { object.metadata with resourceVersion := version } }

namespace Store

variable {store after : Store}

/-- The store in which the object has the next resource version and all else is as it was. -/
def touched (store : Store) (stored : Object kind) : Store :=
  { store.withTable kind ((store.table kind).insert (stored.touched (store.lastVersion + 1))) with
    lastVersion := store.lastVersion + 1 }

/-- The index has all entries of the object. -/
def Lists (store : Store) (object : Object kind) : Prop :=
  ∀ entry ∈ indexEntries object, entry ∈ store.labelIndex.entries

theorem IsIndexed.lists (indexed : store.IsIndexed) {object : Object kind}
    (present : object ∈ store.list kind) : store.Lists object :=
  fun entry own => (indexed entry).2 ⟨kind, object, present, own⟩

/-- What has been written is in the index with all its labels. -/
theorem lists_write_self (store : Store) (previous : Option (Object kind)) (object : Object kind) :
    (store.write previous object).Lists object :=
  fun _ own => mem_reindexed.2 (.inl own)

/-- The object has been written at the next resource version, and all else is as it was, but for
entries of the object that the index has lacked. -/
structure Touches (store after : Store) (stored : Object kind) : Prop where
  tables : ∀ read, after.table read = (store.touched stored).table read
  lastVersion : after.lastVersion = store.lastVersion + 1
  whole : store.Lists stored → after = store.touched stored

/-- The entries of an object are in the index already, and are put back as they are taken out. -/
theorem reindexed_touched {stored : Object kind} {version : Nat} (listed : store.Lists stored) :
    store.reindexed (some stored) (some (stored.touched version)) = store.labelIndex := by
  refine Table.eq_of_mem_iff fun entry => mem_reindexed.trans ?_
  change entry ∈ indexEntries stored ∨
    entry ∈ store.labelIndex.entries ∧ entry ∉ indexEntries stored ↔ _
  constructor
  · rintro (own | ⟨other, -⟩)
    · exact listed entry own
    · exact other
  · intro wasListed
    by_cases own : entry ∈ indexEntries stored
    · exact .inl own
    · exact .inr ⟨wasListed, own⟩

theorem touches_write (store : Store) (stored : Object kind) :
    store.Touches (store.write (some stored) (stored.touched (store.lastVersion + 1))) stored where
  tables read := by cases kind <;> cases read <;> rfl
  lastVersion := rfl
  whole listed := by
    unfold write touched
    rw [reindexed_touched listed, ← labelIndex_withTable store kind]

end Store

/-! ### The control plane's part of a header -/

namespace Labels

theorem find?_withManaged (labels stored : Labels) (name : String) :
    (labels.withManaged stored).find? name =
      (labels.find? name).or (if beginsWith managedStem name then stored.find? name else none) :=
  find?_foldl_withManagedEntry name stored.entries labels

/-- Managed labels that were added are not added again. -/
theorem withManaged_withManaged (labels stored : Labels) :
    labels.withManaged (labels.withManaged stored) = labels.withManaged stored := by
  refine Table.ext_find? fun name => ?_
  simp only [find?_withManaged]
  cases labels.find? name <;> cases beginsWith managedStem name <;> simp

theorem withManaged_self (labels : Labels) : labels.withManaged labels = labels := by
  refine Table.ext_find? fun name => ?_
  rw [find?_withManaged]
  cases labels.find? name <;> simp

end Labels

/-- The version says nothing that is not stored: with the control plane's part its header is the
stored one, apart from what the store sees to, and with the defaults its spec is the stored one. -/
structure Object.Confirms (version stored : Object kind) : Prop where
  header : version.metadata.withManaged stored.metadata =
    { stored.metadata with
      generation := version.metadata.generation
      creationTime := version.metadata.creationTime
      deletionTime := version.metadata.deletionTime }
  spec : version.withDefaults.spec = stored.spec

namespace Object.Confirms

variable {version stored complete : Object kind}

theorem key_eq (confirms : version.Confirms stored) : version.key = stored.key :=
  (congrArg Metadata.key confirms.header :)

theorem replacement_eq (confirms : version.Confirms stored) (store : Store)
    (sameMetadata : complete.metadata = version.metadata.withManaged stored.metadata)
    (sameSpec : complete.spec = version.withDefaults.spec) :
    store.replacement stored complete = stored.touched (store.lastVersion + 1) := by
  have spec : complete.spec = stored.spec := sameSpec.trans confirms.spec
  have header := sameMetadata.trans confirms.header
  simp [Store.replacement, touched, header, spec]

/-- What is stored, complete as it is, confirms itself. -/
theorem refl (complete : stored.withDefaults = stored) : stored.Confirms stored where
  header := by simp [Metadata.withManaged, Labels.withManaged_self]
  spec := congrArg Object.spec complete

/-- What is created from a version with a name is confirmed by the version. -/
theorem of_created (store : Store) {name : String} (now : Nat)
    (unversioned : version.metadata.resourceVersion = 0) (isName : name = version.metadata.name)
    (sameMetadata : complete.metadata = version.metadata)
    (sameSpec : complete.spec = version.withDefaults.spec) :
    version.Confirms (store.initialObject complete name now) where
  header := by
    simp [Metadata.withManaged, Store.initialObject, unversioned, isName, sameMetadata,
      Labels.withManaged_self]
  spec := sameSpec.symm

/-- What a version has made of a stored object is confirmed by the version. -/
theorem of_updated (store : Store) (unversioned : version.metadata.resourceVersion = 0)
    (sameMetadata : complete.metadata = version.metadata.withManaged stored.metadata)
    (sameSpec : complete.spec = version.withDefaults.spec) :
    version.Confirms (store.replacement stored complete) where
  header := by
    simp [Metadata.withManaged, Store.replacement, unversioned, sameMetadata,
      Labels.withManaged_withManaged]
  spec := sameSpec.symm

end Object.Confirms

/-! ### Applying such a version -/

/-- The store has the object, which is to stay, and the version says nothing new about it. -/
structure Store.Knows (store : Store) (version stored : Object kind) : Prop where
  present : stored ∈ store.list kind
  kept : Store.isSpent stored = false
  confirms : version.Confirms stored

theorem Workload.changeErrors_self (workload : Workload) (path : FieldPath) :
    workload.changeErrors workload path = [] := by
  cases isTolerant : workload.highAvailability <;> simp [changeErrors, isTolerant, reportIf]

/-- Nothing is to be said against a change that leaves the spec. -/
theorem Object.changeErrors_of_sameSpec {next stored : Object kind}
    (sameSpec : next.spec = stored.spec) : next.changeErrors stored = [] := by
  cases kind with
  | deployment | tenantInstance | registration =>
      simp [changeErrors, sameSpec, reportIf, Workload.changeErrors_self]
  | tenantSpace | target | scheduling => rfl

namespace Store.Knows

variable {store : Store} {world : World} {version stored : Object kind}

theorem isFound (knows : store.Knows version stored) :
    store.find? kind version.key = some stored := by
  rw [knows.confirms.key_eq]
  exact find?_key_of_mem knows.present

theorem runOn_update {complete : Object kind} (knows : world.store.Knows version stored)
    (legible : stored.isLegible = true)
    (sameMetadata : complete.metadata = version.metadata.withManaged stored.metadata)
    (sameSpec : complete.spec = version.withDefaults.spec) :
    let touched := stored.touched (world.store.lastVersion + 1)
    (World.update complete).runOn world =
      (.ok touched, world.commit (world.store.write (some stored) touched)) := by
  intro touched
  have header := sameMetadata.trans knows.confirms.header
  have sameKey : complete.key = stored.key := (congrArg Metadata.key header).trans rfl
  have sameVersion : complete.metadata.resourceVersion = stored.metadata.resourceVersion :=
    (congrArg Metadata.resourceVersion header).trans rfl
  have done := update_of_mem knows.present legible sameKey sameVersion
  have isTouched := knows.confirms.replacement_eq world.store sameMetadata sameSpec
  have kept : isSpent touched = false := knows.kept
  rw [isTouched, supplant_of_kept kept] at done
  exact World.runOn_update_of_ok done

theorem read_eq (knows : store.Knows version stored) (legible : stored.isLegible = true) :
    store.read kind version.key = .ok (some stored) := by
  simp [read, knows.isFound, legible]

/-- Review has nothing to say against the version, since it had nothing to say against what is
stored. -/
theorem reviewUpdate_eq (knows : store.Knows version stored) (named : stored.metadata.name ≠ "")
    (faultless : stored.errors = []) :
    ∃ complete, Admission.reviewUpdate stored version = .ok complete ∧
      complete.metadata = version.metadata.withManaged stored.metadata ∧
      complete.spec = version.withDefaults.spec := by
  let merged : Object kind :=
    { version with metadata := version.metadata.withManaged stored.metadata }
  have sameMetadata : merged.withDefaults.metadata = merged.metadata := merged.metadata_withDefaults
  have sameSpec : merged.withDefaults.spec = version.withDefaults.spec :=
    Object.spec_withDefaults_of_sameNamespace rfl rfl
  have sameKey : merged.withDefaults.key = stored.key :=
    (congrArg Metadata.key (sameMetadata.trans knows.confirms.header)).trans rfl
  have storedSpec := sameSpec.trans knows.confirms.spec
  have noErrors := (Object.errors_congr named sameKey storedSpec).trans faultless
  have noChange := Object.changeErrors_of_sameSpec storedSpec
  refine ⟨merged.withDefaults, ?_, sameMetadata, sameSpec⟩
  exact Object.acceptedWith_of_nil (List.append_eq_nil_iff.2 ⟨noErrors, noChange⟩)

theorem runOn_revise (knows : world.store.Knows version stored)
    (legible : stored.isLegible = true) (named : stored.metadata.name ≠ "")
    (faultless : stored.errors = []) :
    let touched := stored.touched (world.store.lastVersion + 1)
    (Admission.update version).runOn world =
      (.ok touched, world.commit (world.store.write (some stored) touched)) := by
  obtain ⟨complete, reviewed, sameMetadata, sameSpec⟩ := knows.reviewUpdate_eq named faultless
  unfold Admission.update
  rw [Pass.runOn_bind, Pass.runOn_mapError, World.runOn_reading, knows.read_eq legible,
    Pass.mapError_ok]
  simp only
  rw [Admission.runOn_ofReview_bind, reviewed]
  simp only
  rw [Pass.runOn_mapError, knows.runOn_update legible sameMetadata sameSpec]
  rfl

/-- The version is applied as an update, which touches the object. -/
theorem runOn_apply (knows : world.store.Knows version stored)
    (legible : stored.isLegible = true) (named : stored.metadata.name ≠ "")
    (faultless : stored.errors = []) :
    let touched := stored.touched (world.store.lastVersion + 1)
    (Admission.apply version).runOn world =
      (.ok (.updated, touched), world.commit (world.store.write (some stored) touched)) := by
  have sameName : version.metadata.name = stored.metadata.name :=
    congrArg ObjectKey.name knows.confirms.key_eq
  unfold Admission.apply
  rw [if_neg (sameName ▸ named), Pass.runOn_bind, Pass.runOn_mapError, World.runOn_reading,
    knows.read_eq legible, Pass.mapError_ok]
  simp only [Option.isSome_some, if_true]
  rw [Pass.runOn_bind, knows.runOn_revise legible named faultless]
  rfl

theorem runOn_applyScheduling {draft : SchedulingDraft} {scheduling stored : Scheduling}
    (accepted : draft.reviewed = .ok scheduling)
    (knows : world.store.Knows scheduling stored)
    (legible : Object.isLegible stored = true) :
    let touched := Object.touched stored (world.store.lastVersion + 1)
    (Admission.applyScheduling draft).runOn world =
      (.ok (.updated, touched), world.commit (world.store.write (some stored) touched)) := by
  intro touched
  let next : Scheduling :=
    { scheduling with metadata := scheduling.metadata.withManaged stored.metadata }
  have updating : (World.update next).runOn world =
      (.ok touched, world.commit (world.store.write (some stored) touched)) :=
    knows.runOn_update legible rfl rfl
  unfold Admission.applyScheduling
  rw [Admission.runOn_ofReview_bind, accepted]
  simp only
  rw [Pass.runOn_bind, Pass.runOn_mapError, World.runOn_reading, knows.read_eq legible,
    Pass.mapError_ok]
  simp only
  rw [Pass.runOn_bind, Pass.runOn_mapError, updating]
  rfl

end Store.Knows

/-! ### What was applied -/

namespace Admission

variable {world after : World} {version stored complete first : Object kind}

/-- Review finds in what is stored what it found in the completed version. -/
theorem errors_of_confirms (confirms : version.Confirms stored)
    (named : complete.metadata.name ≠ "") (sameKey : complete.key = version.key)
    (sameSpec : complete.spec = version.withDefaults.spec) (faultless : complete.errors = []) :
    stored.errors = [] := by
  have storedKey : stored.key = complete.key := confirms.key_eq.symm.trans sameKey.symm
  have storedSpec : stored.spec = complete.spec := confirms.spec.symm.trans sameSpec.symm
  exact (Object.errors_congr named storedKey storedSpec).trans faultless

theorem knows_of_create (named : version.metadata.name ≠ "")
    (unversioned : version.metadata.resourceVersion = 0)
    (sameMetadata : complete.metadata = version.metadata)
    (sameSpec : complete.spec = version.withDefaults.spec)
    (ran : (World.create complete).runOn world = (.ok first, after)) :
    after.store.Knows version first ∧ after.store.Lists first := by
  obtain ⟨store, done, rfl⟩ := World.exists_of_create_ok ran
  obtain ⟨name, hasName, rfl, -, rfl⟩ := Store.stored_of_create done
  have names := Store.nameFor_eq_ok hasName
  rw [sameMetadata] at names
  have isName := (names.resolve_right fun completed => named completed.1).2
  exact ⟨⟨Store.mem_list_write_self _ _ _, rfl,
    .of_created world.store _ unversioned isName sameMetadata sameSpec⟩,
    Store.lists_write_self _ _ _⟩

theorem knows_of_update (unspent : world.store.IsUnspent)
    (unversioned : version.metadata.resourceVersion = 0)
    (isFound : world.store.find? kind version.key = some stored)
    (sameMetadata : complete.metadata = version.metadata.withManaged stored.metadata)
    (sameSpec : complete.spec = version.withDefaults.spec)
    (isFirst : first = world.store.replacement stored complete)
    (isAfter : after.store = world.store.supplant stored first) :
    after.store.Knows version first ∧ after.store.Lists first := by
  have kept : Store.isSpent first = false :=
    isFirst ▸ isSpent_replacement world.store sameMetadata
      (unspent kind stored (Store.mem_list_of_find? isFound))
  have confirms := Object.Confirms.of_updated world.store unversioned sameMetadata sameSpec
  rw [isAfter, Store.supplant_of_kept kept]
  exact ⟨⟨Store.mem_list_write_self _ _ _, kept, isFirst ▸ confirms⟩, Store.lists_write_self _ _ _⟩

/-- What a version with a name was accepted as. -/
theorem knows_of_apply {effect : ApplyEffect} (unspent : world.store.IsUnspent)
    (named : version.metadata.name ≠ "") (unversioned : version.metadata.resourceVersion = 0)
    (ran : (apply version).runOn world = (.ok (effect, first), after)) :
    after.store.Knows version first ∧ after.store.Lists first ∧ first.errors = [] := by
  unfold apply at ran
  rw [if_neg named] at ran
  obtain ⟨found, middle, reading, applying⟩ := Pass.exists_of_bind_ok ran
  obtain ⟨isFound, rfl⟩ := eq_of_read_ok reading
  cases found with
  | none =>
      obtain ⟨created, creating, answered⟩ := Pass.exists_of_answer_ok applying
      obtain rfl : first = created := congrArg Prod.snd answered
      obtain ⟨complete, last, reviewing, writing⟩ := Pass.exists_of_bind_ok creating
      obtain ⟨accepted, rfl⟩ := eq_of_review_ok reviewing
      obtain ⟨rfl, faultless⟩ := Object.eq_of_acceptedWith accepted
      have sameMetadata := version.metadata_withDefaults
      obtain ⟨knows, lists⟩ := knows_of_create named unversioned sameMetadata rfl
        (Pass.runOn_of_mapError_ok writing)
      exact ⟨knows, lists, errors_of_confirms knows.confirms (sameMetadata ▸ named)
        (congrArg Metadata.key sameMetadata) rfl faultless⟩
  | some stored =>
      obtain ⟨updated, updating, answered⟩ := Pass.exists_of_answer_ok applying
      obtain rfl : first = updated := congrArg Prod.snd answered
      obtain ⟨stored, complete, isStored, sameMetadata, sameSpec, faultless, isUpdated, isAfter⟩ :=
        exists_replacement_of_update updating
      obtain ⟨knows, lists⟩ := knows_of_update unspent unversioned isStored sameMetadata
        sameSpec isUpdated isAfter
      have sameName : complete.metadata.name = version.metadata.name :=
        (congrArg Metadata.name sameMetadata).trans rfl
      exact ⟨knows, lists, errors_of_confirms knows.confirms (sameName ▸ named)
        ((congrArg Metadata.key sameMetadata).trans rfl) sameSpec faultless⟩

theorem knows_of_applyScheduling {draft : SchedulingDraft} {scheduling first : Scheduling}
    {effect : ApplyEffect} (unspent : world.store.IsUnspent)
    (accepted : draft.reviewed = .ok scheduling)
    (unversioned : scheduling.metadata.resourceVersion = 0)
    (ran : (applyScheduling draft).runOn world = (.ok (effect, first), after)) :
    after.store.Knows scheduling first ∧ after.store.Lists first := by
  have named : scheduling.metadata.name ≠ "" := by
    obtain ⟨admissible, rfl⟩ := SchedulingDraft.eq_ofScheduling_of_reviewed accepted
    exact admissible.1
  obtain ⟨reviewed, begun, reviewing, applying⟩ := Pass.exists_of_bind_ok ran
  obtain ⟨acceptedToo, rfl⟩ := eq_of_review_ok reviewing
  obtain rfl : scheduling = reviewed := Except.ok.inj (accepted.symm.trans acceptedToo)
  obtain ⟨found, middle, reading, writing⟩ := Pass.exists_of_bind_ok applying
  obtain ⟨isFound, rfl⟩ := eq_of_read_ok reading
  cases found with
  | none =>
      obtain ⟨created, creating, answered⟩ := Pass.exists_of_answer_ok writing
      obtain rfl : first = created := congrArg Prod.snd answered
      exact knows_of_create named unversioned rfl rfl (Pass.runOn_of_mapError_ok creating)
  | some stored =>
      obtain ⟨updated, updating, answered⟩ := Pass.exists_of_answer_ok writing
      obtain rfl : first = updated := congrArg Prod.snd answered
      obtain ⟨store, done, rfl⟩ := World.exists_of_update_ok (Pass.runOn_of_mapError_ok updating)
      let next : Scheduling :=
        { scheduling with metadata := scheduling.metadata.withManaged stored.metadata }
      have sameMetadata : next.metadata = scheduling.metadata.withManaged stored.metadata := rfl
      have sameSpec : next.spec = (Object.withDefaults scheduling).spec := rfl
      obtain ⟨isUpdated, isAfter⟩ := eq_supplant_of_update isFound sameMetadata done
      exact knows_of_update unspent unversioned isFound sameMetadata sameSpec isUpdated isAfter

end Admission

end TenantFleet
