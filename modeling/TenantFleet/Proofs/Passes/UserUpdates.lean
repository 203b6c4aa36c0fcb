import TenantFleet.Proofs.Coherence.Documents
import TenantFleet.Proofs.Store.Edit

/-!
# What a user's update leaves of a stored object

A user's version of an object says what the spec, the labels and the annotations
are to be.  Everything else comes from the stored object: the control plane's
part of the header from the admission, the status and the times from the store.
Since nothing spent is stored, an update never removes its object.  A user's
write that is refused, by review or by the store, has changed nothing.
-/

namespace TenantFleet

/-- What a stored object has become by a user's version of it. -/
structure Object.IsRevised {kind : Kind} (stored version next : Object kind) : Prop where
  key : next.key = version.key
  finalizers : next.metadata.finalizers = stored.metadata.finalizers
  owners : next.metadata.owners = stored.metadata.owners
  status : next.status = stored.status
  creationTime : next.metadata.creationTime = stored.metadata.creationTime
  deletionTime : next.metadata.deletionTime = stored.metadata.deletionTime
  labels : ∀ name, next.metadata.label? name =
    (version.metadata.label? name).or
      (if beginsWith managedStem name then stored.metadata.label? name else none)
  annotations : next.metadata.annotations = version.metadata.annotations
  spec : next.spec = version.withDefaults.spec
  generation : next.metadata.generation =
    if version.withDefaults.spec = stored.spec then stored.metadata.generation
    else stored.metadata.generation + 1

/-- One object has been revised, at a version that none has had; all others are as before. -/
structure Store.HasRevised {kind : Kind} (before after : Store)
    (version next : Object kind) : Prop where
  revised : ∃ stored, before.find? kind version.key = some stored ∧ stored.IsRevised version next
  isStored : after.find? kind version.key = some next
  issued : next.metadata.resourceVersion = before.lastVersion + 1
  fresh : ∀ read, ∀ object ∈ before.list read,
    object.metadata.resourceVersion < next.metadata.resourceVersion
  others : ∀ read (key : ObjectKey), read ≠ kind ∨ key.text ≠ version.keyText →
    after.find? read key = before.find? read key

namespace Pass

variable {ε δ α β : Type}

/-- When the work fails, nothing has been written. -/
def FailsClean (pass : Pass ε α) : Prop :=
  ∀ world error after, pass.runOn world = (.error error, after) →
    after.store = world.store ∧ after.journal = world.journal

/-- Work that leaves the world as it is, and then work that fails clean. -/
theorem failsClean_bind {pass : Pass ε α} {next : α → Pass ε β}
    (looks : ∀ world, (pass.runOn world).2 = world) (each : ∀ value, FailsClean (next value)) :
    FailsClean (pass >>= next) := by
  intro world error after failed
  rcases exists_of_bind_error failed with failedFirst | ⟨value, middle, ran, failedNext⟩
  · have same := looks world
    rw [failedFirst] at same
    exact same ▸ ⟨rfl, rfl⟩
  · have same := looks world
    rw [ran] at same
    exact same ▸ each value middle error after failedNext

theorem failsClean_throw (error : ε) : FailsClean (throw error : Pass ε α) := by
  intro world other after failed
  cases failed
  exact ⟨rfl, rfl⟩

namespace FailsClean

variable {pass : Pass ε α}

theorem mapError (clean : FailsClean pass) (convert : ε → δ) :
    FailsClean (pass.mapError convert) := by
  intro world error after failed
  obtain ⟨first, -, direct⟩ := exists_of_mapError_error failed
  exact clean world first after direct

theorem map (clean : FailsClean pass) (report : α → β) :
    FailsClean (pass >>= fun value => pure (report value)) := by
  intro world error after failed
  rcases exists_of_bind_error failed with failedFirst | ⟨value, middle, -, failedNext⟩
  · exact clean world error after failedFirst
  · cases failedNext

end FailsClean

end Pass

namespace World

variable {kind : Kind} (object : Object kind)

theorem failsClean_create : Pass.FailsClean (World.create object) := by
  intro world error after failed
  cases done : world.store.create object world.clock.next world.suffixes.ahead with
  | ok result =>
      rw [World.runOn_create_of_ok done] at failed
      cases failed
  | error refused =>
      rw [World.runOn_create_of_error done] at failed
      cases failed
      exact ⟨rfl, rfl⟩

theorem failsClean_update : Pass.FailsClean (World.update object) := by
  intro world error after failed
  cases done : world.store.update object with
  | ok result =>
      rw [World.runOn_update_of_ok done] at failed
      cases failed
  | error refused =>
      rw [World.runOn_update_of_error done] at failed
      cases failed
      exact ⟨rfl, rfl⟩

end World

namespace Admission

section Refusals

variable {kind : Kind} (object : Object kind)

theorem failsClean_review_bind {α β : Type} (review : Except Rejection α)
    {next : α → Pass WriteRefusal β} (each : ∀ accepted, Pass.FailsClean (next accepted)) :
    Pass.FailsClean (ofReview review >>= next) :=
  Pass.failsClean_bind (fun _ => by cases review <;> rfl) each

theorem failsClean_read_bind {β : Type} (key : ObjectKey)
    {next : Option (Object kind) → Pass WriteRefusal β}
    (each : ∀ found, Pass.FailsClean (next found)) :
    Pass.FailsClean ((World.reading (·.read kind key)).mapError .store >>= next) :=
  Pass.failsClean_bind (fun world => by rw [Pass.runOn_mapError, World.runOn_reading]) each

theorem failsClean_create : Pass.FailsClean (create object) :=
  failsClean_review_bind _ fun accepted => (World.failsClean_create accepted).mapError _

theorem failsClean_update : Pass.FailsClean (update object) := by
  refine failsClean_read_bind object.key fun found => ?_
  cases found with
  | none => exact Pass.failsClean_throw _
  | some stored =>
      exact failsClean_review_bind _ fun accepted => (World.failsClean_update accepted).mapError _

theorem failsClean_apply : Pass.FailsClean (apply object) := by
  have going (found : Option (Object kind)) : Pass.FailsClean
      (if found.isSome then do return (ApplyEffect.updated, ← update object)
        else do return (ApplyEffect.created, ← create object)) := by
    split
    · exact (failsClean_update object).map _
    · exact (failsClean_create object).map _
  unfold apply
  simp only
  split
  · exact going none
  · exact failsClean_read_bind object.key going

theorem failsClean_applyScheduling (draft : SchedulingDraft) :
    Pass.FailsClean (applyScheduling draft) := by
  refine failsClean_review_bind _ fun scheduling => ?_
  refine failsClean_read_bind scheduling.key fun found => ?_
  cases found with
  | none => exact ((World.failsClean_create scheduling).mapError _).map _
  | some stored => exact ((World.failsClean_update _).mapError _).map _

end Refusals

variable {kind : Kind} {object updated : Object kind} {world after : World}

theorem eq_of_review_ok {α : Type} {review : Except Rejection α} {accepted : α}
    (ran : (ofReview review).runOn world = (.ok accepted, after)) :
    review = .ok accepted ∧ after = world := by
  cases review with
  | ok value =>
      cases ran
      exact ⟨rfl, rfl⟩
  | error rejection => cases ran

theorem eq_of_read_ok {key : ObjectKey} {found : Option (Object kind)}
    (ran : ((World.reading (·.read kind key)).mapError WriteRefusal.store).runOn world =
      (.ok found, after)) :
    world.store.find? kind key = found ∧ after = world := by
  have direct := Pass.runOn_of_mapError_ok ran
  rw [World.runOn_reading] at direct
  obtain ⟨isRead, rfl⟩ := Prod.mk.inj direct
  exact ⟨Store.find?_of_read isRead, rfl⟩

/-- An update that succeeds has replaced the stored object of the key. -/
theorem exists_replacement_of_update
    (ran : (update object).runOn world = (.ok updated, after)) :
    ∃ stored complete, world.store.find? kind object.key = some stored ∧
      complete.metadata = object.metadata.withManaged stored.metadata ∧
      complete.spec = object.withDefaults.spec ∧ complete.errors = [] ∧
      updated = world.store.replacement stored complete ∧
      after.store = world.store.supplant stored updated := by
  obtain ⟨found, middle, reading, updating⟩ := Pass.exists_of_bind_ok ran
  obtain ⟨isFound, rfl⟩ := eq_of_read_ok reading
  cases found with
  | none => cases updating
  | some stored =>
      obtain ⟨complete, last, reviewing, writing⟩ := Pass.exists_of_bind_ok updating
      obtain ⟨review, rfl⟩ := eq_of_review_ok reviewing
      obtain ⟨store, done, rfl⟩ := World.exists_of_update_ok (Pass.runOn_of_mapError_ok writing)
      obtain ⟨rfl, unopposed⟩ := Object.eq_of_acceptedWith review
      have sameMetadata := Object.metadata_withDefaults
        { object with metadata := object.metadata.withManaged stored.metadata }
      obtain ⟨isUpdated, isAfter⟩ := eq_supplant_of_update isFound sameMetadata done
      exact ⟨stored, _, isFound, sameMetadata,
        Object.spec_withDefaults_of_sameNamespace rfl rfl, (List.append_eq_nil_iff.1 unopposed).1,
        isUpdated, isAfter⟩

theorem isRevised_replacement (store : Store) {stored complete : Object kind}
    (sameMetadata : complete.metadata = object.metadata.withManaged stored.metadata)
    (sameSpec : complete.spec = object.withDefaults.spec) :
    stored.IsRevised object (store.replacement stored complete) where
  key := (congrArg Metadata.key sameMetadata).trans rfl
  finalizers := (Store.finalizers_replacement store stored complete).trans
    (finalizers_of_update sameMetadata)
  owners := (congrArg Metadata.owners sameMetadata).trans rfl
  status := rfl
  creationTime := rfl
  deletionTime := rfl
  labels name := by
    rw [← Metadata.label?_withManaged, ← sameMetadata]
    rfl
  annotations := (congrArg Metadata.annotations sameMetadata).trans rfl
  spec := sameSpec
  generation := by
    rw [← sameSpec]
    simp only [eq_comm (a := complete.spec), Store.replacement]

theorem hasRevised_of_update (unspent : world.store.IsUnspent) (counted : world.store.IsCounted)
    (ran : (update object).runOn world = (.ok updated, after)) :
    world.store.HasRevised after.store object updated := by
  obtain ⟨stored, complete, isFound, sameMetadata, sameSpec, -, rfl, isAfter⟩ :=
    exists_replacement_of_update ran
  have kept := isSpent_replacement world.store sameMetadata
    (unspent kind stored (Store.mem_list_of_find? isFound))
  have revised := isRevised_replacement world.store sameMetadata sameSpec
  rw [Store.supplant_of_kept kept] at isAfter
  rw [isAfter]
  exact {
    revised := ⟨stored, isFound, revised⟩
    isStored := revised.key ▸ Store.find?_write_self _ _ _
    issued := rfl
    fresh := fun read other present => Nat.lt_succ_of_le (counted read other present)
    others := fun read key different => by
      by_cases sameKind : read = kind
      · subst sameKind
        have otherText : object.keyText ≠ key.text :=
          (different.resolve_left fun otherKind => otherKind rfl).symm
        have sameText : (world.store.replacement stored complete).keyText = object.keyText :=
          congrArg ObjectKey.text revised.key
        rw [Store.find?_write, if_neg (sameText ▸ otherText)]
      · exact Store.find?_write_of_ne _ _ _ sameKind key }

end Admission

end TenantFleet
