import TenantFleet.Lifecycle.Failure
import TenantFleet.Proofs.Store.Frame

/-!
# Running passes

What the pieces of a pass do to a world, one equation for each, and the
relation of a world to those that work on it leads to by writes of a given
sort.  Since the journal keeps every store that a write left, what each write
of the sort preserves holds of all of them, wherever a pass is cut off.
-/

namespace TenantFleet

namespace Pass

variable {ε δ α β : Type}

/-- The outcome of work on a world, and the world that it leaves. -/
def runOn (pass : Pass ε α) (world : World) : Except ε α × World :=
  pass.run.run world

theorem runOn_bind (pass : Pass ε α) (next : α → Pass ε β) (world : World) :
    (pass >>= next).runOn world =
      match pass.runOn world with
      | (.ok value, middle) => (next value).runOn middle
      | (.error error, middle) => (.error error, middle) := by
  change (ExceptT.bindCont next (pass.runOn world).1 (pass.runOn world).2 :
    Except ε β × World) = _
  cases pass.runOn world with
  | mk outcome middle => cases outcome <;> rfl

theorem runOn_discard (pass : Pass ε α) (world : World) :
    (discard pass).runOn world =
      match pass.runOn world with
      | (.ok _, middle) => (.ok (), middle)
      | (.error error, middle) => (.error error, middle) := by
  change (pass >>= fun _ => pure ()).runOn world = _
  rw [runOn_bind]
  rfl

/-- What follows a discarded value may as well be given it. -/
theorem runOn_discard_bind (pass : Pass ε α) (next : Pass ε β) (world : World) :
    (discard pass >>= fun _ => next).runOn world = (pass >>= fun _ => next).runOn world := by
  rw [runOn_bind, runOn_bind, runOn_discard]
  cases pass.runOn world with
  | mk outcome middle => cases outcome <;> rfl

/-- Work without failures is carried out, and its value handed on. -/
theorem runOn_lift_bind (work : StateM World α) (next : α → Pass ε β) (world : World) :
    (liftM work >>= next : Pass ε β).runOn world =
      (next (work world).1).runOn (work world).2 := rfl

/-- What is done with the store as it is. -/
theorem runOn_readStore_bind (next : Store → Pass ε β) (world : World) :
    (liftM World.readStore >>= next : Pass ε β).runOn world = (next world.store).runOn world :=
  rfl

theorem mapError_ok (convert : ε → δ) (value : α) :
    (Except.ok value : Except ε α).mapError convert = .ok value := rfl

theorem runOn_mapError (convert : ε → δ) (pass : Pass ε α) (world : World) :
    (pass.mapError convert).runOn world =
      ((pass.runOn world).1.mapError convert, (pass.runOn world).2) := by
  change (Except.mapError convert (pass.runOn world).1, (pass.runOn world).2) = _
  rfl

theorem runOn_during (operation : Operation) (step : PassStep) (pass : Pass StoreError α)
    (world : World) :
    (pass.during operation step).runOn world =
      ((pass.runOn world).1.mapError fun error => ⟨operation, step, .store error⟩,
        (pass.runOn world).2) :=
  runOn_mapError _ pass world

theorem runOn_attempt (pass : Pass ε α) (world : World) :
    (pass.attempt : Pass δ (Except ε α)).runOn world =
      (.ok (pass.runOn world).1, (pass.runOn world).2) := rfl

theorem runOn_onFailure (pass : Pass ε α) (record : ε → StateM World Unit) (world : World) :
    (pass.onFailure record).runOn world =
      match pass.runOn world with
      | (.ok outcome, after) => (.ok outcome, after)
      | (.error error, after) => (.error error, (record error after).2) := by
  have ran : pass.run.run world = pass.runOn world := rfl
  unfold onFailure
  rw [runOn, ExceptT.run_mk, StateT.run_bind, ran]
  cases pass.runOn world with
  | mk outcome after => cases outcome <;> rfl

theorem runOn_of_mapError_ok {convert : ε → δ} {pass : Pass ε α} {world after : World} {value : α}
    (ran : (pass.mapError convert).runOn world = (.ok value, after)) :
    pass.runOn world = (.ok value, after) := by
  rw [runOn_mapError] at ran
  cases direct : pass.runOn world with
  | mk outcome middle =>
      rw [direct] at ran
      cases outcome with
      | ok same =>
          cases ran
          rfl
      | error error => cases ran

theorem exists_of_mapError_error {convert : ε → δ} {pass : Pass ε α} {world after : World}
    {error : δ} (failed : (pass.mapError convert).runOn world = (.error error, after)) :
    ∃ first, error = convert first ∧ pass.runOn world = (.error first, after) := by
  rw [runOn_mapError] at failed
  cases direct : pass.runOn world with
  | mk outcome middle =>
      rw [direct] at failed
      cases outcome with
      | ok value => cases failed
      | error first =>
          cases failed
          exact ⟨first, rfl, rfl⟩

/-- Work in two parts that succeeds has succeeded in both. -/
theorem exists_of_bind_ok {pass : Pass ε α} {next : α → Pass ε β} {world after : World} {value : β}
    (ran : (pass >>= next).runOn world = (.ok value, after)) :
    ∃ first middle, pass.runOn world = (.ok first, middle) ∧
      (next first).runOn middle = (.ok value, after) := by
  rw [runOn_bind] at ran
  cases begun : pass.runOn world with
  | mk outcome middle =>
      rw [begun] at ran
      cases outcome with
      | ok first => exact ⟨first, middle, rfl, ran⟩
      | error error => cases ran

/-- Work that succeeds and answers with something made of its value. -/
theorem exists_of_answer_ok {pass : Pass ε α} {answer : α → β} {world after : World} {value : β}
    (ran : (do return answer (← pass) : Pass ε β).runOn world = (.ok value, after)) :
    ∃ first, pass.runOn world = (.ok first, after) ∧ value = answer first := by
  obtain ⟨first, middle, begun, answered⟩ := exists_of_bind_ok ran
  cases answered
  exact ⟨first, begun, rfl⟩

/-- Work in two parts that fails has failed in one of them. -/
theorem exists_of_bind_error {pass : Pass ε α} {next : α → Pass ε β} {world after : World}
    {error : ε} (failed : (pass >>= next).runOn world = (.error error, after)) :
    pass.runOn world = (.error error, after) ∨
      ∃ value middle, pass.runOn world = (.ok value, middle) ∧
        (next value).runOn middle = (.error error, after) := by
  rw [runOn_bind] at failed
  cases begun : pass.runOn world with
  | mk outcome middle =>
      rw [begun] at failed
      cases outcome with
      | ok value => exact .inr ⟨value, middle, rfl, failed⟩
      | error first =>
          cases failed
          exact .inl rfl

theorem exists_of_discard_bind_ok {pass : Pass ε α} {next : Pass ε β} {world after : World}
    {value : β} (ran : (discard pass >>= fun _ => next).runOn world = (.ok value, after)) :
    ∃ first middle, pass.runOn world = (.ok first, middle) ∧
      next.runOn middle = (.ok value, after) := by
  rw [runOn_discard_bind] at ran
  exact exists_of_bind_ok ran

/-- Once a write succeeds, the pass goes on from what it left. -/
theorem runOn_during_bind_of_ok {pass : Pass StoreError α} {value : α} {world middle : World}
    (ran : pass.runOn world = (.ok value, middle)) (operation : Operation) (step : PassStep)
    (next : Pass PassFailure β) :
    (discard (pass.during operation step) >>= fun _ => next).runOn world = next.runOn middle := by
  rw [runOn_discard_bind, runOn_bind, runOn_during, ran]
  rfl

/-- Work whose failure would have been recorded has succeeded by itself. -/
theorem runOn_of_onFailure_ok {pass : Pass ε α} {record : ε → StateM World Unit}
    {world after : World} {outcome : α}
    (ran : (pass.onFailure record).runOn world = (.ok outcome, after)) :
    pass.runOn world = (.ok outcome, after) := by
  rw [runOn_onFailure] at ran
  cases direct : pass.runOn world with
  | mk result middle =>
      rw [direct] at ran
      cases result with
      | ok value => exact ran
      | error error => cases ran

end Pass

namespace Object

variable {kind : Kind}

@[simp]
theorem key_hold (object : Object kind) : object.hold.key = object.key := by
  unfold hold key Metadata.heldBy
  split <;> rfl

@[simp]
theorem resourceVersion_hold (object : Object kind) :
    object.hold.metadata.resourceVersion = object.metadata.resourceVersion := by
  unfold hold Metadata.heldBy
  split <;> rfl

end Object

namespace World

variable {kind : Kind} {world : World}

theorem readStore_bind {α : Type} (next : Store → StateM World α) (world : World) :
    (World.readStore >>= next) world = next world.store world := rfl

theorem runOn_reading {α : Type} (read : Store → Except StoreError α) (world : World) :
    (World.reading read).runOn world = (read world.store, world) := rfl

theorem runOn_create_of_ok {object created : Object kind} {store : Store}
    (done : world.store.create object world.clock.next world.suffixes.ahead =
      .ok (created, store)) :
    (World.create object).runOn world = (.ok created, world.afterDraws.commit store) := by
  simp only [Pass.runOn, ExceptT.run, StateT.run, World.create, done]

theorem runOn_create_of_error {object : Object kind} {error : StoreError}
    (refused : world.store.create object world.clock.next world.suffixes.ahead = .error error) :
    (World.create object).runOn world = (.error error, world.afterDraws) := by
  simp only [Pass.runOn, ExceptT.run, StateT.run, World.create, refused]

theorem runOn_update_of_ok {object updated : Object kind} {store : Store}
    (done : world.store.update object = .ok (updated, store)) :
    (World.update object).runOn world = (.ok updated, world.commit store) := by
  simp only [Pass.runOn, ExceptT.run, StateT.run, World.update, done]

theorem runOn_update_of_error {object : Object kind} {error : StoreError}
    (refused : world.store.update object = .error error) :
    (World.update object).runOn world = (.error error, world) := by
  simp only [Pass.runOn, ExceptT.run, StateT.run, World.update, refused]

theorem exists_of_create_ok {object created : Object kind} {after : World}
    (ran : (World.create object).runOn world = (.ok created, after)) :
    ∃ store, world.store.create object world.clock.next world.suffixes.ahead =
      .ok (created, store) ∧ after = world.afterDraws.commit store := by
  cases done : world.store.create object world.clock.next world.suffixes.ahead with
  | ok result =>
      rw [runOn_create_of_ok done] at ran
      obtain ⟨sameObject, rfl⟩ := Prod.mk.inj ran
      exact ⟨result.2, by rw [← Except.ok.inj sameObject], rfl⟩
  | error refused =>
      rw [runOn_create_of_error done] at ran
      cases ran

theorem exists_of_update_ok {object updated : Object kind} {after : World}
    (ran : (World.update object).runOn world = (.ok updated, after)) :
    ∃ store, world.store.update object = .ok (updated, store) ∧ after = world.commit store := by
  cases done : world.store.update object with
  | ok result =>
      rw [runOn_update_of_ok done] at ran
      obtain ⟨sameObject, rfl⟩ := Prod.mk.inj ran
      exact ⟨result.2, by rw [← Except.ok.inj sameObject], rfl⟩
  | error refused =>
      rw [runOn_update_of_error done] at ran
      cases ran

theorem runOn_setStatus_of_ok {object updated : Object kind} {store : Store}
    (done : world.store.setStatus object = .ok (updated, store)) :
    (World.setStatus object).runOn world = (.ok updated, world.commit store) := by
  simp only [Pass.runOn, ExceptT.run, StateT.run, World.setStatus, done]

theorem runOn_setStatus_of_error {object : Object kind} {error : StoreError}
    (refused : world.store.setStatus object = .error error) :
    (World.setStatus object).runOn world = (.error error, world) := by
  simp only [Pass.runOn, ExceptT.run, StateT.run, World.setStatus, refused]

theorem runOn_delete_of_ok {key : ObjectKey} {removal : Removal} {store : Store}
    (done : world.store.delete kind key world.clock.next = .ok (removal, store)) :
    (World.delete kind key).runOn world = (.ok removal, world.afterRemoval store removal) := by
  simp only [Pass.runOn, ExceptT.run, StateT.run, World.delete, done]

theorem runOn_delete_of_error {key : ObjectKey} {error : StoreError}
    (refused : world.store.delete kind key world.clock.next = .error error) :
    (World.delete kind key).runOn world = (.error error, world) := by
  simp only [Pass.runOn, ExceptT.run, StateT.run, World.delete, refused]

/-- The worlds that work on `before` leads to when each of its writes is of the given sort. -/
inductive Through (sort : Store → Store → Prop) (before : World) : World → Prop
  | idle {after : World} (sameStore : after.store = before.store)
      (sameJournal : after.journal = before.journal) : Through sort before after
  | write {middle after : World} (earlier : Through sort before middle)
      (written : sort middle.store after.store)
      (noted : after.journal = middle.journal ++ [after.store]) : Through sort before after

namespace Through

variable {sort : Store → Store → Prop} {before middle after : World}

theorem refl (world : World) : Through sort world world :=
  .idle rfl rfl

/-- What follows a world that shows the same store and journal. -/
theorem of_same (through : Through sort before middle) (sameStore : after.store = middle.store)
    (sameJournal : after.journal = middle.journal) : Through sort before after := by
  cases through with
  | idle store journal => exact .idle (sameStore.trans store) (sameJournal.trans journal)
  | write earlier written noted =>
      exact .write earlier (sameStore ▸ written) (by rw [sameJournal, noted, sameStore])

theorem trans (first : Through sort before middle) (second : Through sort middle after) :
    Through sort before after := by
  induction second with
  | idle sameStore sameJournal => exact first.of_same sameStore sameJournal
  | write _ written noted ih => exact .write ih written noted

/-- What is done for each of the items, one after the other. -/
theorem foldl {α : Type} {perform : World → α → World} (items : List α) (world : World)
    (each : ∀ item ∈ items, ∀ world, Through sort world (perform world item)) :
    Through sort world (items.foldl perform world) := by
  induction items generalizing world with
  | nil => exact .refl world
  | cons item rest ih =>
      exact (each item List.mem_cons_self world).trans
        (ih (perform world item) fun other otherMem =>
          each other (List.mem_cons_of_mem item otherMem))

theorem of_commit {store : Store} (written : sort before.store store) :
    Through sort before (before.commit store) :=
  .write (refl before) written rfl

theorem of_create {store : Store} (written : sort before.store store) :
    Through sort before (before.afterDraws.commit store) :=
  .write (.idle rfl rfl : Through sort before before.afterDraws) written rfl

theorem of_delete {kind : Kind} {key : ObjectKey} {removal : Removal} {store : Store} {now : Nat}
    (done : before.store.delete kind key now = .ok (removal, store))
    (written : removal ≠ .pending → sort before.store store) :
    Through sort before (before.afterRemoval store removal) := by
  cases removal with
  | pending => exact refl before
  | purged | marked => exact .write (refl before) (written (by simp)) rfl

theorem mono {wider : Store → Store → Prop} (through : Through sort before after)
    (included : ∀ {first second : Store}, sort first second → wider first second) :
    Through wider before after := by
  induction through with
  | idle sameStore sameJournal => exact .idle sameStore sameJournal
  | write _ written noted ih => exact .write ih (included written) noted

/-- Work in two parts, of which the second begins where the first left off. -/
theorem bind {ε α β : Type} {pass : Pass ε α} {next : α → Pass ε β}
    (first : Through sort before (pass.runOn before).2)
    (second : ∀ value middle, pass.runOn before = (.ok value, middle) →
      Through sort middle ((next value).runOn middle).2) :
    Through sort before ((pass >>= next).runOn before).2 := by
  rw [Pass.runOn_bind]
  cases ran : pass.runOn before with
  | mk outcome middle =>
      rw [ran] at first
      cases outcome with
      | ok value => exact first.trans (second value middle ran)
      | error error => exact first

theorem bind_discard {ε α β : Type} {pass : Pass ε α} {next : Pass ε β}
    (first : Through sort before (pass.runOn before).2)
    (second : ∀ value middle, pass.runOn before = (.ok value, middle) →
      Through sort middle (next.runOn middle).2) :
    Through sort before ((discard pass >>= fun _ => next).runOn before).2 := by
  rw [Pass.runOn_discard_bind]
  exact bind first second

theorem onFailure {ε α : Type} {pass : Pass ε α} {record : ε → StateM World Unit}
    (first : Through sort before (pass.runOn before).2)
    (second : ∀ error middle, Through sort middle (record error middle).2) :
    Through sort before ((pass.onFailure record).runOn before).2 := by
  rw [Pass.runOn_onFailure]
  cases ran : pass.runOn before with
  | mk outcome middle =>
      rw [ran] at first
      cases outcome with
      | ok value => exact first
      | error error => exact first.trans (second error middle)

theorem preserves (property : Store → Prop) (through : Through sort before after)
    (preserved : ∀ {first second : Store}, property first → sort first second → property second)
    (atStart : property before.store) : property after.store := by
  induction through with
  | idle sameStore => exact sameStore ▸ atStart
  | write earlier written noted ih => exact preserved ih written

/-- What writes of the sort preserve holds before each of them. -/
theorem within (property : Store → Prop) (through : Through sort before after)
    (preserved : ∀ {first second : Store}, property first → sort first second → property second)
    (atStart : property before.store) :
    Through (fun first second => property first ∧ sort first second) before after := by
  induction through with
  | idle sameStore sameJournal => exact .idle sameStore sameJournal
  | write earlier written noted ih =>
      exact .write ih ⟨earlier.preserves property preserved atStart, written⟩ noted

/-- What writes of the sort preserve holds of the store at the end and of every store that was
left on the way. -/
theorem invariant (property : Store → Prop) (through : Through sort before after)
    (preserved : ∀ {first second : Store}, property first → sort first second → property second)
    (atStart : property before.store) (noted : ∀ store ∈ before.journal, property store) :
    property after.store ∧ ∀ store ∈ after.journal, property store := by
  -- the journal at the end is the one before with the stores of the writes behind it
  induction through with
  | idle sameStore sameJournal =>
      rw [sameStore, sameJournal]
      exact ⟨atStart, noted⟩
  | write earlier written isNoted ih =>
      have holds := preserved ih.1 written
      refine ⟨holds, fun store storeMem => ?_⟩
      rw [isNoted, List.mem_append, List.mem_singleton] at storeMem
      rcases storeMem with earlierMem | rfl
      · exact ih.2 store earlierMem
      · exact holds

end Through

/-- The status of a stored object can be replaced. -/
theorem runOn_setStatus_of_mem {kind : Kind} {world : World} {stored : Object kind}
    (object : Object kind) (present : stored ∈ world.store.list kind)
    (legible : stored.isLegible = true) (sameMetadata : object.metadata = stored.metadata) :
    (World.setStatus object).runOn world =
      (.ok (world.store.restated stored object.status),
        world.commit
          (world.store.write (some stored) (world.store.restated stored object.status))) :=
  runOn_setStatus_of_ok
    (Store.setStatus_of_mem present legible (congrArg Metadata.key sameMetadata)
      (congrArg Metadata.resourceVersion sameMetadata))

theorem runOn_restate {kind : Kind} {world : World} {stored : Object kind}
    (present : stored ∈ world.store.list kind) (legible : stored.isLegible = true)
    (status : kind.Status) :
    (World.setStatus { stored with status := status }).runOn world =
      (.ok (world.store.restated stored status),
        world.commit (world.store.write (some stored) (world.store.restated stored status))) :=
  runOn_setStatus_of_mem { stored with status := status } present legible rfl

/-- The metadata and the spec of a stored object can be replaced. -/
theorem runOn_update_of_mem {kind : Kind} {world : World} {stored : Object kind}
    (object : Object kind) (present : stored ∈ world.store.list kind)
    (legible : stored.isLegible = true) (sameKey : object.key = stored.key)
    (sameVersion : object.metadata.resourceVersion = stored.metadata.resourceVersion) :
    (World.update object).runOn world =
      (.ok (world.store.replacement stored object),
        world.commit (world.store.supplant stored (world.store.replacement stored object))) :=
  runOn_update_of_ok (Store.update_of_mem present legible sameKey sameVersion)

/-- A stored object can be given the finalizer. -/
theorem runOn_hold {kind : Kind} {world : World} {stored : Object kind}
    (present : stored ∈ world.store.list kind) (legible : stored.isLegible = true) :
    (World.update stored.hold).runOn world =
      (.ok (world.store.replacement stored stored.hold),
        world.commit (world.store.supplant stored (world.store.replacement stored stored.hold))) :=
  runOn_update_of_mem stored.hold present legible stored.key_hold stored.resourceVersion_hold

/-- A stored object can be relieved of the finalizer. -/
theorem runOn_letGo {kind : Kind} {world : World} {stored : Object kind}
    (present : stored ∈ world.store.list kind) (legible : stored.isLegible = true) :
    (World.update stored.letGo).runOn world =
      (.ok (world.store.replacement stored stored.letGo),
        world.commit (world.store.supplant stored (world.store.replacement stored stored.letGo))) :=
  runOn_update_of_mem stored.letGo present legible rfl rfl

/-- Telling the time and then writing a status, whatever the store makes of it. -/
theorem through_record {kind : Kind} {world : World} {stored : Object kind}
    {sort : Store → Store → Prop} {status : Nat → kind.Status}
    (present : stored ∈ world.store.list kind) (legible : stored.isLegible = true)
    (allowed : sort world.store
      (world.store.write (some stored) (world.store.restated stored (status world.clock.next)))) :
    Through sort world
      ((do
        let told ← World.now
        (World.setStatus { stored with status := status told }).ignoreOutcome :
          StateM World Unit) world).2 := by
  have looked : Through sort world (World.now world).2 := .idle rfl rfl
  have stillPresent : stored ∈ (World.now world).2.store.list kind := present
  change Through sort world
    ((World.setStatus { stored with status := status world.clock.next }).runOn
      (World.now world).2).2
  rw [runOn_restate stillPresent legible]
  exact looked.trans (.of_commit allowed)

theorem sameBeside_afterRemoval {kind : Kind} {key : ObjectKey} {world : World} {now : Nat}
    {removal : Removal} {store : Store}
    (done : world.store.delete kind key now = .ok (removal, store)) :
    Store.SameBeside kind world.store (world.afterRemoval store removal).store := by
  rcases Store.deletion_of_delete done with ⟨rfl, rfl⟩ | ⟨notPending, stored, -, -, deletion⟩
  · exact .refl world.store
  · cases removal with
    | pending => contradiction
    | purged | marked => exact deletion.sameBeside

end World

end TenantFleet
