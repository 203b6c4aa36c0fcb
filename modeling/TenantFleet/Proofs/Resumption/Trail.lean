import TenantFleet.Proofs.Passes.Running
import TenantFleet.Proofs.Store.Times

/-!
# Passes that are cut off and run again

A pass leaves one store with each write.  It resumes from these stores when,
begun anew from any of them but the last, it leaves the stores that came behind,
but for the times.  To prove this of a pass, one looks at its first write: what
the pass does from then on is what it does when it is begun there.
-/

namespace TenantFleet

namespace Store

variable {first second : Store}

def instanceKeys (store : Store) : List ObjectKey :=
  (store.list .tenantInstance).map Object.key

theorem instanceKeys_timeless (store : Store) :
    store.timeless.instanceKeys = store.instanceKeys := by
  rw [instanceKeys, list_timeless, List.map_map]
  rfl

theorem instanceKeys_eq_of_timeless_eq (same : first.timeless = second.timeless) :
    first.instanceKeys = second.instanceKeys := by
  rw [← instanceKeys_timeless first, same, instanceKeys_timeless]

variable {store : Store} {kind : Kind}

theorem instanceKeys_write_subset {stored next : Object kind} (present : stored ∈ store.list kind)
    (sameKey : next.key = stored.key) :
    (store.write (some stored) next).instanceKeys ⊆ store.instanceKeys := by
  intro key keyMem
  obtain ⟨realised, isListed, rfl⟩ := List.mem_map.1 keyMem
  by_cases sameKind : Kind.tenantInstance = kind
  · subst sameKind
    rcases mem_list_write.1 isListed with rfl | ⟨before, -⟩
    · rw [sameKey]
      exact List.mem_map_of_mem present
    · exact List.mem_map_of_mem before
  · rw [list_write_of_ne store (some stored) next sameKind] at isListed
    exact List.mem_map_of_mem isListed

theorem instanceKeys_remove_subset (store : Store) (current : Object kind) :
    (store.remove current).instanceKeys ⊆ store.instanceKeys := by
  intro key keyMem
  obtain ⟨realised, isListed, rfl⟩ := List.mem_map.1 keyMem
  exact List.mem_map_of_mem (mem_list_of_mem_list_remove isListed)

theorem instanceKeys_supplant_subset {stored next : Object kind}
    (present : stored ∈ store.list kind) (sameKey : next.key = stored.key) :
    (store.supplant stored next).instanceKeys ⊆ store.instanceKeys := by
  unfold supplant
  split
  · rw [instanceKeys, list_with_lastVersion]
    exact instanceKeys_remove_subset store stored
  · exact instanceKeys_write_subset present sameKey

/-- The store once the finalizer is off. -/
def dismissed (store : Store) (stored : Object kind) : Store :=
  store.supplant stored (store.replacement stored stored.letGo)

theorem instanceKeys_dismissed_subset {stored : Object kind} (present : stored ∈ store.list kind) :
    (store.dismissed stored).instanceKeys ⊆ store.instanceKeys :=
  instanceKeys_supplant_subset present rfl

theorem instanceKeys_write_of_ne (store : Store) (previous : Option (Object kind))
    (next : Object kind) (different : Kind.tenantInstance ≠ kind) :
    (store.write previous next).instanceKeys = store.instanceKeys := by
  rw [instanceKeys, list_write_of_ne store previous next different, instanceKeys]

end Store

theorem getLastD_append {α : Type} (front back : List α) (other : α) :
    (front ++ back).getLastD other = back.getLastD (front.getLastD other) := by
  simp only [List.getLastD_eq_getLast?, List.getLast?_append]
  cases back.getLast? <;> rfl

theorem timeless_getLastD {first second : List Store}
    (alike : first.map Store.timeless = second.map Store.timeless) (more : second ≠ [])
    (other other' : Store) :
    (first.getLastD other).timeless = (second.getLastD other').timeless := by
  rcases second.eq_nil_or_concat with isNil | ⟨front, last, rfl⟩
  · exact absurd isNil more
  · rcases first.eq_nil_or_concat with rfl | ⟨front', last', rfl⟩
    · simp at alike
    · simp only [List.concat_eq_append] at alike ⊢
      rw [List.map_append, List.map_append] at alike
      have sameLast := (List.append_inj' alike rfl).2
      rw [getLastD_append, getLastD_append]
      exact List.singleton_inj.1 sameLast

namespace World

variable {before middle after : World} {store : Store} {stores later : List Store}

/-- On the way from one world to the other each write left one of the stores. -/
structure Wrote (before : World) (stores : List Store) (after : World) : Prop where
  noted : after.journal = before.journal ++ stores
  isLast : after.store = stores.getLastD before.store

theorem Wrote.none (sameStore : after.store = before.store)
    (sameJournal : after.journal = before.journal) : before.Wrote [] after :=
  ⟨by rw [sameJournal, List.append_nil], sameStore⟩

theorem Wrote.one (isStore : after.store = store)
    (noted : after.journal = before.journal ++ [store]) : before.Wrote [store] after :=
  ⟨noted, isStore⟩

theorem wrote_commit (world : World) (store : Store) : world.Wrote [store] (world.commit store) :=
  .one rfl rfl

def commitAll (world : World) (stores : List Store) : World :=
  stores.foldl commit world

theorem Wrote.trans (first : before.Wrote stores middle) (second : middle.Wrote later after) :
    before.Wrote (stores ++ later) after := by
  refine ⟨by rw [second.noted, first.noted, List.append_assoc], ?_⟩
  rw [second.isLast, first.isLast, getLastD_append]

theorem wrote_commitAll (world : World) (stores : List Store) :
    world.Wrote stores (world.commitAll stores) := by
  induction stores generalizing world with
  | nil => exact .none rfl rfl
  | cons store later ih => exact (world.wrote_commit store).trans (ih (world.commit store))

/-- What is written after draws is written after none. -/
theorem Wrote.of_same (wrote : middle.Wrote stores after) (sameStore : middle.store = before.store)
    (sameJournal : middle.journal = before.journal) : before.Wrote stores after :=
  ⟨by rw [wrote.noted, sameJournal], by rw [wrote.isLast, sameStore]⟩

theorem Wrote.eq_of_wrote {stores' : List Store} (first : before.Wrote stores after)
    (second : before.Wrote stores' after) : stores = stores' :=
  List.append_cancel_left (first.noted.symm.trans second.noted)

theorem wrote_record {kind : Kind} {world : World} {stored : Object kind}
    (status : Nat → kind.Status) (present : stored ∈ world.store.list kind)
    (legible : stored.isLegible = true) :
    world.Wrote
      [world.store.write (some stored) (world.store.restated stored (status world.clock.next))]
      ((do
        let told ← World.now
        (World.setStatus { stored with status := status told }).ignoreOutcome :
          StateM World Unit) world).2 := by
  have stillPresent : stored ∈ (World.now world).2.store.list kind := present
  change world.Wrote _ ((World.setStatus { stored with status := status world.clock.next }).runOn
    (World.now world).2).2
  rw [runOn_restate stillPresent legible]
  exact .one rfl rfl

/-- What each write keeps holds of every store that is left. -/
theorem Through.exists_wrote {sort : Store → Store → Prop} (property : Store → Prop)
    (through : Through sort before after)
    (preserved : ∀ {first second : Store}, property first → sort first second → property second)
    (atStart : property before.store) :
    ∃ stores, before.Wrote stores after ∧ ∀ store ∈ stores, property store := by
  induction through with
  | idle sameStore sameJournal =>
      exact ⟨[], .none sameStore sameJournal, fun _ storeMem => absurd storeMem List.not_mem_nil⟩
  | @write middle after earlier written noted ih =>
      obtain ⟨stores, wrote, all⟩ := ih
      have atMiddle := earlier.preserves property preserved atStart
      refine ⟨stores ++ [after.store], wrote.trans (.one rfl noted), fun store storeMem => ?_⟩
      rcases List.mem_append.1 storeMem with inStores | isLast
      · exact all store inStores
      · obtain rfl := List.mem_singleton.1 isLast
        exact preserved atMiddle written

end World

namespace Pass

variable {ε δ α β : Type} {pass : Pass ε α} {rest : Pass δ β} {store : Store}
  {stores : List Store} {world : World}

/-- From every world with the store the pass leaves such stores but for the times, and there is
no instance in them that was not there. -/
def Trails (pass : Pass ε α) (store : Store) (stores : List Store) : Prop :=
  (∀ world : World, world.store = store → ∃ again, world.Wrote again (pass.runOn world).2 ∧
    again.map Store.timeless = stores.map Store.timeless) ∧
  ∀ later ∈ stores, later.instanceKeys ⊆ store.instanceKeys

/-- From each of the stores but the last the pass leaves those behind it. -/
def Resumes (pass : Pass ε α) : List Store → Prop
  | [] => True
  | store :: later => (later ≠ [] → pass.Trails store later) ∧ pass.Resumes later

/-- At work on the world, the pass leaves stores from which it resumes. -/
def ResumesOn (pass : Pass ε α) (world : World) : Prop :=
  ∃ stores, world.Wrote stores (pass.runOn world).2 ∧ pass.Resumes stores

theorem resumes_one (pass : Pass ε α) (store : Store) : pass.Resumes [store] :=
  ⟨fun more => absurd rfl more, trivial⟩

theorem resumes_of_length_le_one (pass : Pass ε α) (few : stores.length ≤ 1) :
    pass.Resumes stores := by
  cases stores with
  | nil => trivial
  | cons store later =>
      have isNil : later = [] := by simpa using few
      subst isNil
      exact pass.resumes_one store

theorem resumesOn_of_idle (idle : (pass.runOn world).2 = world) : pass.ResumesOn world := by
  refine ⟨[], ?_, trivial⟩
  rw [idle]
  exact .none rfl rfl

theorem resumesOn_of_commit (once : (pass.runOn world).2 = world.commit store) :
    pass.ResumesOn world := by
  refine ⟨[store], ?_, pass.resumes_one store⟩
  rw [once]
  exact world.wrote_commit store

theorem runOn_dismissal {kind : Kind} {stored : Object kind}
    (present : stored ∈ world.store.list kind) (legible : stored.isLegible = true) :
    (discard ((World.update stored.letGo).during .delete .removeFinalizer) >>= fun _ =>
        (pure .gone : Pass PassFailure Outcome)).runOn world =
      (.ok .gone, world.commit (world.store.dismissed stored)) := by
  rw [runOn_during_bind_of_ok (World.runOn_letGo present legible)]
  rfl

theorem resumesOn_of_length_le_one (wrote : world.Wrote stores (pass.runOn world).2)
    (few : stores.length ≤ 1) : pass.ResumesOn world :=
  ⟨stores, wrote, pass.resumes_of_length_le_one few⟩

theorem Resumes.trails (resumes : pass.Resumes stores) {count : Nat} (positive : 0 < count)
    (within : count < stores.length) (isCut : stores[count - 1]? = some store) :
    pass.Trails store (stores.drop count) := by
  -- a cut behind the first write is the head's, and any other one is a cut of the tail
  induction stores generalizing count with
  | nil => exact absurd within (Nat.not_lt_zero count)
  | cons first later ih =>
      obtain ⟨fromFirst, fromLater⟩ := resumes
      match count, positive with
      | 1, _ =>
          obtain rfl : first = store := by simpa using isCut
          have more : later ≠ [] := by
            rintro rfl
            exact absurd within (Nat.lt_irrefl 1)
          exact fromFirst more
      | count + 2, _ =>
          have behind : count + 1 < later.length := Nat.lt_of_succ_lt_succ within
          exact ih fromLater (Nat.succ_pos count) behind (by simpa using isCut)

/-- What the pass still has to do, once it has left the store: begun from any world with it, the
rest leaves stores from which the pass resumes, and from any other world the like. -/
def Remains (pass : Pass ε α) (rest : Pass δ β) (store : Store) : Prop :=
  ∀ world : World, world.store = store → ∃ stores, world.Wrote stores (rest.runOn world).2 ∧
    pass.Resumes stores ∧ rest.Trails store stores

/-- Work that draws nothing leaves the same stores from every world. -/
theorem trails_of_commitAll
    (always : ∀ world : World, world.store = store →
      (rest.runOn world).2 = world.commitAll stores)
    (sameInstances : ∀ later ∈ stores, later.instanceKeys ⊆ store.instanceKeys) :
    rest.Trails store stores := by
  refine ⟨fun world isStore => ⟨stores, ?_, rfl⟩, sameInstances⟩
  rw [always world isStore]
  exact world.wrote_commitAll stores

theorem remains_of_commitAll
    (always : ∀ world : World, world.store = store →
      (rest.runOn world).2 = world.commitAll stores)
    (resumes : pass.Resumes stores)
    (sameInstances : ∀ later ∈ stores, later.instanceKeys ⊆ store.instanceKeys) :
    pass.Remains rest store := by
  intro world isStore
  refine ⟨stores, ?_, resumes, trails_of_commitAll always sameInstances⟩
  rw [always world isStore]
  exact world.wrote_commitAll stores

/-- A pass of two writes resumes if, begun behind the first, it makes the second. -/
theorem resumesOn_of_commit_commit {first second : Store}
    (twice : (pass.runOn world).2 = (world.commit first).commit second)
    (anew : ∀ begun : World, begun.store = first → (pass.runOn begun).2 = begun.commit second)
    (sameInstances : second.instanceKeys ⊆ first.instanceKeys) : pass.ResumesOn world := by
  have always : ∀ begun : World, begun.store = first →
      (pass.runOn begun).2 = begun.commitAll [second] := anew
  have trails : pass.Trails first [second] := by
    refine trails_of_commitAll always fun later laterMem => ?_
    obtain rfl := List.mem_singleton.1 laterMem
    exact sameInstances
  refine ⟨[first, second], ?_, fun _ => trails, pass.resumes_one second⟩
  rw [twice]
  exact (world.wrote_commit first).trans ((world.commit first).wrote_commit second)

/-- A pass that writes once and then does the rest resumes, if begun behind the write it does the
rest as well. -/
theorem Remains.after_write {middle : World} (remains : pass.Remains rest store)
    (anew : ∀ world : World, world.store = store → ∃ drawn : World,
      drawn.store = world.store ∧ drawn.journal = world.journal ∧
        (pass.runOn world).2 = (rest.runOn drawn).2)
    (first : world.Wrote [store] middle) (goesOn : (pass.runOn world).2 = (rest.runOn middle).2) :
    pass.ResumesOn world := by
  obtain ⟨stores, wrote, resumes, trails, sameInstances⟩ := remains middle first.isLast
  -- only the cut behind the first write is new; the others are among those of the rest
  refine ⟨store :: stores, ?_, fun _ => ⟨fun begun isStore => ?_, sameInstances⟩, resumes⟩
  · rw [goesOn]
    exact first.trans wrote
  · obtain ⟨drawn, sameStore, sameJournal, isRest⟩ := anew begun isStore
    obtain ⟨again, wroteAgain, alike⟩ := trails drawn (sameStore.trans isStore)
    rw [isRest]
    exact ⟨again, wroteAgain.of_same sameStore sameJournal, alike⟩

/-- Cut off behind any of its writes and begun anew, the pass makes the writes that were left, and
ends like the pass that was not cut off. -/
theorem Resumes.after_cut (resumes : pass.Resumes stores)
    (wrote : world.Wrote stores (pass.runOn world).2) {count : Nat} (positive : 0 < count)
    (within : count < stores.length) {cut : World} (isCut : stores[count - 1]? = some cut.store) :
    ∃ again, cut.Wrote again (pass.runOn cut).2 ∧
      again.map Store.timeless = (stores.drop count).map Store.timeless ∧
      (pass.runOn cut).2.store.timeless = (pass.runOn world).2.store.timeless ∧
      ∀ later ∈ again, later.instanceKeys ⊆ cut.store.instanceKeys := by
  obtain ⟨trails, sameInstances⟩ := resumes.trails positive within isCut
  obtain ⟨again, wroteAgain, alike⟩ := trails cut rfl
  refine ⟨again, wroteAgain, alike, ?_, fun later laterMem => ?_⟩
  · have more : stores.drop count ≠ [] := by
      rw [ne_eq, List.drop_eq_nil_iff]
      omega
    have whole : stores.getLastD world.store =
        (stores.drop count).getLastD ((stores.take count).getLastD world.store) := by
      rw [← getLastD_append, List.take_append_drop]
    rw [wroteAgain.isLast, wrote.isLast, whole]
    exact timeless_getLastD alike more _ _
  · have laterAlike : later.timeless ∈ (stores.drop count).map Store.timeless := by
      rw [← alike]
      exact List.mem_map_of_mem laterMem
    obtain ⟨original, originalMem, same⟩ := List.mem_map.1 laterAlike
    rw [← Store.instanceKeys_eq_of_timeless_eq same]
    exact sameInstances original originalMem

end Pass

end TenantFleet
