import TenantFleet.Proofs.Store.Frame

/-!
# What objects keep

A write shows at one key.  Where every object is related to itself, and the one
that is written to the one in whose place it comes, the versions before and after
the write are related under every key.  Where no object is new either, the
relation holds over any number of writes.
-/

namespace TenantFleet

namespace Store

variable {store after : Store} {kind : Kind}

section Keeps

variable (related : (kind : Kind) → Object kind → Object kind → Prop)

/-- What is stored under a key before and after is related. -/
def Keeps (before after : Store) : Prop :=
  ∀ kind key (earlier later : Object kind), before.find? kind key = some earlier →
    after.find? kind key = some later → related kind earlier later

variable (same : ∀ kind (object : Object kind), related kind object object)

include same

theorem keeps_write {previous : Option (Object kind)} {next : Object kind}
    (follows : ∀ key (object : Object kind), store.find? kind key = some object →
      next.keyText = key.text → related kind object next) :
    Keeps related store (store.write previous next) := by
  intro read key earlier later found foundAfter
  by_cases sameKind : read = kind
  · subst sameKind
    rcases find?_of_write foundAfter with ⟨isNext, rfl⟩ | still
    · exact follows key earlier found isNext
    · rw [found] at still
      exact Option.some.inj still ▸ same read earlier
  · rw [find?_write_of_ne store previous next sameKind, found] at foundAfter
    exact Option.some.inj foundAfter ▸ same read earlier

theorem keeps_create {next : Object kind} (absent : store.find? kind next.key = none) :
    Keeps related store (store.write none next) :=
  keeps_write related same fun _ _ found isNext =>
    absurd ((keyText_of_find? found).trans isNext.symm)
      (keyText_ne_of_find?_eq_none absent (mem_list_of_find? found))

theorem keeps_replace {stored next : Object kind} (present : stored ∈ store.list kind)
    (sameText : next.keyText = stored.keyText) (follows : related kind stored next) :
    Keeps related store (store.write (some stored) next) := by
  refine keeps_write related same fun key object found isNext => ?_
  obtain rfl := eq_of_keyText_eq (mem_list_of_find? found) present
    ((keyText_of_find? found).trans (isNext.symm.trans sameText))
  exact follows

theorem keeps_remove (store : Store) (current : Object kind) :
    Keeps related store (store.remove current) := by
  intro read key earlier later found foundAfter
  have present := mem_list_of_mem_list_remove (mem_list_of_find? foundAfter)
  obtain rfl := eq_of_keyText_eq present (mem_list_of_find? found)
    ((keyText_of_find? foundAfter).trans (keyText_of_find? found).symm)
  exact same read later

theorem keeps_supplant {stored next : Object kind} (present : stored ∈ store.list kind)
    (sameText : next.keyText = stored.keyText) (follows : related kind stored next) :
    Keeps related store (store.supplant stored next) := by
  unfold supplant
  split
  · intro read key earlier later found foundAfter
    refine keeps_remove related same store stored read key earlier later found ?_
    cases read <;> exact foundAfter
  · exact keeps_replace related same present sameText follows

theorem Deletion.keeps {stored : Object kind} (deletion : store.Deletion stored after)
    (present : stored ∈ store.list kind)
    (follows : ∀ now, related kind stored (store.stamped stored now)) :
    Keeps related store after := by
  cases deletion with
  | purged free => exact keeps_remove related same store stored
  | marked kept unmarked now => exact keeps_replace related same present rfl (follows now)

end Keeps

/-- Every object of the kind was there before under the same key, and is related to what it was
then. -/
def Evolves (kind : Kind) (related : Object kind → Object kind → Prop) (before after : Store) :
    Prop :=
  ∀ key later, after.find? kind key = some later →
    ∃ earlier, before.find? kind key = some earlier ∧ related earlier later

section Evolves

variable {related : Object kind → Object kind → Prop} {before middle : Store}
  (same : ∀ object, related object object)

include same

theorem evolves_refl (store : Store) : Evolves kind related store store :=
  fun _ later found => ⟨later, found, same later⟩

theorem evolves_of_sameBeside {written : Kind} (beside : SameBeside written store after)
    (different : kind ≠ written) : Evolves kind related store after := by
  intro key later found
  rw [beside.find? different] at found
  exact ⟨later, found, same later⟩

theorem evolves_replace {stored next : Object kind} (present : stored ∈ store.list kind)
    (sameText : next.keyText = stored.keyText) (follows : related stored next) :
    Evolves kind related store (store.write (some stored) next) := by
  intro key later foundAfter
  rcases find?_of_write foundAfter with ⟨isNext, rfl⟩ | still
  · exact ⟨stored, find?_eq_some_of_mem present (sameText.symm.trans isNext), follows⟩
  · exact ⟨later, still, same later⟩

theorem evolves_remove (store : Store) (current : Object kind) :
    Evolves kind related store (store.remove current) := by
  intro key later foundAfter
  have present := mem_list_of_mem_list_remove (mem_list_of_find? foundAfter)
  exact ⟨later, find?_eq_some_of_mem present (keyText_of_find? foundAfter), same later⟩

theorem evolves_supplant {stored next : Object kind} (present : stored ∈ store.list kind)
    (sameText : next.keyText = stored.keyText) (follows : related stored next) :
    Evolves kind related store (store.supplant stored next) := by
  unfold supplant
  split
  · intro key later foundAfter
    refine evolves_remove same store stored key later ?_
    cases kind <;> exact foundAfter
  · exact evolves_replace same present sameText follows

omit same

theorem Evolves.trans (first : Evolves kind related before middle)
    (second : Evolves kind related middle after)
    (chained : ∀ {earlier between later}, related earlier between → related between later →
      related earlier later) : Evolves kind related before after := by
  intro key later found
  obtain ⟨between, betweenFound, follows⟩ := second key later found
  obtain ⟨earlier, earlierFound, wasRelated⟩ := first key between betweenFound
  exact ⟨earlier, earlierFound, chained wasRelated follows⟩

end Evolves

end Store

end TenantFleet
