import TenantFleet.Proofs.Store.Listing

/-!
# References between kinds

Objects of one kind refer to objects of another by what they hold: a target
lists instances, an instance names its deployment, a deployment its
registration.  A store honours a kind of references when every one of them
leads to a stored object that bears it out.  One change writes or removes one
object, so it has to answer for the references of that object alone, or for
those that lead to it.
-/

namespace TenantFleet

/-- A kind of references from the objects of one kind to those of another. -/
structure Reference (holder bearer : Kind) where
  /-- What the objects refer by. -/
  Token : Type
  /-- Whether an object holds a token. -/
  Holds : Object holder → Token → Prop
  /-- Whether an object bears out a token of a holder. -/
  Bears : Object holder → Token → Object bearer → Prop
  distinct : holder ≠ bearer

namespace Store

variable {holder bearer kind : Kind} {reference : Reference holder bearer} {store : Store}

/-- Every reference leads to a stored object. -/
def Honours (store : Store) (reference : Reference holder bearer) : Prop :=
  ∀ object ∈ store.list holder, ∀ token, reference.Holds object token →
    ∃ other ∈ store.list bearer, reference.Bears object token other

@[simp]
theorem honours_empty (reference : Reference holder bearer) : ({} : Store).Honours reference := by
  simp [Honours]

/-- References depend on the objects of the two kinds only. -/
theorem Honours.congr {after : Store} (honoured : store.Honours reference)
    (sameHolders : after.list holder = store.list holder)
    (sameBearers : after.list bearer = store.list bearer) : after.Honours reference := by
  unfold Honours
  rw [sameHolders, sameBearers]
  exact honoured

theorem Honours.write_other (honoured : store.Honours reference)
    (previous : Option (Object kind)) (next : Object kind) (notHolder : holder ≠ kind)
    (notBearer : bearer ≠ kind) : (store.write previous next).Honours reference :=
  honoured.congr (list_write_of_ne store previous next notHolder)
    (list_write_of_ne store previous next notBearer)

theorem Honours.remove_other (honoured : store.Honours reference) (current : Object kind)
    (notHolder : holder ≠ kind) (notBearer : bearer ≠ kind) :
    (store.remove current).Honours reference :=
  honoured.congr (list_remove_of_ne store current notHolder)
    (list_remove_of_ne store current notBearer)

/-- A holder that is written has to refer to what is stored. -/
theorem Honours.write_holder (honoured : store.Honours reference)
    (previous : Option (Object holder)) (next : Object holder)
    (nextHonoured : ∀ token, reference.Holds next token →
      ∃ other ∈ store.list bearer, reference.Bears next token other) :
    (store.write previous next).Honours reference := by
  intro object present token held
  rw [list_write_of_ne store previous next reference.distinct.symm]
  rcases mem_list_write.1 present with rfl | ⟨wasPresent, -⟩
  · exact nextHonoured token held
  · exact honoured object wasPresent token held

theorem Honours.remove_holder (honoured : store.Honours reference) (current : Object holder) :
    (store.remove current).Honours reference := by
  intro object present token held
  rw [list_remove_of_ne store current reference.distinct.symm]
  exact honoured object (mem_list_remove.1 present).1 token held

/-- A bearer that takes the place of another has to bear out what that one did. -/
theorem Honours.write_bearer (honoured : store.Honours reference)
    {stored next : Object bearer} (present : stored ∈ store.list bearer)
    (sameText : next.keyText = stored.keyText)
    (stillBears : ∀ object ∈ store.list holder, ∀ token, reference.Holds object token →
      reference.Bears object token stored → reference.Bears object token next) :
    (store.write (some stored) next).Honours reference := by
  intro object isHolder token held
  rw [list_write_of_ne store (some stored) next reference.distinct] at isHolder
  obtain ⟨other, otherPresent, bears⟩ := honoured object isHolder token held
  by_cases otherText : other.keyText = next.keyText
  · obtain rfl := eq_of_keyText_eq otherPresent present (otherText.trans sameText)
    exact ⟨next, mem_list_write_self store _ next, stillBears object isHolder token held bears⟩
  · exact ⟨other, mem_list_write.2 (.inr ⟨otherPresent, otherText⟩), bears⟩

/-- A new bearer leaves the others where they are. -/
theorem Honours.create_bearer (honoured : store.Honours reference) {next : Object bearer}
    (absent : store.find? bearer next.key = none) :
    (store.write none next).Honours reference := by
  intro object isHolder token held
  rw [list_write_of_ne store none next reference.distinct] at isHolder
  obtain ⟨other, otherPresent, bears⟩ := honoured object isHolder token held
  exact ⟨other, mem_list_write.2
    (.inr ⟨otherPresent, keyText_ne_of_find?_eq_none absent otherPresent⟩), bears⟩

/-- A bearer may go when no reference leads to it. -/
theorem Honours.remove_bearer (honoured : store.Honours reference) {current : Object bearer}
    (present : current ∈ store.list bearer)
    (unneeded : ∀ object ∈ store.list holder, ∀ token, reference.Holds object token →
      ¬ reference.Bears object token current) :
    (store.remove current).Honours reference := by
  intro object isHolder token held
  rw [list_remove_of_ne store current reference.distinct] at isHolder
  obtain ⟨other, otherPresent, bears⟩ := honoured object isHolder token held
  refine ⟨other, mem_list_remove.2 ⟨otherPresent, fun sameText => ?_⟩, bears⟩
  obtain rfl := eq_of_keyText_eq otherPresent present sameText
  exact unneeded object isHolder token held bears

end Store

end TenantFleet
