import TenantFleet.Proofs.Store.Index

/-!
# Names that the store completes

The end of a completed name is always five hexadecimal digits long, so the key
of an instance leads back to the key of the deployment that it was made for.
-/

namespace TenantFleet

theorem IsPlainText.append {first second : String} (plainFirst : IsPlainText first)
    (plainSecond : IsPlainText second) : IsPlainText (first ++ second) := by
  simp only [IsPlainText, String.toList_append, List.mem_append, not_or]
  exact ⟨⟨plainFirst.1, plainSecond.1⟩, ⟨plainFirst.2, plainSecond.2⟩⟩

theorem exists_digit_of_mem_toDigits {number : Nat} {character : Char}
    (characterMem : character ∈ Nat.toDigits 16 number) :
    ∃ digit < 16, character = Nat.digitChar digit := by
  induction number using Nat.strongRecOn with
  | ind number ih =>
      by_cases small : number < 16
      · rw [Nat.toDigits_of_lt_base small, List.mem_singleton] at characterMem
        exact ⟨number, small, characterMem⟩
      · rw [Nat.toDigits_of_base_le (by decide) (by omega), List.mem_append,
          List.mem_singleton] at characterMem
        rcases characterMem with inFront | rfl
        · exact ih (number / 16) (by omega) inFront
        · exact ⟨number % 16, Nat.mod_lt _ (by decide), rfl⟩

namespace NameSuffix

theorem length_text (suffix : NameSuffix) : (NameSuffix.text suffix).toList.length = 5 := by
  have short : (Nat.toDigits 16 suffix.val).length ≤ 5 :=
    (Nat.length_toDigits_le_iff (by decide) (by decide)).2 suffix.isLt
  simp only [text, String.toList_ofList, List.length_append, List.length_replicate]
  omega

theorem exists_digit_of_mem_text {suffix : NameSuffix} {character : Char}
    (characterMem : character ∈ (NameSuffix.text suffix).toList) :
    ∃ digit < 16, character = Nat.digitChar digit := by
  simp only [text, String.toList_ofList, List.mem_append, List.mem_replicate] at characterMem
  rcases characterMem with ⟨-, rfl⟩ | inDigits
  · exact ⟨0, by decide, rfl⟩
  · exact exists_digit_of_mem_toDigits inDigits

theorem isPlainText_text (suffix : NameSuffix) : IsPlainText (NameSuffix.text suffix) := by
  have plainDigit : ∀ digit < 16, Nat.digitChar digit ≠ '/' ∧ Nat.digitChar digit ≠ '\x00' := by
    decide
  have plain : ∀ character ∈ (NameSuffix.text suffix).toList,
      character ≠ '/' ∧ character ≠ '\x00' := by
    intro character characterMem
    obtain ⟨digit, isDigit, rfl⟩ := exists_digit_of_mem_text characterMem
    exact plainDigit digit isDigit
  exact ⟨fun slash => (plain _ slash).1 rfl, fun nul => (plain _ nul).2 rfl⟩

end NameSuffix

namespace ObjectKey

variable {key first second owner : ObjectKey}

/-- The key has the namespace of the owner's, and a name that was completed from the owner's. -/
def IsNamedAfter (key owner : ObjectKey) : Prop :=
  key.scope = owner.scope ∧ ∃ suffix, key.name = owner.name ++ "-" ++ NameSuffix.text suffix

/-- A key is named after one other key at most. -/
theorem IsNamedAfter.owner_eq (afterFirst : key.IsNamedAfter first)
    (afterSecond : key.IsNamedAfter second) : first = second := by
  obtain ⟨firstScope, firstSuffix, firstName⟩ := afterFirst
  obtain ⟨secondScope, secondSuffix, secondName⟩ := afterSecond
  have sameName := congrArg String.toList (firstName.symm.trans secondName)
  simp only [String.toList_append, List.append_assoc] at sameName
  have sameLength : ("-".toList ++ (NameSuffix.text firstSuffix).toList).length =
      ("-".toList ++ (NameSuffix.text secondSuffix).toList).length := by
    simp only [List.length_append, NameSuffix.length_text]
  have sameFront := (List.append_inj' sameName sameLength).1
  obtain ⟨scope, name⟩ := first
  rw [ObjectKey.mk.injEq]
  exact ⟨firstScope.symm.trans secondScope, String.toList_inj.1 sameFront⟩

theorem IsNamedAfter.isPlain (named : key.IsNamedAfter owner) (plain : owner.IsPlain) :
    key.IsPlain := by
  obtain ⟨sameScope, suffix, isName⟩ := named
  have plainDash : IsPlainText "-" := by decide
  refine ⟨sameScope ▸ plain.1, ?_⟩
  rw [isName]
  exact (plain.2.append plainDash).append (NameSuffix.isPlainText_text suffix)

end ObjectKey

end TenantFleet
