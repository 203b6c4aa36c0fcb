import TenantFleet.Proofs.Derivation.Continuation

/-!
# The names of registrations

Review lets a registration through only if its namespace is set and its name is a
DNS label.  So the text of its key tells the two apart although the namespace may
have slashes in it, and what the pass makes of it is never without a name.
-/

namespace TenantFleet

theorem slash_not_mem_of_isDnsLabel {text : String} (isLabel : isDnsLabel text = true) :
    '/' ∉ text.toList := by
  intro slash
  simp only [isDnsLabel, Bool.and_eq_true, List.all_eq_true] at isLabel
  exact absurd (isLabel.2 '/' slash) (by decide)

namespace ObjectKey

/-- Both parts of the key are set, and the name has no slash in it. -/
structure IsReviewed (key : ObjectKey) : Prop where
  hasScope : key.scope ≠ ""
  hasName : key.name ≠ ""
  slashFree : '/' ∉ key.name.toList

/-- The last slash of the text parts the namespace from the name. -/
theorem IsReviewed.eq_of_text_eq {first second : ObjectKey} (isFirst : first.IsReviewed)
    (isSecond : second.IsReviewed) (sameText : first.text = second.text) : first = second :=
  eq_of_text_eq_of_slash_free isFirst.slashFree isSecond.slashFree sameText

end ObjectKey

theorem Registration.isReviewed_of_errors {registration : Registration}
    (faultless : Object.errors registration = []) (named : registration.metadata.name ≠ "") :
    registration.key.IsReviewed := by
  have noErrors : registration.metadata.errors true .metadata = [] :=
    (List.append_eq_nil_iff.1 (List.append_eq_nil_iff.1 faultless).1).1
  obtain ⟨noName, noScope⟩ := List.append_eq_nil_iff.1 noErrors
  have isLabel : isDnsLabel registration.metadata.name = true := by
    simpa [Metadata.nameErrors, named, reportIf] using noName
  have hasScope : registration.metadata.scope ≠ "" := by
    simpa [Metadata.scopeErrors, reportIf] using noScope
  exact ⟨hasScope, named, slash_not_mem_of_isDnsLabel isLabel⟩

namespace Store

/-- Every registration has passed review with a name of its own. -/
def ReviewsRegistrations (store : Store) : Prop :=
  ∀ registration ∈ store.list .registration, registration.key.IsReviewed

variable {store after : Store}

theorem reviewsRegistrations_empty : ({} : Store).ReviewsRegistrations := by
  intro registration present
  simp at present

theorem ReviewsRegistrations.continues (reviewed : store.ReviewsRegistrations)
    (continues : store.Continues after) : after.ReviewsRegistrations := by
  intro later laterMem
  obtain ⟨registration, present, same⟩ := continues.registrations later laterMem
  exact same.key ▸ reviewed registration present

theorem ReviewsRegistrations.write (reviewed : store.ReviewsRegistrations)
    (previous : Option Registration) {next : Registration} (ofNext : next.key.IsReviewed) :
    (store.write previous next).ReviewsRegistrations := by
  intro later laterMem
  rcases mem_list_write.1 laterMem with rfl | ⟨wasStored, -⟩
  · exact ofNext
  · exact reviewed later wasStored

theorem ReviewsRegistrations.advance (reviewed : store.ReviewsRegistrations) {key : ObjectKey}
    (advance : Registration.Advance key store after) : after.ReviewsRegistrations := by
  cases advance with
  | supplied due isPrevious lasting fitting =>
      intro registration present
      rw [list_write_of_ne _ _ _ (by decide)] at present
      exact reviewed registration present
  | @synced registration deployment due deploymentFound fitting =>
      exact reviewed.write _ (reviewed registration (mem_list_of_find? due.isFound))

end Store

theorem Resync.Write.reviewsRegistrations {store after : Store}
    (written : Resync.Write store after) (reviewed : store.ReviewsRegistrations) :
    after.ReviewsRegistrations := by
  rcases written.continues_or_advance with continues | ⟨key, advance⟩
  · exact reviewed.continues continues
  · exact reviewed.advance advance

/-- A registration is given its name by the document. -/
def Manifest.NamesRegistrations : Manifest → Prop
  | .registration object => object.metadata.name ≠ ""
  | .tenantSpace _ | .target _ | .deployment _ | .scheduling _ => True

def Action.NamesRegistrations : Action → Prop
  | .apply manifest => manifest.NamesRegistrations
  | _ => True

namespace Admission

variable {kind : Kind} {store after : Store}

theorem Write.reviewsRegistrations {object : Registration} (written : Write object store after)
    (reviewed : store.ReviewsRegistrations) (named : object.metadata.name ≠ "") :
    after.ReviewsRegistrations := by
  cases written with
  | @created complete name now sameMetadata sameStatus isName isMade absent faultless =>
      have sameName : complete.metadata.name = name :=
        (congrArg Metadata.name sameMetadata).trans (isName named).symm
      have isReviewed := Registration.isReviewed_of_errors (faultless (by decide))
        (sameMetadata ▸ named)
      refine reviewed.write none ?_
      rw [Object.key, Metadata.key, sameName] at isReviewed
      exact isReviewed
  | @updated stored complete isFound sameMetadata permitted faultless =>
      have isReviewed := Registration.isReviewed_of_errors (faultless (by decide))
        (sameMetadata ▸ named)
      cases spent : Store.isSpent (store.replacement stored complete) with
      | true => exact reviewed.continues (Store.continues_supplant_of_spent spent)
      | false =>
          rw [Store.supplant_of_kept spent]
          exact reviewed.write _ isReviewed

end Admission

theorem Manifest.Write.reviewsRegistrations {manifest : Manifest} {store after : Store}
    (written : manifest.Write store after) (reviewed : store.ReviewsRegistrations)
    (named : manifest.NamesRegistrations) : after.ReviewsRegistrations := by
  intro registration present
  cases written with
  | tenantSpace written | target written | deployment written | scheduling _ written =>
      rw [written.sameBeside.list (by decide)] at present
      exact reviewed registration present
  | registration written => exact written.reviewsRegistrations reviewed named registration present

theorem Action.Write.reviewsRegistrations {action : Action} {store after : Store}
    (written : action.Write store after) (reviewed : store.ReviewsRegistrations)
    (named : action.NamesRegistrations) : after.ReviewsRegistrations := by
  rcases written.applied_or_continues_or_advance with
    ⟨manifest, rfl, applied⟩ | continues | ⟨key, advance⟩
  · exact applied.reviewsRegistrations reviewed named
  · exact reviewed.continues continues
  · exact reviewed.advance advance

end TenantFleet
