import TenantFleet.Proofs.Derivation.Naming
import TenantFleet.Proofs.Derivation.Validity
import TenantFleet.Proofs.Passes.Outcomes
import TenantFleet.Proofs.Passes.StatusReport
import TenantFleet.Proofs.Passes.Synchrony
import TenantFleet.Proofs.Runs.Standing

/-!
# Namespaces that tenants choose

The namespace of a registration is the id of its tenant, and all that review asks
of an id is its length.  The pass on the registration makes it the name of a
namespace of the cluster, for which review asks for a DNS label, and the part
before the slash in the text of a key, which is read back only if it has no slash
of its own.
-/

namespace TenantFleet

namespace ObjectKey

variable {key : ObjectKey}

/-- A text with a slash in the scope of its key spells no key. -/
theorem ofText?_text_eq_none (slash : '/' ∈ key.scope.toList) : ofText? key.text = none := by
  obtain ⟨before, behind, isScope, isFirst⟩ := List.eq_append_cons_of_mem slash
  have plainBefore : ∀ character ∈ before, (character != '/') = true := by
    intro character characterMem
    exact bne_iff_ne.2 fun equal => isFirst (equal ▸ characterMem)
  have rest : key.text.toList.dropWhile (· != '/') =
      '/' :: (behind ++ '/' :: key.name.toList) := by
    rw [toList_text, isScope, List.append_assoc, List.dropWhile_append_of_pos plainBefore]
    simp
  simp [ofText?, rest]

/-- The text of the key of a registration is read back as that key if the namespace has no slash
in it, and else as none. -/
theorem IsReviewed.ofText?_text (reviewed : key.IsReviewed) :
    ofText? key.text = if '/' ∈ key.scope.toList then none else some key := by
  split
  next slash => exact ofText?_text_eq_none slash
  next plain => exact ObjectKey.ofText?_text plain reviewed.slashFree reviewed.hasName

theorem IsReviewed.ofText?_text_eq_some_iff (reviewed : key.IsReviewed) :
    ofText? key.text = some key ↔ '/' ∉ key.scope.toList := by
  simp [reviewed.ofText?_text]

/-- Keys of one text are the same if their scopes are as long as one another. -/
theorem eq_of_text_eq_of_length {first second : ObjectKey} (sameText : first.text = second.text)
    (sameLength : first.scope.length = second.scope.length) : first = second := by
  have sameWhole := congrArg String.toList sameText
  rw [toList_text, toList_text] at sameWhole
  obtain ⟨sameScope, sameRest⟩ := List.append_inj sameWhole sameLength
  obtain ⟨firstScope, firstName⟩ := first
  obtain ⟨secondScope, secondName⟩ := second
  rw [ObjectKey.mk.injEq]
  exact ⟨String.toList_inj.1 sameScope, String.toList_inj.1 (List.cons.inj sameRest).2⟩

end ObjectKey

/-- The scope of a registration is as long as an id, and a namespace has none. -/
def Object.IsScoped : {kind : Kind} → Object kind → Prop
  | .registration, object => object.metadata.scope.length = idLength
  | .tenantSpace, object => object.metadata.scope = ""
  | .target, _ | .deployment, _ | .tenantInstance, _ | .scheduling, _ => True

namespace Object

variable {kind : Kind}

theorem IsScoped.congr {first second : Object kind} (isScoped : first.IsScoped)
    (sameScope : second.metadata.scope = first.metadata.scope) : second.IsScoped := by
  cases kind with
  | registration => exact (congrArg String.length sameScope).trans isScoped
  | tenantSpace => exact sameScope.trans isScoped
  | target | deployment | tenantInstance | scheduling => trivial

/-- Review sees to the scopes. -/
theorem isScoped_of_errors {object : Object kind} (faultless : object.errors = []) :
    object.IsScoped := by
  cases kind with
  | registration =>
      obtain ⟨inHeader, -⟩ := List.append_eq_nil_iff.1 faultless
      obtain ⟨inMetadata, inTenant⟩ := List.append_eq_nil_iff.1 inHeader
      obtain ⟨-, inScope⟩ := List.append_eq_nil_iff.1 inMetadata
      exact Registration.length_scope_of_errors inScope inTenant
  | tenantSpace =>
      have noScope := (List.append_eq_nil_iff.1 faultless).2
      change object.metadata.scope = ""
      simpa [Metadata.scopeErrors, reportIf] using noScope
  | target | deployment | tenantInstance | scheduling => trivial

theorem IsScoped.standing : Standing fun _ => Object.IsScoped where
  congr isScoped sameKey _ := isScoped.congr (congrArg ObjectKey.scope sameKey)
  housed _ _ := rfl
  realised _ _ := trivial
  renewed _ _ _ := trivial
  derived _ _ := trivial
  carried _ _ _ _ := trivial

end Object

variable {store after : Store} {kind : Kind}

theorem Admission.Write.isScoped {object : Object kind}
    (written : Admission.Write object store after)
    (meets : store.Meets fun _ => Object.IsScoped) : after.Meets fun _ => Object.IsScoped := by
  -- a scheduling object is not reviewed as it is stored, and its scope is of no account
  have admitted {complete : Object kind} (faultless : kind ≠ .scheduling → complete.errors = []) :
      complete.IsScoped := by
    by_cases isScheduling : kind = .scheduling
    · subst isScheduling
      trivial
    · exact Object.isScoped_of_errors (faultless isScheduling)
  cases written with
  | created now sameMetadata sameStatus isName isMade absent faultless =>
      exact meets.write none ((admitted faultless).congr rfl)
  | updated isFound sameMetadata permitted faultless =>
      exact meets.supplant _ ((admitted faultless).congr rfl)

theorem Manifest.Write.isScoped {manifest : Manifest} (written : manifest.Write store after)
    (meets : store.Meets fun _ => Object.IsScoped) : after.Meets fun _ => Object.IsScoped := by
  cases written with
  | tenantSpace written | target written | deployment written | registration written
  | scheduling _ written => exact written.isScoped meets

/-- Review finds nothing in a namespace whose name is a DNS label. -/
theorem TenantSpace.errors_eq_nil_iff {space : TenantSpace} (bare : space.metadata.scope = "")
    (named : space.metadata.name ≠ "") :
    Object.errors space = [] ↔ isDnsLabel space.metadata.name = true := by
  simp [Object.errors, Metadata.errors, Metadata.nameErrors, Metadata.scopeErrors, bare, named,
    reportIf]

namespace Registration

variable {registration : Registration} {deployment : Deployment} {space : TenantSpace}
  {before housed derived : Store}

/-- The namespace that the pass sees to has the scope of the registration for its name. -/
theorem Houses.key_eq {name : String} (houses : Houses before housed name space)
    (meets : before.Meets fun _ => Object.IsScoped) : space.key = ⟨"", name⟩ := by
  rcases houses.origin with wasThere | ⟨-, isNew⟩
  · have bare : space.metadata.scope = "" :=
      meets .tenantSpace space (Store.mem_list_of_find? wasThere)
    exact ObjectKey.eq_of_text_eq_of_length (Store.keyText_of_find? wasThere)
      (congrArg String.length bare)
  · exact isNew

end Registration

namespace Deployment

variable {key : ObjectKey} {world : World} {deployment : Deployment} {text : String}

/-- A report that reaches its registration does not fail. -/
theorem Addresses.exists_ok {realised : TenantInstance} {registrationKey : ObjectKey}
    (addresses : Addresses world.store key deployment realised registrationKey) :
    ∃ told after, (reportStatus key).runOn world = (.ok told, after) := by
  rw [addresses.runOn_reportStatus]
  unfold reportTo
  rw [Pass.runOn_readStore_bind]
  cases isFound : world.store.find? .registration registrationKey with
  | none => exact ⟨false, world, rfl⟩
  | some registration =>
      simp only
      split
      · exact ⟨false, world, rfl⟩
      · rw [Pass.runOn_during_bind_of_ok
          (World.runOn_restate (Store.mem_list_of_find? isFound) rfl _)]
        exact ⟨true, _, rfl⟩

/-- A report fails for its label if there is something to report and the label spells no key. -/
theorem reportStatus_fails_iff (isFound : world.store.find? .deployment key = some deployment)
    (labelled : deployment.metadata.label? registrationLabel = some text) :
    (∃ failure owner label, (reportStatus key).failure? world = some failure ∧
      failure.cause = .malformedLabel owner label) ↔
    ObjectKey.ofText? text = none ∧
      (deployment.status.instanceKey.bind (world.store.find? .tenantInstance)).isSome = true := by
  cases named : deployment.status.instanceKey.bind (world.store.find? .tenantInstance) with
  | none =>
      have idle : (reportStatus key).runOn world = (.ok false, world) := by
        unfold reportStatus
        rw [Pass.runOn_readStore_bind]
        simp only [isFound, named]
        rfl
      simp [Pass.failure?, idle]
  | some realised =>
      cases spelled : ObjectKey.ofText? text with
      | none =>
          have fails : (reportStatus key).runOn world =
              (.error ⟨.syncStatus, .parseLabel, .malformedLabel key text⟩, world) := by
            unfold reportStatus
            rw [Pass.runOn_readStore_bind]
            simp only [isFound, named, labelled, spelled]
            rfl
          simp [Pass.failure?, fails]
      | some registrationKey =>
          obtain rfl := ObjectKey.text_of_ofText? spelled
          have addresses : Addresses world.store key deployment realised registrationKey :=
            ⟨isFound, named, labelled, spelled⟩
          obtain ⟨told, after, ran⟩ := addresses.exists_ok
          simp [Pass.failure?, ran]

end Deployment

end TenantFleet
