import TenantFleet.Proofs.Derivation.Validity
import TenantFleet.Proofs.Passes.Making
import TenantFleet.Proofs.Passes.UserUpdates
import TenantFleet.Proofs.Runs.Standing

/-!
# Names that are completed

Review looks at the name of an object before the store has completed it, and then
asks for nothing but a start that is not empty.  The whole name is a DNS label
only if its start begins one and leaves room for the five digits of its end.
Apart from its name an object that the store completes has what review asks for,
and so has an instance that is made for a reviewed deployment on a reviewed
target.
-/

namespace TenantFleet

/-! ### Starts of DNS labels -/

/-- Whether the text becomes a DNS label with the end of a completed name behind it. -/
def beginsDnsLabel (start : String) : Bool :=
  let characters := start.toList
  characters.length + 5 ≤ longestName &&
    characters.head?.any isLowerAlphanumeric &&
    characters.all fun character => isLowerAlphanumeric character || character = '-'

def endsInAlphanumeric (text : String) : Bool :=
  text.toList.getLast?.any isLowerAlphanumeric

namespace NameSuffix

variable {suffix : NameSuffix}

theorem isLowerAlphanumeric_of_mem_text {character : Char}
    (characterMem : character ∈ (NameSuffix.text suffix).toList) :
    isLowerAlphanumeric character = true := by
  have alphanumeric : ∀ digit < 16, isLowerAlphanumeric (Nat.digitChar digit) = true := by decide
  obtain ⟨digit, isDigit, rfl⟩ := exists_digit_of_mem_text characterMem
  exact alphanumeric digit isDigit

theorem exists_last_of_text (suffix : NameSuffix) :
    ∃ last, (NameSuffix.text suffix).toList.getLast? = some last ∧
      isLowerAlphanumeric last = true := by
  cases isLast : (NameSuffix.text suffix).toList.getLast? with
  | none =>
      have length := length_text suffix
      rw [List.getLast?_eq_none_iff.1 isLast] at length
      contradiction
  | some last =>
      exact ⟨last, rfl, isLowerAlphanumeric_of_mem_text (List.mem_of_getLast? isLast)⟩

theorem endsInAlphanumeric_append_text (start : String) (suffix : NameSuffix) :
    endsInAlphanumeric (start ++ NameSuffix.text suffix) = true := by
  obtain ⟨last, isLast, alphanumeric⟩ := exists_last_of_text suffix
  simp [endsInAlphanumeric, String.toList_append, List.getLast?_append, isLast, alphanumeric]

/-- A completed name is a DNS label if its start begins one. -/
theorem isDnsLabel_append_text {start : String} (started : start ≠ "") (suffix : NameSuffix) :
    isDnsLabel (start ++ NameSuffix.text suffix) = beginsDnsLabel start := by
  have isEnded := endsInAlphanumeric_append_text start suffix
  have sameHead : (start ++ NameSuffix.text suffix).toList.head? = start.toList.head? := by
    rw [String.toList_append]
    exact List.head?_append_of_ne_nil _ (by simpa using started)
  have allDigits : (NameSuffix.text suffix).toList.all
      (fun character => isLowerAlphanumeric character || character = '-') = true := by
    rw [List.all_eq_true]
    intro character characterMem
    rw [isLowerAlphanumeric_of_mem_text characterMem, Bool.true_or]
  unfold endsInAlphanumeric at isEnded
  simp only [isDnsLabel, beginsDnsLabel, isEnded, sameHead, Bool.and_true]
  simp only [String.toList_append, List.length_append, length_text, List.all_append, allDigits,
    Bool.and_true]

end NameSuffix

theorem endsInAlphanumeric_of_isDnsLabel {text : String} (isLabel : isDnsLabel text = true) :
    endsInAlphanumeric text = true := by
  simp only [isDnsLabel, Bool.and_eq_true] at isLabel
  exact isLabel.1.2

/-- A DNS label begins another, with a hyphen and the end of a completed name behind it, if there
is room for these six characters. -/
theorem beginsDnsLabel_dashed {owner : String} (isLabel : isDnsLabel owner = true) :
    beginsDnsLabel (owner ++ "-") = true ↔ owner.length + 6 ≤ longestName := by
  simp only [isDnsLabel, Bool.and_eq_true, decide_eq_true_eq] at isLabel
  obtain ⟨⟨⟨-, isFirst⟩, -⟩, allowed⟩ := isLabel
  cases isOwner : owner.toList with
  | nil => simp [isOwner] at isFirst
  | cons first rest =>
      have hasLength : owner.length = rest.length + 1 := by
        rw [← String.length_toList, isOwner, List.length_cons]
      rw [isOwner] at isFirst allowed
      have isDash : "-".toList = ['-'] := by decide
      simp only [beginsDnsLabel, String.toList_append, isOwner, isDash, List.cons_append,
        List.head?_cons, List.length_cons, List.length_append, List.length_nil, hasLength,
        Bool.and_eq_true, decide_eq_true_eq]
      constructor
      · rintro ⟨⟨short, -⟩, -⟩
        exact short
      · intro short
        refine ⟨⟨short, isFirst⟩, ?_⟩
        rw [← List.cons_append, List.all_append, allowed]
        simp

/-! ### What review finds beside the name -/

theorem Metadata.nameErrors_eq_nil_iff {metadata : Metadata} (named : metadata.name ≠ "")
    (path : FieldPath) : metadata.nameErrors path = [] ↔ isDnsLabel metadata.name = true := by
  simp [nameErrors, named, reportIf]

namespace Object

variable {kind : Kind}

/-- What review finds in an object beside its name. -/
def otherErrors : {kind : Kind} → Object kind → List FieldError
  | .tenantSpace, object => object.metadata.scopeErrors false (FieldPath.metadata.field "namespace")
  | .target, object =>
      object.metadata.scopeErrors true (FieldPath.metadata.field "namespace") ++
        Target.specErrors object.spec .spec
  | .deployment, object =>
      object.metadata.scopeErrors true (FieldPath.metadata.field "namespace") ++
        Deployment.specErrors object.spec .spec
  | .tenantInstance, object =>
      object.metadata.scopeErrors true (FieldPath.metadata.field "namespace") ++
        TenantInstance.specErrors object.spec .spec
  | .registration, object =>
      object.metadata.scopeErrors true (FieldPath.metadata.field "namespace") ++
        Registration.tenantErrors object.metadata ++ Registration.specErrors object.spec .spec
  | .scheduling, object =>
      itemErrors RuleDraft.errors SchedulingDraft.rulesPath
        (SchedulingDraft.ofScheduling object).spec.rules

theorem errors_eq_nil_iff {object : Object kind} (notScheduling : kind ≠ .scheduling) :
    object.errors = [] ↔
      object.metadata.nameErrors (FieldPath.metadata.field "name") = [] ∧
        object.otherErrors = [] := by
  cases kind with
  | scheduling => contradiction
  | tenantSpace | target | deployment | tenantInstance | registration =>
      simp only [errors, otherErrors, Metadata.errors, List.append_eq_nil_iff, and_assoc]

/-- The name apart, what review finds is a matter of the namespace and the spec. -/
theorem otherErrors_congr {first second : Object kind}
    (sameScope : second.metadata.scope = first.metadata.scope)
    (sameSpec : second.spec = first.spec) : second.otherErrors = first.otherErrors := by
  cases kind with
  | tenantSpace | target | deployment | tenantInstance | registration =>
      simp only [otherErrors, Metadata.scopeErrors, Registration.tenantErrors, sameScope, sameSpec]
  | scheduling => simp only [otherErrors, SchedulingDraft.ofScheduling, sameSpec]

/-- A scheduling object is never without a name. -/
theorem kind_ne_scheduling_of_errors {object : Object kind} (unnamed : object.metadata.name = "")
    (faultless : object.errors = []) : kind ≠ .scheduling := by
  rintro rfl
  have named := (SchedulingDraft.errors_eq_nil_iff.1 faultless).1
  exact named unnamed

end Object

/-! ### Creation -/

/-- An object is stored under a name that begins with `start` and that the store has completed;
all is well with it just if `start` begins a DNS label. -/
structure Store.HasCompleted {kind : Kind} (store : Store) (start : String)
    (created : Object kind) : Prop where
  isStored : store.find? kind created.key = some created
  isName : ∃ suffix, created.metadata.name = start ++ NameSuffix.text suffix
  isLabel : isDnsLabel created.metadata.name = true ↔ beginsDnsLabel start = true
  isValid : created.errors = [] ↔ beginsDnsLabel start = true

variable {kind : Kind} {start : String}

/-- An object that is created under a completed name, and has nothing amiss beside the name. -/
theorem Store.hasCompleted_write (store : Store) {object : Object kind} (started : start ≠ "")
    (suffix : NameSuffix) (now : Nat) (notScheduling : kind ≠ .scheduling)
    (faultless : object.otherErrors = []) :
    let created := store.initialObject object (start ++ NameSuffix.text suffix) now
    (store.write none created).HasCompleted start created := by
  intro created
  have named : created.metadata.name ≠ "" := by
    change start ++ NameSuffix.text suffix ≠ ""
    simp [started]
  have isLabel := congrArg (· = true) (NameSuffix.isDnsLabel_append_text started suffix)
  have sameOthers : created.otherErrors = object.otherErrors := Object.otherErrors_congr rfl rfl
  refine ⟨find?_write_self _ _ _, ⟨suffix, rfl⟩, iff_of_eq isLabel, ?_⟩
  rw [Object.errors_eq_nil_iff notScheduling, Metadata.nameErrors_eq_nil_iff named]
  simp only [sameOthers, faultless, and_true]
  exact iff_of_eq isLabel

theorem Admission.hasCompleted_of_create {object created : Object kind} {world after : World}
    (unnamed : object.metadata.name = "")
    (ran : (create object).runOn world = (.ok created, after)) :
    after.store.HasCompleted object.metadata.generateName created := by
  obtain ⟨complete, middle, reviewing, creating⟩ := Pass.exists_of_bind_ok ran
  obtain ⟨accepted, rfl⟩ := eq_of_review_ok reviewing
  obtain ⟨rfl, faultless⟩ := Object.eq_of_acceptedWith accepted
  have sameMetadata := object.metadata_withDefaults
  have notScheduling := Object.kind_ne_scheduling_of_errors (sameMetadata ▸ unnamed) faultless
  obtain ⟨store, done, rfl⟩ := World.exists_of_create_ok (Pass.runOn_of_mapError_ok creating)
  obtain ⟨name, hasName, rfl, -, rfl⟩ := Store.stored_of_create done
  have names := Store.nameFor_eq_ok hasName
  rw [sameMetadata] at names
  obtain ⟨-, started, attempt, rfl⟩ := names.resolve_left fun own => own.1 unnamed
  exact Store.hasCompleted_write _ started _ _ notScheduling
    ((Object.errors_eq_nil_iff notScheduling).1 faultless).2

/-! ### What deployments and targets keep -/

namespace Object

/-- Beside the name review finds nothing in the object, whose name ends in a letter or digit. -/
def IsWhole : {kind : Kind} → Object kind → Prop
  | .target, object | .deployment, object | .registration, object =>
      object.otherErrors = [] ∧ endsInAlphanumeric object.metadata.name = true
  | .tenantSpace, _ | .tenantInstance, _ | .scheduling, _ => True

theorem isWhole_of_otherErrors {object : Object kind} (faultless : object.otherErrors = [])
    (ended : endsInAlphanumeric object.metadata.name = true) : object.IsWhole := by
  cases kind with
  | target | deployment | registration => exact ⟨faultless, ended⟩
  | tenantSpace | tenantInstance | scheduling => trivial

theorem IsWhole.congr {first second : Object kind} (isWhole : first.IsWhole)
    (sameKey : second.key = first.key) (sameSpec : second.spec = first.spec) :
    second.IsWhole := by
  have sameName : second.metadata.name = first.metadata.name := congrArg ObjectKey.name sameKey
  have sameOthers : second.otherErrors = first.otherErrors :=
    otherErrors_congr (congrArg ObjectKey.scope sameKey) sameSpec
  cases kind with
  | target | deployment | registration => exact ⟨sameOthers ▸ isWhole.1, sameName ▸ isWhole.2⟩
  | tenantSpace | tenantInstance | scheduling => trivial

end Object

namespace Registration

variable {registration : Registration}

/-- Beside its name nothing is amiss in a deployment with the derived spec and a namespace. -/
theorem isWhole_of_derivedSpec {deployment : Deployment} (isWhole : registration.IsWhole)
    (derived : deployment.spec = registration.derivedSpec)
    (inScope : deployment.metadata.scopeErrors true (FieldPath.metadata.field "namespace") = [])
    (ended : endsInAlphanumeric deployment.metadata.name = true) : deployment.IsWhole := by
  obtain ⟨inHeader, inSpec⟩ := List.append_eq_nil_iff.1 isWhole.1
  obtain ⟨inOwnScope, inTenant⟩ := List.append_eq_nil_iff.1 inHeader
  have inDerived : Deployment.specErrors deployment.spec .spec = [] :=
    derived ▸ specErrors_derivedSpec_of_length (length_scope_of_errors inOwnScope inTenant) inSpec
  exact ⟨List.append_eq_nil_iff.2 ⟨inScope, inDerived⟩, ended⟩

end Registration

theorem Object.IsWhole.standing : Standing fun _ => Object.IsWhole where
  congr isWhole sameKey sameSpec := isWhole.congr sameKey sameSpec
  housed _ _ := trivial
  realised _ _ := trivial
  renewed _ _ _ := trivial
  derived _ isWhole :=
    Registration.isWhole_of_derivedSpec isWhole rfl
      (List.append_eq_nil_iff.1 (List.append_eq_nil_iff.1 isWhole.1).1).1 isWhole.2
  carried _ _ isWhole existingIsWhole :=
    Registration.isWhole_of_derivedSpec isWhole rfl
      (List.append_eq_nil_iff.1 existingIsWhole.1).1 existingIsWhole.2

variable {store after : Store}

/-- The text of a key without a name ends in a slash. -/
theorem ObjectKey.name_ne_of_text_eq {key stored : ObjectKey} (sameText : stored.text = key.text)
    (ended : endsInAlphanumeric stored.name = true) : key.name ≠ "" := by
  intro unnamed
  have sameLast := congrArg (fun text => text.toList.getLast?) sameText
  simp only [toList_text, unnamed, String.toList_empty, List.getLast?_append] at sameLast
  unfold endsInAlphanumeric at ended
  cases isLast : stored.name.toList.getLast? with
  | none => simp [isLast] at ended
  | some last =>
      rw [isLast, Option.any_some] at ended
      have isSlash : last = '/' := by simpa [List.getLast?_cons, isLast] using sameLast
      subst isSlash
      exact absurd ended (by decide)

/-- What review accepts is whole apart from its name, and a name of its own is a DNS label. -/
theorem Object.ends_of_errors {object : Object kind} (reviewed : kind ≠ .scheduling)
    (faultless : object.errors = []) :
    object.otherErrors = [] ∧
      (object.metadata.name ≠ "" → endsInAlphanumeric object.metadata.name = true) := by
  obtain ⟨inName, others⟩ := (errors_eq_nil_iff reviewed).1 faultless
  exact ⟨others, fun named =>
    endsInAlphanumeric_of_isDnsLabel ((Metadata.nameErrors_eq_nil_iff named _).1 inName)⟩

theorem Admission.Write.isWhole {object : Object kind}
    (written : Admission.Write object store after)
    (meets : store.Meets fun _ => Object.IsWhole) : after.Meets fun _ => Object.IsWhole := by
  by_cases isScheduling : kind = .scheduling
  · subst isScheduling
    cases written with
    | created => exact meets.write none trivial
    | updated => exact meets.supplant _ trivial
  cases written with
  | @created complete name now sameMetadata sameStatus isName isMade absent faultless sameSpec =>
      obtain ⟨others, named⟩ := Object.ends_of_errors isScheduling (faultless isScheduling)
      have ended : endsInAlphanumeric name = true := by
        by_cases unnamed : object.metadata.name = ""
        · obtain ⟨suffix, rfl⟩ := isMade unnamed
          exact NameSuffix.endsInAlphanumeric_append_text _ _
        · rw [isName unnamed, ← sameMetadata]
          exact named (sameMetadata ▸ unnamed)
      have sameOthers : (store.initialObject complete name now).otherErrors =
        complete.otherErrors := Object.otherErrors_congr rfl rfl
      exact meets.write none (Object.isWhole_of_otherErrors (sameOthers.trans others) ended)
  | @updated stored complete isFound sameMetadata permitted faultless sameSpec =>
      obtain ⟨others, named⟩ := Object.ends_of_errors isScheduling (faultless isScheduling)
      have sameText : stored.key.text = complete.key.text :=
        (keyText_of_update isFound sameMetadata).symm
      have wasWhole := meets kind stored (Store.mem_list_of_find? isFound)
      have isWhole : complete.IsWhole := by
        cases kind with
        | target | deployment | registration =>
            exact ⟨others, named (ObjectKey.name_ne_of_text_eq sameText wasWhole.2)⟩
        | tenantSpace | tenantInstance | scheduling => trivial
      exact meets.supplant stored (isWhole.congr rfl rfl)

theorem Manifest.Write.isWhole {manifest : Manifest} (written : manifest.Write store after)
    (meets : store.Meets fun _ => Object.IsWhole) : after.Meets fun _ => Object.IsWhole := by
  cases written with
  | tenantSpace written | target written | deployment written | registration written
  | scheduling _ written => exact written.isWhole meets

/-! ### Instances -/

/-- What fills in for no deployers is all in order. -/
theorem Configuration.errors_withDefaults {configuration : Configuration} {path : FieldPath}
    (faultless : configuration.errors path = []) : configuration.withDefaults.errors path = [] := by
  unfold withDefaults
  split
  · have supported : ∀ entry ∈ deployerPlugins.zipIdx, entry.1 ∈ deployerPlugins := by decide
    simp only [errors, List.flatMap_eq_nil_iff]
    intro entry entryMem
    simp [reportIf, supported entry entryMem]
  · exact faultless

/-- An id that is drawn is one of the supply's, cut to its length. -/
theorem exists_index_of_freshIdWithin {taken : List String} {attempts : Nat} {world after : World}
    {id : String} (drew : (freshIdWithin taken attempts).runOn world = (.ok id, after)) :
    ∃ index, id = cutId (world.ids.value index) := by
  induction attempts generalizing world with
  | zero => cases drew
  | succ attempts ih =>
      unfold freshIdWithin at drew
      rw [Pass.runOn_lift_bind] at drew
      simp only at drew
      split at drew
      · have later := ih drew
        exact later
      · obtain ⟨isId, -⟩ := Prod.mk.inj drew
        exact ⟨world.ids.drawn, (Except.ok.inj isId).symm⟩

theorem length_cutId {id : String} (long : idLength ≤ id.length) :
    (cutId id).length = idLength := by
  rw [cutId, String.length_ofList, List.length_take, String.length_toList]
  exact Nat.min_eq_left long

namespace Deployment

variable {settings : Settings} {deployment : Deployment} {created : TenantInstance}
  {world finished : World}

/-- What the pass makes, made for a stored target with one of the ids that the supply yields. -/
theorem exists_target_of_makeInstance
    (made : (makeInstance settings deployment).runOn world = (.ok created, finished)) :
    ∃ target ∈ world.store.list .target, ∃ index suffix now,
      created = world.store.initialObject
        (deployment.newInstance target.key (cutId (world.ids.value index)))
        (deployment.key.name ++ "-" ++ NameSuffix.text suffix) now ∧
      finished.store = world.store.write none created := by
  unfold makeInstance at made
  obtain ⟨rules, middle, reading, choosing⟩ := Pass.exists_of_bind_ok made
  obtain ⟨-, rfl⟩ := Prod.mk.inj (Pass.runOn_of_mapError_ok reading)
  rw [Pass.runOn_readStore_bind] at choosing
  cases chosen : deployment.chosenTarget? rules (world.store.list .target) with
  | none =>
      rw [chosen] at choosing
      cases choosing
  | some target =>
      rw [chosen] at choosing
      obtain ⟨id, drawn, drawing, creating⟩ := Pass.exists_of_bind_ok choosing
      obtain ⟨outcome, count, drew, -⟩ := runOn_freshIdWithin
        ((world.store.listIn .tenantInstance deployment.key.scope).map
          fun neighbour => neighbour.spec.id) idAttempts world
      obtain ⟨-, rfl⟩ := Prod.mk.inj (drew.symm.trans drawing)
      obtain ⟨index, rfl⟩ := exists_index_of_freshIdWithin drawing
      obtain ⟨store, done, rfl⟩ := World.exists_of_create_ok (Pass.runOn_of_mapError_ok creating)
      obtain ⟨name, named, rfl, -, rfl⟩ := Store.stored_of_create done
      obtain ⟨-, -, attempt, rfl⟩ :=
        (Store.nameFor_eq_ok named).resolve_left fun own => own.1 rfl
      exact ⟨target, mem_pool_of_chosenTarget? chosen, index, _, _, rfl, rfl⟩

/-- An instance of a deployment on a target has nothing amiss beside its name, and the id that it
has was drawn at full length. -/
theorem otherErrors_newInstance {target : Target} {id : String}
    (isWhole : Object.IsWhole deployment) (onWhole : Object.IsWhole target)
    (hasLength : id.length = idLength) :
    Object.otherErrors (newInstance (Object.withDefaults deployment) target.key id) = [] := by
  obtain ⟨inScope, inSpec⟩ := List.append_eq_nil_iff.1 isWhole.1
  obtain ⟨inHead, inRequest⟩ := List.append_eq_nil_iff.1 inSpec
  obtain ⟨inTenant, -⟩ := List.append_eq_nil_iff.1 inHead
  obtain ⟨-, inWorkload⟩ := List.append_eq_nil_iff.1 inRequest
  obtain ⟨inParts, inConfiguration⟩ := List.append_eq_nil_iff.1 inWorkload
  have hasScope : target.metadata.scope ≠ "" := by
    simpa [Metadata.scopeErrors, reportIf] using (List.append_eq_nil_iff.1 onWhole.1).1
  have hasName : target.metadata.name ≠ "" := by
    intro unnamed
    have ended := onWhole.2
    rw [unnamed] at ended
    exact absurd ended (by decide)
  have onTarget : target.key.errors (FieldPath.spec.field "targetRef") = [] := by
    simp [ObjectKey.errors, reportIf, Object.key, Metadata.key, hasScope, hasName]
  have inId : idErrors id (FieldPath.spec.field "id") = [] := by
    simp [idErrors, reportIf, hasLength]
  have inDefaults := Configuration.errors_withDefaults inConfiguration
  simp only [Object.otherErrors, TenantInstance.specErrors, List.append_eq_nil_iff]
  exact ⟨inScope, ⟨⟨onTarget, inTenant⟩, inId⟩, List.append_eq_nil_iff.2 ⟨inParts, inDefaults⟩⟩

/-- The instance that the pass makes bears a completed name that begins with that of the
deployment. -/
theorem hasCompleted_of_makeInstance (meets : world.store.Meets fun _ => Object.IsWhole)
    (long : ∀ index, idLength ≤ (world.ids.value index).length)
    (present : deployment ∈ world.store.list .deployment)
    (made : (makeInstance settings (Object.withDefaults deployment)).runOn world =
      (.ok created, finished)) :
    finished.store.HasCompleted (deployment.metadata.name ++ "-") created := by
  obtain ⟨target, targetMem, index, suffix, now, rfl, isAfter⟩ := exists_target_of_makeInstance made
  have others := otherErrors_newInstance (meets .deployment _ present)
    (meets .target _ targetMem) (length_cutId (long index))
  have started : deployment.metadata.name ++ "-" ≠ "" := by simp
  rw [isAfter]
  exact Store.hasCompleted_write _ started suffix now (by decide) others

end Deployment

end TenantFleet
