import TenantFleet.Proofs.Runs.Reachable

/-!
# Standing requirements

Some of what is required of a stored object turns on nothing but its key and its
spec.  The passes write over most objects without touching either; a namespace,
an instance or a deployment that they make has to meet the requirement because of
what it is made from.  So whatever users' documents keep, every action keeps.
-/

namespace TenantFleet

/-- A requirement on stored objects, which keys and specs decide, and which the objects meet that
the control plane makes. -/
structure Standing (required : (kind : Kind) → Object kind → Prop) : Prop where
  congr : ∀ {kind : Kind} {first second : Object kind}, required kind first →
    second.key = first.key → second.spec = first.spec → required kind second
  housed : ∀ registration, required .registration registration →
    required .tenantSpace (Registration.tenantSpace registration.key.scope)
  realised : ∀ {store : Store} {deployment : Deployment} {made : TenantInstance},
    required .deployment deployment →
      Deployment.IsNewInstance store (Object.withDefaults deployment) made →
      required .tenantInstance made
  renewed : ∀ deployment existing, required .tenantInstance existing →
    required .tenantInstance (Deployment.carriedInto deployment existing)
  derived : ∀ registration, required .registration registration →
    required .deployment (Registration.newDeployment registration)
  carried : ∀ registration existing, required .registration registration →
    required .deployment existing →
      required .deployment (Registration.carriedInto registration existing)

/-- Every stored object meets the requirement. -/
def Store.Meets (store : Store) (required : (kind : Kind) → Object kind → Prop) : Prop :=
  ∀ kind, ∀ object ∈ store.list kind, required kind object

theorem Store.meets_empty (required : (kind : Kind) → Object kind → Prop) :
    ({} : Store).Meets required := by
  intro kind object present
  simp at present

variable {required : (kind : Kind) → Object kind → Prop} {store after : Store} {kind : Kind}
  {key : ObjectKey}

namespace Store.Meets

variable (meets : store.Meets required)

include meets

theorem write (previous : Option (Object kind)) {next : Object kind} (ofNext : required kind next) :
    (store.write previous next).Meets required :=
  forall_mem_list_write meets ofNext

theorem supplant (stored : Object kind) {next : Object kind} (ofNext : required kind next) :
    (store.supplant stored next).Meets required :=
  forall_mem_list_supplant meets fun _ => ofNext

variable {stored : Object kind}

/-- A version of a stored object with its key and its spec. -/
theorem revise (standing : Standing required) (present : stored ∈ store.list kind)
    {next : Object kind} (sameKey : next.key = stored.key) (sameSpec : next.spec = stored.spec) :
    (store.supplant stored (store.replacement stored next)).Meets required :=
  meets.supplant stored (standing.congr (meets kind stored present) sameKey sameSpec)

theorem restate (standing : Standing required) (present : stored ∈ store.list kind)
    (status : kind.Status) :
    (store.write (some stored) (store.restated stored status)).Meets required :=
  meets.write (some stored) (standing.congr (meets kind stored present) rfl rfl)

theorem deletion (standing : Standing required) (present : stored ∈ store.list kind)
    (deletion : store.Deletion stored after) : after.Meets required := by
  cases deletion with
  | purged free =>
      intro read object remains
      exact meets read object (mem_list_of_mem_list_remove remains)
  | marked kept unmarked now =>
      exact meets.write (some stored) (standing.congr (meets kind stored present) rfl rfl)

end Store.Meets

namespace Standing

variable (standing : Standing required) (meets : store.Meets required)

include standing meets

theorem registration (written : Registration.Write key store after) : after.Meets required := by
  cases written with
  | held isFound =>
      exact meets.revise standing (Store.mem_list_of_find? isFound) (Object.key_hold _) rfl
  | spaced isFound =>
      have ofSource := meets .registration _ (Store.mem_list_of_find? isFound)
      exact meets.write none (standing.congr (standing.housed _ ofSource) rfl rfl)
  | derived due =>
      have ofSource := meets .registration _ (Store.mem_list_of_find? due.isFound)
      exact meets.write none (standing.congr (standing.derived _ ofSource) rfl rfl)
  | carried due deploymentFound =>
      have ofSource := meets .registration _ (Store.mem_list_of_find? due.isFound)
      have ofExisting := meets .deployment _ (Store.mem_list_of_find? deploymentFound)
      exact meets.write (some _)
        (standing.congr (standing.carried _ _ ofSource ofExisting) rfl rfl)
  | synced due => exact meets.restate standing (Store.mem_list_of_find? due.isFound) _
  | deleted isFound marked present deletion => exact meets.deletion standing present deletion
  | letGo isFound => exact meets.revise standing (Store.mem_list_of_find? isFound) rfl rfl
  | recorded due => exact meets.restate standing (Store.mem_list_of_find? due.isFound) _

theorem deployment (written : Deployment.Write key store after) : after.Meets required := by
  cases written with
  | held isFound =>
      exact meets.revise standing (Store.mem_list_of_find? isFound) (Object.key_hold _) rfl
  | created isFound unmarked isHeld vacant isNew =>
      have ofSource := meets .deployment _ (Store.mem_list_of_find? isFound)
      exact meets.write none (standing.realised ofSource isNew)
  | renewed isFound realises =>
      have ofExisting := meets .tenantInstance _ realises.1
      exact meets.write (some _) (standing.congr (standing.renewed _ _ ofExisting) rfl rfl)
  | placed isFound realises unmarked targetFound =>
      exact meets.restate standing (Store.mem_list_of_find? targetFound) _
  | settled isFound => exact meets.restate standing (Store.mem_list_of_find? isFound) _
  | cleared isFound => exact meets.restate standing (Store.mem_list_of_find? isFound) _
  | letGo isFound => exact meets.revise standing (Store.mem_list_of_find? isFound) rfl rfl
  | released isFound realises unheld targetFound =>
      exact meets.restate standing (Store.mem_list_of_find? targetFound) _
  | deleted isFound marked realises unmarked deletion =>
      exact meets.deletion standing realises.1 deletion
  | recorded isFound => exact meets.restate standing (Store.mem_list_of_find? isFound) _

theorem tenantInstance (written : TenantInstance.Write key store after) :
    after.Meets required := by
  cases written with
  | held isFound =>
      exact meets.revise standing (Store.mem_list_of_find? isFound) (Object.key_hold _) rfl
  | released isFound marked isHeld targetFound =>
      exact meets.restate standing (Store.mem_list_of_find? targetFound) _
  | letGo isFound => exact meets.revise standing (Store.mem_list_of_find? isFound) rfl rfl
  | recorded isFound => exact meets.restate standing (Store.mem_list_of_find? isFound) _

theorem resync (written : Resync.Write store after) : after.Meets required := by
  cases written with
  | registration written => exact standing.registration meets written
  | deployment written => exact standing.deployment meets written
  | tenantInstance written => exact standing.tenantInstance meets written
  | report written =>
      cases written with
      | reported isFound named labelled spelled registrationFound =>
          exact meets.restate standing (Store.mem_list_of_find? registrationFound) _
  | target written =>
      cases written with
      | published isFound => exact meets.restate standing (Store.mem_list_of_find? isFound) _

/-- A document with a name keeps the requirement if what review makes of it meets that. -/
theorem document {object : Object kind} (written : Admission.Write object store after)
    (named : object.metadata.name ≠ "")
    (admitted : ∀ complete : Object kind, complete.key = object.key →
      complete.spec = object.withDefaults.spec → (kind ≠ .scheduling → complete.errors = []) →
      required kind complete) : after.Meets required := by
  cases written with
  | @created complete name now sameMetadata sameStatus isName isMade absent faultless sameSpec =>
      have sameKey : complete.key = object.key := congrArg Metadata.key sameMetadata
      have keyOfInitial : (store.initialObject complete name now).key = complete.key := by
        simp [Object.key, Metadata.key, Store.initialObject, isName named, sameMetadata]
      have ofComplete := admitted complete sameKey sameSpec faultless
      exact meets.write none (standing.congr ofComplete keyOfInitial rfl)
  | @updated stored complete isFound sameMetadata permitted faultless sameSpec =>
      have sameKey : complete.key = object.key := (congrArg Metadata.key sameMetadata).trans rfl
      have ofComplete := admitted complete sameKey sameSpec faultless
      exact meets.supplant stored (standing.congr ofComplete rfl rfl)

/-- Every write of an action keeps what the documents keep. -/
theorem action {action : Action} (written : action.Write store after)
    (documents : ∀ manifest, action = .apply manifest → manifest.Write store after →
      after.Meets required) : after.Meets required := by
  cases written with
  | apply written => exact documents _ rfl written
  | delete present sameText deletion => exact meets.deletion standing present deletion
  | report present => exact meets.restate standing present _
  | forget present => exact meets.restate standing present _
  | reconcileRegistration written => exact standing.registration meets written
  | reconcileDeployment written => exact standing.deployment meets written
  | reconcileInstance written => exact standing.tenantInstance meets written
  | reconcileTarget written => exact standing.resync meets (.target written)
  | syncStatus written => exact standing.resync meets (.report written)
  | tick written => exact standing.resync meets written

end Standing

namespace World

variable {world : World}

/-- What every write keeps that a run may make holds of every store that it ever leaves. -/
theorem holds_of_passed {property : Store → Prop} (allowed : Action → Prop)
    (kept : ∀ {action : Action} {store after : Store}, allowed action →
      action.Write store after → property store → property after)
    (atStart : property {}) (empty : world.store = {}) (unwritten : world.journal = [])
    (actions : List Action) (areAllowed : ∀ action ∈ actions, allowed action)
    (passed : (actions.foldl Action.perform world).Passed store) : property store := by
  have starts : property world.store ∧ ∀ store ∈ world.journal, property store :=
    ⟨empty ▸ atStart, by simp [unwritten]⟩
  obtain ⟨atEnd, onTheWay⟩ := invariant_of_performAll property kept actions areAllowed starts
  rcases passed with rfl | noted
  · exact atEnd
  · exact onTheWay store noted

/-- What documents and passes keep holds of every object that a run ever leaves in the store. -/
theorem meets_of_passed (standing : Standing required) (allowed : Action → Prop)
    (documents : ∀ {manifest : Manifest} {store after : Store}, allowed (.apply manifest) →
      manifest.Write store after → store.Meets required → after.Meets required)
    (empty : world.store = {}) (unwritten : world.journal = []) (actions : List Action)
    (areAllowed : ∀ action ∈ actions, allowed action)
    (passed : (actions.foldl Action.perform world).Passed store) : store.Meets required :=
  holds_of_passed allowed
    (fun isAllowed written meets => standing.action meets written
      fun _ isApply written => documents (isApply ▸ isAllowed) written meets)
    (Store.meets_empty required) empty unwritten actions areAllowed passed

end World

end TenantFleet
