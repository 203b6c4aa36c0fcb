import TenantFleet.Draws
import TenantFleet.Proofs.Isolation.Documents

/-!
# Isolation of namespaces

The access file that a tenant is shown is one that the runtime has put on an
instance in the tenant's own namespace.  It gets there by way of a deployment
and its label, so it takes documents whose labels and names do not lead out of
their namespaces; with others, a tenant is shown the access file of another.
-/

namespace TenantFleet

namespace Action

/-- What the runtime has put on an instance by the action. -/
def deliveries (world : World) : Action → List Delivery
  | .report realised =>
      match ((World.setStatus realised).runOn world).1 with
      | .ok written => [⟨written.key.scope, written.status.userKubeconfig⟩]
      | .error _ => []
  | _ => []

/-- What actions lead to, one after the other, and what is delivered by them. -/
def course (world : World) : List Action → World × List Delivery
  | [] => (world, [])
  | action :: rest =>
      ((course (action.perform world) rest).1,
        action.deliveries world ++ (course (action.perform world) rest).2)

/-- Whether the document that is applied, if it is one, has no status. -/
def isBlank : Action → Bool
  | .apply (.target object) => object.status = {}
  | .apply (.deployment object) => object.status = {}
  | .apply (.registration object) => object.status = {}
  | _ => true

/-- Documents have no status and stay in their namespaces, and a status that is to name no
instance does not. -/
def StaysHome : Action → Prop
  | .apply manifest => manifest.StaysHome
  | .forget deployment => deployment.status.instanceKey = none
  | _ => True

variable {action : Action} {store after : Store} {delivered : List Delivery}

/-- All that an action writes, but what the runtime reports, keeps a store isolated. -/
theorem Write.isIsolated (written : action.Write store after)
    (isolated : store.IsIsolated delivered) (stays : action.StaysHome)
    (unreported : ∀ realised, action ≠ .report realised) : after.IsIsolated delivered := by
  cases written with
  | apply written =>
      obtain ⟨kind, object, notInstance, objectStays, admitted⟩ := written.exists_object stays
      exact admitted.isIsolated isolated notInstance objectStays
  | delete present sameText deletion => exact isolated.deletion present deletion
  | report present sameText => exact absurd rfl (unreported _)
  | forget present sameText =>
      have unnamed : DeploymentStatus.instanceKey _ = none := stays
      exact isolated.restate_deployment present fun key isKey => by simp [unnamed] at isKey
  | reconcileRegistration written => exact written.isIsolated isolated
  | reconcileDeployment written => exact written.isIsolated isolated
  | reconcileInstance written => exact written.isIsolated isolated
  | reconcileTarget written => exact written.isIsolated isolated
  | syncStatus written => exact written.isIsolated isolated
  | tick written => exact written.isIsolated isolated

theorem Write.changesAtHome (written : action.Write store after)
    (isolated : store.IsIsolated delivered) (stays : action.StaysHome) :
    store.ChangesAtHome after := by
  cases written with
  | apply written =>
      obtain ⟨kind, object, -, objectStays, admitted⟩ := written.exists_object stays
      exact admitted.changesAtHome objectStays
  | delete present sameText deletion => exact deletion.changesAtHome present
  | report | forget => exact (Store.sameBeside_write _ _ _).changesAtHome (by decide)
  | reconcileRegistration written => exact written.changesAtHome isolated
  | reconcileDeployment written => exact written.changesAtHome
  | reconcileInstance written => exact written.changesAtHome
  | reconcileTarget written => exact written.changesAtHome
  | syncStatus written => exact written.changesAtHome isolated
  | tick written => exact written.changesAtHome isolated

end Action

namespace World

variable {world : World} {delivered : List Delivery}

def IsIsolated (world : World) (delivered : List Delivery) : Prop :=
  world.store.IsIsolated delivered ∧ ∀ store ∈ world.journal, store.IsIsolated delivered

theorem IsIsolated.mono (isolated : world.IsIsolated delivered) {more : List Delivery}
    (included : delivered ⊆ more) : world.IsIsolated more :=
  ⟨isolated.1.mono included, fun store noted => (isolated.2 store noted).mono included⟩

theorem IsIsolated.report (isolated : world.IsIsolated delivered) (realised : TenantInstance) :
    ((Action.report realised).perform world).IsIsolated
      (delivered ++ (Action.report realised).deliveries world) := by
  rw [Action.perform, Action.deliveries]
  cases done : world.store.setStatus realised with
  | error error =>
      rw [runOn_setStatus_of_error done]
      exact isolated.mono (List.subset_append_left _ _)
  | ok result =>
      obtain ⟨written, after⟩ := result
      rw [runOn_setStatus_of_ok done]
      obtain ⟨stored, present, sameText, rfl, rfl⟩ := Store.stored_of_setStatus done
      obtain ⟨storeIsolated, journalIsolated⟩ := isolated.mono
        (List.subset_append_left delivered [⟨stored.key.scope, realised.status.userKubeconfig⟩])
      have next := storeIsolated.restate_instance present
        (.inr (List.mem_append_right _ (List.mem_singleton_self _)))
      refine ⟨next, fun store noted => ?_⟩
      rcases List.mem_append.1 noted with earlier | isLast
      · exact journalIsolated store earlier
      · exact List.mem_singleton.1 isLast ▸ next

theorem IsIsolated.perform (isolated : world.IsIsolated delivered) {action : Action}
    (stays : action.StaysHome) :
    (action.perform world).IsIsolated (delivered ++ action.deliveries world) := by
  by_cases reported : ∃ realised, action = .report realised
  · obtain ⟨realised, rfl⟩ := reported
    exact isolated.report realised
  · have kept := (action.through_perform world).invariant (fun store => store.IsIsolated delivered)
      (fun holds written => written.isIsolated holds stays fun realised isReport =>
        reported ⟨realised, isReport⟩) isolated.1 isolated.2
    exact IsIsolated.mono kept (List.subset_append_left _ _)

theorem IsIsolated.changesAtHome (isolated : world.IsIsolated delivered) {action : Action}
    (stays : action.StaysHome) :
    World.Through Store.ChangesAtHome world (action.perform world) := by
  by_cases reported : ∃ realised, action = .report realised
  · obtain ⟨realised, rfl⟩ := reported
    refine (Action.through_perform _ world).mono fun written => ?_
    cases written with
    | report => exact (Store.sameBeside_write _ _ _).changesAtHome (by decide)
  · have within := (action.through_perform world).within (fun store => store.IsIsolated delivered)
      (fun holds written => written.isIsolated holds stays fun realised isReport =>
        reported ⟨realised, isReport⟩) isolated.1
    exact within.mono fun ⟨holds, written⟩ => written.changesAtHome holds stays

theorem IsIsolated.course (actions : List Action) (isolated : world.IsIsolated delivered)
    (stays : ∀ action ∈ actions, action.StaysHome) :
    (Action.course world actions).1.IsIsolated (delivered ++ (Action.course world actions).2) ∧
      World.Through Store.ChangesAtHome world (Action.course world actions).1 := by
  induction actions generalizing world delivered with
  | nil => exact ⟨isolated.mono (List.subset_append_left _ _), .refl world⟩
  | cons action rest ih =>
      have first := stays action List.mem_cons_self
      obtain ⟨later, through⟩ := ih (isolated.perform first)
        fun other otherMem => stays other (List.mem_cons_of_mem _ otherMem)
      rw [List.append_assoc] at later
      exact ⟨later, (isolated.changesAtHome first).trans through⟩

/-- Whatever is done to an empty store with documents that stay in their namespaces: in every
state, the access file of a registration is empty or one that the runtime has put on an instance of
its namespace, and every write changes the statuses of registrations for reasons of their own
namespaces. -/
theorem credentials_stay_in_their_namespace (empty : world.store = {})
    (unwritten : world.journal = []) (actions : List Action)
    (stays : ∀ action ∈ actions, action.StaysHome) :
    let (last, delivered) := Action.course world actions
    (∀ store, last.Passed store → ∀ registration ∈ store.list .registration,
      IsDelivered delivered registration.key.scope registration.status.userKubeconfig) ∧
    World.Through Store.ChangesAtHome world last := by
  have atStart : world.IsIsolated [] := by
    refine ⟨empty ▸ Store.isIsolated_empty [], fun store noted => ?_⟩
    rw [unwritten] at noted
    exact absurd noted List.not_mem_nil
  obtain ⟨⟨atEnd, onTheWay⟩, through⟩ := atStart.course actions stays
  refine ⟨fun store passed registration present => ?_, through⟩
  have isolated : store.IsIsolated (Action.course world actions).2 := by
    rcases passed with rfl | noted
    · exact atEnd
    · exact onTheWay store noted
  exact isolated.apart .registration registration present

theorem nameSuffixes_pos : 0 < 0x100000 := by
  decide

/-- An empty world in which all names that the store completes end alike. -/
def uniform : World :=
  { World.around {} 0 0 with suffixes := .constant ⟨0, nameSuffixes_pos⟩ }

/-- A user applies a deployment of the second tenant with the header. -/
def requested (metadata : Metadata) : Action :=
  .apply (.deployment
    { metadata := metadata
      spec := { tenantId := "tenant02", purpose := "demo" }
      status := {} })

/-- The runtime reports an access file of the instance under `key`. -/
def served (key : ObjectKey) (version : Nat) (access : String) : Action :=
  .report
    { metadata := { name := key.name, scope := key.scope, resourceVersion := version }
      spec := { tenantId := "tenant02", id := "", targetKey := ⟨"fleet", "east"⟩ }
      status := { userKubeconfig := access } }

/-- The access file of an instance reaches the registration of its namespace, and is counted as
delivered there. -/
theorem credentials_stay_once_served :
    let actions := onboarding ++ [.tick {} [], served ⟨"tenant01", "web-00000"⟩ 9 "own",
      .tick {} []]
    let (last, delivered) := Action.course uniform actions
    (delivered = [⟨"tenant01", "own"⟩] ∧
      ∃ registration ∈ last.store.list .registration,
        registration.status.userKubeconfig = "own") ∧
    (∀ store, last.Passed store → ∀ registration ∈ store.list .registration,
      IsDelivered delivered registration.key.scope registration.status.userKubeconfig) ∧
    World.Through Store.ChangesAtHome uniform last := by
  intro actions
  have arrived : (Action.course uniform actions).2 = [⟨"tenant01", "own"⟩] ∧
      ∃ registration ∈ (Action.course uniform actions).1.store.list .registration,
        registration.status.userKubeconfig = "own" := by
    decide +kernel
  refine ⟨arrived, credentials_stay_in_their_namespace rfl rfl actions fun action actionMem => ?_⟩
  simp only [actions, onboarding, List.cons_append, List.nil_append, List.mem_cons,
    List.not_mem_nil, or_false] at actionMem
  rcases actionMem with rfl | rfl | rfl | rfl | rfl | rfl | rfl
  · exact ⟨⟨by decide, by decide, by decide⟩, rfl, fun isDeployment => by contradiction⟩
  · exact ⟨⟨by decide, by decide, by decide⟩, rfl, fun isDeployment => by contradiction⟩
  all_goals trivial

def hosting : List Action :=
  onboarding.take 1

/-- The registration is applied, and there is a tick. -/
def joining : List Action :=
  (onboarding.drop 1).take 2

/-- A deployment with the label of another tenant's registration. -/
def mislabelled : List Action :=
  hosting ++
    [requested
      { name := "app", scope := "tenant02"
        labels := Labels.set .empty registrationLabel "tenant01/web" },
      .tick {} [], .tick {} [], served ⟨"tenant02", "app-00000"⟩ 5 "foreign"] ++
    joining

/-- A label that is carried over to a deployment of another namespace, whose key has the same text
as the key of the one that the label was put on. -/
def conflated : List Action :=
  hosting ++
    [requested
      { scope := "tenant01", generateName := "x/y-"
        labels := Labels.set .empty registrationLabel "tenant01/web" },
      requested { name := "y-00000", scope := "tenant01/x" },
      .tick {} [], .tick {} [], served ⟨"tenant01/x", "y-00000-00000"⟩ 6 "foreign"] ++
    joining

/-- An entry of the label index that is read as one of another deployment's instance. -/
def misread : List Action :=
  hosting ++
    [requested { scope := "tenant01", generateName := "web\x00zzz-" },
      requested { scope := "zzz-00000\x00tenant01", generateName := "web\x00zzz-" },
      .tick {} [], .tick {} [],
      served ⟨"zzz-00000\x00tenant01", "web\x00zzz-00000-00000"⟩ 10 "foreign",
      requested
        { name := "web", scope := "tenant01"
          labels := Labels.set .empty registrationLabel "tenant01/web" },
      .tick {} []] ++
    joining

/-- No document has a status, and yet a registration comes to show an access file that was not
delivered to its namespace. -/
def ShowsForeign (actions : List Action) : Prop :=
  (∀ action ∈ actions, action.isBlank = true) ∧
    ∃ registration ∈ (Action.course uniform actions).1.store.list .registration,
      ¬ IsDelivered (Action.course uniform actions).2 registration.key.scope
        registration.status.userKubeconfig

instance (actions : List Action) : Decidable (ShowsForeign actions) :=
  inferInstanceAs (Decidable (_ ∧ _))

/-- It takes no more than a label of a user's choice, slashes in namespaces, or the separator of the
label index in them. -/
theorem foreign_credentials_are_shown :
    ShowsForeign mislabelled ∧ ShowsForeign conflated ∧ ShowsForeign misread := by
  decide +kernel

end World

end TenantFleet
