import TenantFleet.Proofs.Derivation.Completion
import TenantFleet.Proofs.Passes.Outcomes
import TenantFleet.Proofs.Runs.Isolation

/-!
# Names that the store gives

Whatever a run has done, the name that the store completes for a user's object is
a DNS label just if its start begins one, and so is the name of an instance.  In
all else what is stored under such a name has passed review, or would pass it.
-/

namespace TenantFleet

namespace World

variable {world current : World}

/-- In every state of a run from an empty store, an object that is created with the start of a name
is stored under a DNS label and passes review just if the start begins a DNS label.  The same goes
for the instance of a stored deployment, as long as the ids are long enough, so a deployment whose
name is a DNS label has one that passes review just if its name leaves room for six more
characters. -/
theorem completed_names_pass_review_iff (empty : world.store = {}) (unwritten : world.journal = [])
    (actions : List Action) (passed : (actions.foldl Action.perform world).Passed current.store)
    (long : ∀ index, idLength ≤ (current.ids.value index).length) :
    (∀ {kind : Kind} {object created : Object kind} {after : World},
      object.metadata.name = "" →
      (Admission.create object).runOn current = (.ok created, after) →
        after.store.HasCompleted object.metadata.generateName created) ∧
    ∀ (settings : Settings), ∀ deployment ∈ current.store.list .deployment,
      ∀ (created : TenantInstance) (after : World),
      (Deployment.makeInstance settings (Object.withDefaults deployment)).runOn current =
        (.ok created, after) →
        after.store.HasCompleted (deployment.metadata.name ++ "-") created ∧
        (isDnsLabel deployment.metadata.name = true →
          (Object.errors created = [] ↔ deployment.metadata.name.length + 6 ≤ longestName)) := by
  have meets : current.store.Meets fun _ => Object.IsWhole :=
    meets_of_passed Object.IsWhole.standing (fun _ => True)
      (fun _ written meets => written.isWhole meets) empty unwritten actions
      (fun _ _ => trivial) passed
  refine ⟨fun unnamed ran => Admission.hasCompleted_of_create unnamed ran, ?_⟩
  intro settings deployment present created after made
  have completed := Deployment.hasCompleted_of_makeInstance meets long present made
  exact ⟨completed, fun isLabel => completed.isValid.trans (beginsDnsLabel_dashed isLabel)⟩

/-- A deployment that asks for no more than it has to. -/
def plainDeployment (name generateName : String) : Deployment where
  metadata := { name := name, scope := "tenant01", generateName := generateName }
  spec := { tenantId := "tenant01", purpose := "demo" }
  status := {}

/-- There is a target, and a deployment under its own name. -/
def provision (name : String) : List Action :=
  hosting ++ [.apply (.deployment (plainDeployment name ""))]

def deploying (name : String) : World :=
  { (provision name).foldl Action.perform uniform with ids := .constant "id000001" }

theorem store_deploying (name : String) :
    (deploying name).store = ((provision name).foldl Action.perform uniform).store := by
  simp only [deploying]

theorem idLength_le_deploying (name : String) (index : Nat) :
    idLength ≤ ((deploying name).ids.value index).length := by
  simp only [deploying, Supply.constant]
  decide

/-- What is stored for a deployment of which the user gives the start of the name. -/
def drafted? (start : String) : Option Deployment :=
  (Admission.create (plainDeployment "" start)).outcome? (deploying "web")

/-- What is stored as the instance of the deployment under the name. -/
def realised? (name : String) : Option TenantInstance :=
  ((deploying name).store.find? .deployment ⟨"tenant01", name⟩).bind fun deployment =>
    (Deployment.makeInstance {} (Object.withDefaults deployment)).outcome? (deploying name)

/-- A deployment that is drafted with a proper start passes review once it is stored, and so does
the instance of one that has a short name. -/
theorem completed_names_pass_review_once_deployed :
    (∃ deployment, drafted? "web-" = some deployment ∧ Object.errors deployment = []) ∧
      ∃ realised, realised? "web" = some realised ∧ Object.errors realised = [] := by
  obtain ⟨ofDrafts, ofInstances⟩ :=
    completed_names_pass_review_iff rfl rfl (provision "web") (.inl (store_deploying "web"))
      (idLength_le_deploying "web")
  have isDrafted : (drafted? "web-").isSome = true := by decide +kernel
  obtain ⟨created, said⟩ := Option.isSome_iff_exists.1 isDrafted
  obtain ⟨after, ran⟩ := Pass.exists_of_outcome? said
  refine ⟨⟨created, said, (ofDrafts rfl ran).isValid.2 (by decide)⟩, ?_⟩
  have isRealised : (realised? "web").isSome = true := by decide +kernel
  obtain ⟨realised, made⟩ := Option.isSome_iff_exists.1 isRealised
  obtain ⟨deployment, isFound, saidToo⟩ := Option.bind_eq_some_iff.1 made
  obtain ⟨later, ranToo⟩ := Pass.exists_of_outcome? saidToo
  have isNamed : ((deploying "web").store.find? .deployment ⟨"tenant01", "web"⟩).map
      (fun found => found.metadata.name) = some "web" := by decide +kernel
  rw [isFound] at isNamed
  have sameName : deployment.metadata.name = "web" := Option.some.inj isNamed
  obtain ⟨-, ofLabels⟩ :=
    ofInstances {} deployment (Store.mem_list_of_find? isFound) realised later ranToo
  rw [sameName] at ofLabels
  exact ⟨realised, made, (ofLabels (by decide)).2 (by decide)⟩

/-- Review lets an upper-case letter through in the start of a name, and a name with as many
characters as it may have; it accepts neither the deployment that is stored for the one nor the
instance of the other. -/
theorem completed_names_fail_review :
    let longest := String.ofList (List.replicate longestName 'a')
    (drafted? "Web").any (fun deployment => !(Object.errors deployment).isEmpty) = true ∧
      isDnsLabel longest = true ∧
      (realised? longest).any (fun realised => !(Object.errors realised).isEmpty) = true := by
  decide +kernel

end World

end TenantFleet
