import TenantFleet.Proofs.Passes.Outcomes
import TenantFleet.Proofs.Reapplying.Manifests
import TenantFleet.Proofs.Runs.Edits
import TenantFleet.Proofs.Runs.Isolation

/-!
# Documents that are applied again

In every state of a run, a document that has been accepted, and one that has been
exported, is applied as an update that changes nothing but a resource version, as
long as the store can read the object back.  For that the store has to hold what
the passes have made as well as what users have handed in: complete, in order and
with nothing spent.  The index of labels does not change either where no key has
a NUL character in it.
-/

namespace TenantFleet

variable {store after : Store} {kind : Kind}

/-! ### Keys without NUL characters -/

/-- What the passes make has a key without NUL characters if what they make it from has. -/
theorem ObjectKey.nulFree_standing :
    Standing fun _ object => '\x00' ∉ object.keyText.toList where
  congr {_ first second} free sameKey _ := by
    have sameText : second.keyText = first.keyText := congrArg text sameKey
    rwa [sameText]
  housed registration free := by
    have noScope : '\x00' ∉ "".toList := by decide
    exact nul_not_mem_text_iff.2 ⟨noScope, (nul_not_mem_text_iff.1 free).1⟩
  realised free isNew := isNew.isNamedAfter.nul_not_mem_text free
  renewed _ _ free := free
  derived _ free := free
  carried _ _ _ free := free

theorem Admission.Write.hasNulFreeKeys {object : Object kind}
    (written : Admission.Write object store after) (free : store.HasNulFreeKeys)
    (named : object.metadata.name ≠ "") (ofObject : '\x00' ∉ object.keyText.toList) :
    after.HasNulFreeKeys := by
  refine ObjectKey.nulFree_standing.document free written named ?_
  intro complete sameKey _ _
  have sameText : complete.keyText = object.keyText := congrArg ObjectKey.text sameKey
  rwa [sameText]

theorem Manifest.Write.hasNulFreeKeys {manifest : Manifest} (written : manifest.Write store after)
    (free : store.HasNulFreeKeys) (named : manifest.metadata.name ≠ "")
    (ofManifest : '\x00' ∉ manifest.metadata.key.text.toList) : after.HasNulFreeKeys := by
  cases written with
  | tenantSpace written | target written | deployment written | registration written =>
      exact written.hasNulFreeKeys free named ofManifest
  | @scheduling draft scheduling _ _ accepted written =>
      have sameMetadata := SchedulingDraft.metadata_of_reviewed accepted
      have sameText : Object.keyText scheduling = draft.metadata.key.text :=
        congrArg (fun metadata => metadata.key.text) sameMetadata
      exact written.hasNulFreeKeys free (sameMetadata ▸ named) (sameText ▸ ofManifest)

/-- A document that is applied has a key without NUL characters. -/
def Action.HasNulFreeKey : Action → Prop
  | .apply manifest => '\x00' ∉ manifest.metadata.key.text.toList
  | _ => True

/-- Such documents leave no key with a NUL character, and an exact index. -/
theorem Action.Write.isIndexed {action : Action} (written : action.Write store after)
    (explicit : action.IsExplicit) (free : action.HasNulFreeKey)
    (indexed : store.HasNulFreeKeys ∧ store.IsIndexed) :
    after.HasNulFreeKeys ∧ after.IsIndexed := by
  refine ⟨?_, written.edit.isIndexed indexed.1 indexed.2⟩
  refine ObjectKey.nulFree_standing.action indexed.1 written fun manifest isApply applied => ?_
  subst isApply
  exact applied.hasNulFreeKeys indexed.1 explicit.2 free

namespace World

variable {world current : World}

/-- A run whose documents have keys without NUL characters keeps the index exact. -/
theorem isIndexed_of_passed (empty : world.store = {}) (unwritten : world.journal = [])
    (actions : List Action) (explicit : ∀ action ∈ actions, action.IsExplicit)
    (free : ∀ action ∈ actions, action.HasNulFreeKey)
    (passed : (actions.foldl Action.perform world).Passed store) : store.IsIndexed :=
  (holds_of_passed (fun action => action.IsExplicit ∧ action.HasNulFreeKey)
    (fun allowed written => written.isIndexed allowed.1 allowed.2)
    ⟨Store.meets_empty _, Store.isIndexed_empty⟩ empty unwritten actions
    (fun action actionMem => ⟨explicit action actionMem, free action actionMem⟩) passed).2

/-- In every state of a run from an empty store by documents with names of their own, deletions,
reports and passes, a document with a name and without a version that has been accepted can be
applied again at once, and so can the manifest that is read from the JSON of a stored target,
deployment, registration or scheduling object with its kind put in.  Either touches nothing but the
resource version of the object, unless the store cannot read the object back.  For the index of
labels to stay as well, it must not have lost the entries of the object:  it has them after a
document has been applied, and always where no document has a NUL character in its key. -/
theorem reapplying_touches_nothing_else (empty : world.store = {}) (unwritten : world.journal = [])
    (actions : List Action) (explicit : ∀ action ∈ actions, action.IsExplicit)
    (passed : (actions.foldl Action.perform world).Passed current.store) :
    (∀ (manifest : Manifest) (report : Manifest.Report) (middle : World),
      manifest.metadata.name ≠ "" → manifest.metadata.resourceVersion = 0 →
      manifest.apply.runOn current = (.ok report, middle) →
        ∃ first ∈ middle.store.list manifest.kind,
          (∃ effect, report = ⟨manifest.kind, first.key, effect⟩) ∧
          manifest.Reapplies middle first ∧ middle.store.Lists first) ∧
    ∀ (kind : Kind) (stored : Object kind) (before behind : List (String × Json)),
      kind ≠ .tenantSpace ∧ kind ≠ .tenantInstance → stored ∈ current.store.list kind →
      stored.Fits → stored.toJson = .object (before ++ behind) →
        (∃ manifest,
          Manifest.ofJson? (.object (before ++ ("kind", .string kind.title) :: behind)) =
            some manifest ∧ manifest.Reapplies current stored) ∧
        ((∀ action ∈ actions, action.HasNulFreeKey) → current.store.Lists stored) := by
  have unspent : current.store.IsUnspent :=
    holds_of_passed (fun _ => True) (fun _ written unspent => written.edit.isUnspent unspent)
      Store.isUnspent_empty empty unwritten actions (fun _ _ => trivial) passed
  have inOrder := isInOrder_of_passed empty unwritten actions explicit passed
  have complete : current.store.Meets fun _ => Object.IsComplete :=
    meets_of_passed Object.IsComplete.standing Action.IsExplicit
      (fun explicit written complete => written.isComplete complete explicit.2) empty unwritten
      actions explicit passed
  refine ⟨?again, ?exported⟩
  case again =>
    intro manifest report middle named unversioned ran
    obtain ⟨first, isKnown, lists, reported⟩ :=
      Manifest.isKnownAs_of_apply unspent named unversioned ran
    exact ⟨first, isKnown.isPresent, reported, isKnown.reapplies, lists⟩
  case exported =>
    intro kind stored before behind isUsers present fits spelled
    refine ⟨Object.exists_reapplies isUsers present unspent (inOrder kind stored present)
      (complete kind stored present) fits spelled, fun free => ?_⟩
    exact (isIndexed_of_passed empty unwritten actions explicit free passed).lists present

theorem hasNulFreeKey_ruled : ∀ action ∈ ruled, action.HasNulFreeKey := by
  have document {manifest : Manifest} (free : '\x00' ∉ manifest.metadata.key.text.toList) :
      (Action.apply manifest).HasNulFreeKey := free
  intro action actionMem
  simp only [ruled, onboarding, List.cons_append, List.nil_append, List.mem_cons, List.not_mem_nil,
    or_false] at actionMem
  rcases actionMem with rfl | rfl | rfl | rfl | rfl | rfl | rfl | rfl | rfl
  all_goals first | exact document (by decide) | trivial

/-- The rules are applied once more, and again after that; and the deployment that was derived is
exported and applied. -/
theorem reapplying_touches_nothing_else_once_ruled :
    let current := ruled.foldl Action.perform uniform
    let manifest := Manifest.scheduling .nested
    (∃ report middle after, ∃ first ∈ middle.store.list .scheduling,
      manifest.apply.runOn current = (.ok report, middle) ∧
        manifest.apply.runOn middle = (.ok ⟨.scheduling, first.key, .updated⟩, after) ∧
        after.store = middle.store.touched first) ∧
    ∃ derived ∈ current.store.list .deployment, ∃ entries exported after,
      Object.toJson derived = .object entries ∧
        Manifest.ofJson? (.object (entries ++ [("kind", .string "Deployment")])) =
          some exported ∧
        exported.apply.runOn current = (.ok ⟨.deployment, derived.key, .updated⟩, after) ∧
        after.store = current.store.touched derived := by
  intro current manifest
  have isLast : (ruled.foldl Action.perform uniform).Passed current.store := .inl rfl
  obtain ⟨again, exporting⟩ :=
    reapplying_touches_nothing_else rfl rfl ruled isExplicit_ruled isLast
  refine ⟨?again, ?exported⟩
  case again =>
    have isAccepted : (manifest.apply.outcome? current).isSome = true := by decide +kernel
    obtain ⟨report, said⟩ := Option.isSome_iff_exists.1 isAccepted
    obtain ⟨middle, ran⟩ := Pass.exists_of_outcome? said
    obtain ⟨first, present, -, reapplies, lists⟩ := again manifest report middle (by decide) rfl ran
    have allLegible :
        ((manifest.apply.runOn current).2.store.list .scheduling).all Object.isLegible := by
      decide +kernel
    rw [ran] at allLegible
    obtain ⟨after, ranAgain, touches⟩ :=
      reapplies.legible (List.all_eq_true.1 allLegible first present)
    exact ⟨report, middle, after, first, present, ran, ranAgain, touches.whole lists⟩
  case exported =>
    have isDerived : ∃ derived ∈ current.store.list .deployment,
        Object.keyText derived = "tenant02/web" ∧
          Object.ofJson? .plain .deployment derived.toJson = some derived := by decide +kernel
    obtain ⟨derived, present, -, isRead⟩ := isDerived
    obtain ⟨entries, spelled⟩ : ∃ entries, Object.toJson derived = .object entries := ⟨_, rfl⟩
    have spelledWhole : Object.toJson derived = .object (entries ++ []) := by
      rw [spelled, List.append_nil]
    obtain ⟨⟨exported, isExported, reapplies⟩, lists⟩ := exporting .deployment derived entries []
      (by decide) present (Object.fits_of_ofJson? isRead) spelledWhole
    obtain ⟨after, ran, touches⟩ := reapplies.legible rfl
    exact ⟨derived, present, entries, exported, after, spelled, isExported, ran,
      touches.whole (lists hasNulFreeKey_ruled)⟩

/-- Rules with so many negations inside each other. -/
def denying (depth : Nat) : Manifest :=
  .scheduling {
    metadata := { name := "rules", scope := "fleet" }
    spec := ⟨[⟨7, [⟨"fleet", "east"⟩],
      SelectorDraft.ofSelectors [Nat.repeat .negation depth (.matchTenant "tenant01")]⟩]⟩ }

theorem isExplicit_denying (depth : Nat) : (Action.apply (denying depth)).IsExplicit := by
  have priority : Json.FitsSigned 7 := by decide
  have fits : (denying depth).Fits :=
    ⟨{ Metadata.fits_blank with }, fun rule ruleMem => by
      obtain rfl := List.mem_singleton.1 ruleMem
      exact priority⟩
  exact ⟨Manifest.fits_iff_exists_ofJson?.1 fits, (by decide : "rules" ≠ "")⟩

/-- A target of the given tier. -/
def tiered (scope tier : String) : Manifest :=
  .target {
    metadata := { name := "east", scope := scope, labels := Labels.set .empty "tier" tier }
    spec :=
      { priority := 1
        secret := { name := "access", scope := "fleet", entry := "kubeconfig" }
        ingressDomain := "example" }
    status := {} }

theorem isExplicit_tiered (scope tier : String) :
    (Action.apply (tiered scope tier)).IsExplicit := by
  have priority : Json.FitsSigned 1 := by decide
  have fits : (tiered scope tier).Fits :=
    ⟨{ Metadata.fits_blank with }, priority, Kind.statusFits_initialStatus⟩
  exact ⟨Manifest.fits_iff_exists_ofJson?.1 fits, (by decide : "east" ≠ "")⟩

/-- There are two targets with one entry in the index of labels between them, and the second one is
deleted. -/
def unlisting : List Action :=
  [.apply (tiered "p\x00q" "gold"), .apply (tiered "q" "gold\x00p"), .delete .target ⟨"q", "east"⟩]

def goldTargets (world : World) : List String :=
  (world.store.labelled .target "tier" "gold").map Object.keyText

/-- The manifest that the JSON of a stored object is with its kind behind it. -/
def exported? {kind : Kind} (stored : Object kind) : Option Manifest :=
  match stored.toJson with
  | .object entries => Manifest.ofJson? (.object (entries ++ [("kind", .string kind.title)]))
  | _ => none

/-- Rules with too many negations are accepted, and when they are applied again the store cannot
read them.  A target whose entry in the index has been taken out with another one is listed again
once it has been exported and applied. -/
theorem reapplying_fails_or_relists :
    ((Action.apply (denying 121)).IsExplicit ∧
      (denying 121).apply.outcome? uniform = some ⟨.scheduling, ⟨"fleet", "rules"⟩, .created⟩ ∧
      (denying 121).apply.failure? (Action.perform uniform (.apply (denying 121))) =
        some (.store .illegible)) ∧
    (∀ action ∈ unlisting, action.IsExplicit) ∧
      let current := unlisting.foldl Action.perform uniform
      goldTargets current = [] ∧
        ∃ stored ∈ current.store.list .target, (exported? stored).any fun exported =>
          exported.apply.outcome? current = some ⟨.target, stored.key, .updated⟩ ∧
            goldTargets (Action.perform current (.apply exported)) = [Object.keyText stored] := by
  refine ⟨⟨isExplicit_denying _, by decide +kernel⟩, ?_, by decide +kernel⟩
  intro action actionMem
  simp only [unlisting, List.mem_cons, List.not_mem_nil, or_false] at actionMem
  rcases actionMem with rfl | rfl | rfl
  · exact isExplicit_tiered _ _
  · exact isExplicit_tiered _ _
  · trivial

end World

end TenantFleet
