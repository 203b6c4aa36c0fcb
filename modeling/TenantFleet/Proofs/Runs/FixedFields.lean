import Mathlib.Data.List.Chain
import TenantFleet.Proofs.Derivation.Agreement
import TenantFleet.Proofs.Runs.Reports

/-!
# The fixed fields of deployments

The tenant of a deployment, and whether its data plane is from elsewhere, stay as
long as it is stored, whoever writes it and in whatever order: review sees to
that where users write, and a registration has put both there itself in what it
has derived.  They do change when a registration adopts a deployment that does
not agree with it, and when a registration is taken for the one that a label
names: for want of leaving the label, or the separator of the label index, to the
control plane.
-/

namespace TenantFleet

theorem Resync.Write.isBound {store after : Store} (written : Resync.Write store after)
    (bound : store.IsBound) (alike : store.AdoptsAlike) :
    after.IsBound ∧ store.KeepsFixed after := by
  have anchored := written.isAnchored bound.anchored
  have reviewed := written.reviewsRegistrations bound.reviewed
  rcases written.continues_or_advance with continues | ⟨key, advance⟩
  · exact ⟨⟨anchored, reviewed, continues.isAgreed bound.agreed⟩, continues.keepsFixed⟩
  · obtain ⟨agreed, kept⟩ := bound.advance alike advance
    exact ⟨⟨anchored, reviewed, agreed⟩, kept⟩

namespace Action

variable {action : Action} {store after : Store}

/-- Documents name registrations, and leave it to the control plane to label deployments. -/
def IsFair (action : Action) : Prop :=
  action.IsUnclaimed ∧ action.NamesRegistrations

/-- Every action leaves a store bound in which adopted deployments agree with their registrations,
and the deployments in it with what stays in their specs. -/
theorem Write.isBound (written : action.Write store after) (fair : action.IsFair)
    (bound : store.IsBound) (alike : store.AdoptsAlike) :
    after.IsBound ∧ store.KeepsFixed after := by
  have reviewed := written.reviewsRegistrations bound.reviewed fair.2
  -- what is done from outside neither derives anything nor takes a label away
  have outside (anchored : after.IsAnchored) (continues : store.Continues after) :
      after.IsBound ∧ store.KeepsFixed after :=
    ⟨⟨anchored, reviewed, continues.isAgreed bound.agreed⟩, continues.keepsFixed⟩
  cases written with
  | apply applied =>
      have anchored := Write.isAnchored (.apply applied) rfl fair.1 bound.anchored
      obtain ⟨agreed, kept⟩ := applied.agrees bound fair.1 fair.2
      exact ⟨⟨anchored, reviewed, agreed⟩, kept⟩
  | delete present sameText deletion =>
      exact outside (bound.anchored.deletion present deletion) (deletion.continues present)
  | report present sameText =>
      exact outside (bound.anchored.restate present _)
        ((Store.sameBeside_write _ _ _).continues (by decide) (by decide))
  | forget present sameText =>
      exact outside (bound.anchored.restate present _) (Store.continues_restated present rfl)
  | reconcileRegistration written => exact (Resync.Write.registration written).isBound bound alike
  | reconcileDeployment written => exact (Resync.Write.deployment written).isBound bound alike
  | reconcileInstance written => exact (Resync.Write.tenantInstance written).isBound bound alike
  | reconcileTarget written => exact (Resync.Write.target written).isBound bound alike
  | syncStatus written => exact (Resync.Write.report written).isBound bound alike
  | tick written => exact written.isBound bound alike

end Action

namespace World

variable {start : Store} {before after : World} {relation : Store → Store → Prop}

/-- The journal leads from a store to the present one, and each store in it is related to the
next. -/
structure Traces (relation : Store → Store → Prop) (start : Store) (world : World) : Prop where
  chain : (start :: world.journal).IsChain relation
  last : (start :: world.journal).getLast? = some world.store

theorem Through.journal_isPrefix {sort : Store → Store → Prop}
    (through : Through sort before after) : before.journal <+: after.journal := by
  induction through with
  | idle sameStore sameJournal => exact sameJournal ▸ List.prefix_refl _
  | write earlier written noted ih => exact noted ▸ ih.trans (List.prefix_append _ _)

theorem journal_isPrefix_performAll (world : World) (actions : List Action) :
    world.journal <+: (actions.foldl Action.perform world).journal := by
  induction actions generalizing world with
  | nil => exact List.prefix_refl _
  | cons action rest ih => exact (action.through_perform world).journal_isPrefix.trans (ih _)

/-- Steps that keep a property and are related extend the trace, as long as each begins with a store
that is allowed. -/
theorem Through.traces {sort : Store → Store → Prop} (allowed property : Store → Prop)
    (step : ∀ {first second : Store}, allowed first → property first → sort first second →
      property second ∧ relation first second)
    (through : Through sort before after)
    (areAllowed : ∀ store ∈ start :: after.journal, allowed store)
    (atStart : property before.store) (traces : Traces relation start before) :
    property after.store ∧ Traces relation start after := by
  induction through with
  | idle sameStore sameJournal =>
      refine ⟨sameStore ▸ atStart, ?_, ?_⟩
      · exact sameJournal ▸ traces.chain
      · exact sameJournal ▸ sameStore ▸ traces.last
  | @write middle after earlier written noted ih =>
      have isLonger : start :: after.journal = (start :: middle.journal) ++ [after.store] := by
        rw [noted, List.cons_append]
      obtain ⟨holds, chain, last⟩ := ih fun store storeMem =>
        areAllowed store (isLonger ▸ List.mem_append_left _ storeMem)
      obtain ⟨next, related⟩ := step
        (areAllowed middle.store (isLonger ▸ List.mem_append_left _ (List.mem_of_getLast? last)))
        holds written
      refine ⟨next, ?_, ?_⟩
      · rw [isLonger, List.isChain_append]
        refine ⟨chain, List.isChain_singleton _, fun first isFirst second isSecond => ?_⟩
        have isMiddle : middle.store = first := Option.some.inj (last.symm.trans isFirst)
        have isAfter : after.store = second := by simpa using isSecond
        exact isMiddle ▸ isAfter ▸ related
      · rw [isLonger, List.getLast?_append]
        rfl

/-- The same for actions in a row. -/
theorem traces_performAll {permitted : Action → Prop} (allowed property : Store → Prop)
    (step : ∀ {action : Action} {first second : Store}, permitted action → allowed first →
      property first → action.Write first second → property second ∧ relation first second)
    {world : World} (actions : List Action) (arePermitted : ∀ action ∈ actions, permitted action)
    (areAllowed : ∀ store ∈ start :: (actions.foldl Action.perform world).journal, allowed store)
    (atStart : property world.store) (traces : Traces relation start world) :
    Traces relation start (actions.foldl Action.perform world) := by
  induction actions generalizing world with
  | nil => exact traces
  | cons action rest ih =>
      have included : ∀ store ∈ start :: (action.perform world).journal, allowed store := by
        intro store storeMem
        refine areAllowed store ?_
        exact (List.cons_prefix_cons.2 ⟨rfl, journal_isPrefix_performAll _ rest⟩).subset storeMem
      obtain ⟨holds, longer⟩ := (action.through_perform world).traces allowed property
        (fun isAllowed holds written =>
          step (arePermitted action List.mem_cons_self) isAllowed holds written)
        included atStart traces
      exact ih (fun other otherMem => arePermitted other (List.mem_cons_of_mem action otherMem))
        areAllowed holds longer

/-- As long as a deployment is there, what stays in its spec does. -/
theorem sameFixed_of_isChain {key : ObjectKey} {first : Deployment} {store : Store}
    {rest : List Store} (found : store.find? .deployment key = some first)
    (chain : (store :: rest).IsChain Store.KeepsFixed)
    (lives : ∀ later ∈ rest, (later.find? .deployment key).isSome = true) :
    ∀ later ∈ store :: rest, ∀ deployment : Deployment,
      later.find? .deployment key = some deployment → first.SameFixed deployment := by
  induction rest generalizing store first with
  | nil =>
      intro later laterMem deployment laterFound
      obtain rfl := List.mem_singleton.1 laterMem
      obtain rfl := Option.some.inj (found.symm.trans laterFound)
      exact ⟨rfl, rfl⟩
  | cons next rest ih =>
      rw [List.isChain_cons_cons] at chain
      obtain ⟨second, secondFound⟩ := Option.isSome_iff_exists.1 (lives next List.mem_cons_self)
      have same := chain.1 key first second found secondFound
      intro later laterMem deployment laterFound
      rcases List.mem_cons.1 laterMem with rfl | isLater
      · obtain rfl := Option.some.inj (found.symm.trans laterFound)
        exact ⟨rfl, rfl⟩
      · have stays := ih secondFound chain.2
          (fun other otherMem => lives other (List.mem_cons_of_mem next otherMem)) later isLater
          deployment laterFound
        exact ⟨stays.1.trans same.1, stays.2.trans same.2⟩

/-- In every run from an empty store in which documents are fair, and each registration that adopts
a deployment agrees with it: throughout every stretch of stores with a deployment under a key, that
has one tenant, and a data plane from elsewhere in all of them or in none. -/
theorem fixed_fields_stay {world : World} (empty : world.store = {})
    (unwritten : world.journal = []) (actions : List Action)
    (fair : ∀ action ∈ actions, action.IsFair)
    (alike : ∀ store ∈ (actions.foldl Action.perform world).journal, store.AdoptsAlike)
    {stores : List Store} (stretch : stores <:+: (actions.foldl Action.perform world).journal)
    {key : ObjectKey}
    (lives : ∀ store ∈ stores, (store.find? .deployment key).isSome = true) :
    ∃ tenantId external, ∀ store ∈ stores, ∀ deployment : Deployment,
      store.find? .deployment key = some deployment →
        deployment.spec.tenantId = tenantId ∧ deployment.spec.dataPlane.isSome = external := by
  have atStart : Traces Store.KeepsFixed {} world :=
    ⟨by simp [unwritten], by simp [unwritten, empty]⟩
  have traces := traces_performAll Store.AdoptsAlike Store.IsBound
    (fun isFair isAlike bound written => written.isBound isFair bound isAlike) actions fair
    (List.forall_mem_cons.2 ⟨Store.adoptsAlike_empty, alike⟩) (empty ▸ Store.isBound_empty) atStart
  have chain : stores.IsChain Store.KeepsFixed := traces.chain.tail.infix stretch
  cases stores with
  | nil => exact ⟨"", false, by simp⟩
  | cons store rest =>
      obtain ⟨first, found⟩ := Option.isSome_iff_exists.1 (lives store List.mem_cons_self)
      refine ⟨first.spec.tenantId, first.spec.dataPlane.isSome, ?_⟩
      exact sameFixed_of_isChain found chain
        fun later laterMem => lives later (List.mem_cons_of_mem store laterMem)

/-- The registration of the name `web` is applied with a purpose and a data plane. -/
def joinedWith (scope purpose : String) (dataPlane : Option DataPlane) : Action :=
  .apply (.registration
    { metadata := { name := "web", scope := scope }
      spec := { purpose := purpose, dataPlane := dataPlane }
      status := {} })

/-- A registration adopts a deployment that agrees with it, and gets another purpose. -/
def repurposed : List Action :=
  [supplied "tenant01" .empty, joined "tenant01", .tick {} [], .tick {} [],
    joinedWith "tenant01" "live" none, .tick {} []]

/-- The purpose comes to the deployment, and the tenant stays in every store from its creation
on. -/
theorem fixed_fields_stay_once_repurposed :
    let journal := (repurposed.foldl Action.perform uniform).journal
    (∃ store ∈ journal, ∃ deployment ∈ store.list .deployment,
      DeploymentSpec.purpose deployment.spec = "live") ∧
    ∃ tenantId external, ∀ store ∈ journal, ∀ deployment : Deployment,
      store.find? .deployment ⟨"tenant01", "web"⟩ = some deployment →
        deployment.spec.tenantId = tenantId ∧ deployment.spec.dataPlane.isSome = external := by
  intro journal
  have fair : ∀ action ∈ repurposed, action.IsFair := by
    intro action actionMem
    simp only [repurposed, List.mem_cons, List.not_mem_nil, or_false] at actionMem
    have notDeployment : Kind.registration ≠ .deployment := by decide
    have named : "web" ≠ "" := by decide
    rcases actionMem with rfl | rfl | rfl | rfl | rfl | rfl
    · exact ⟨⟨⟨by decide, by decide, by decide⟩, fun _ => rfl⟩, trivial⟩
    · exact ⟨⟨⟨by decide, by decide, by decide⟩, fun isOne => absurd isOne notDeployment⟩,
        named⟩
    · exact ⟨trivial, trivial⟩
    · exact ⟨trivial, trivial⟩
    · exact ⟨⟨⟨by decide, by decide, by decide⟩, fun isOne => absurd isOne notDeployment⟩,
        named⟩
    · exact ⟨trivial, trivial⟩
  have alike : ∀ store ∈ journal, store.AdoptsAlike := by decide +kernel
  have lives : ∀ store ∈ journal,
      (store.find? .deployment ⟨"tenant01", "web"⟩).isSome = true := by decide +kernel
  exact ⟨by decide +kernel,
    fixed_fields_stay rfl rfl repurposed fair alike (List.infix_refl journal) lives⟩

/-- A deployment of another tenant is in the place of the registration's. -/
def takenOver : List Action :=
  [requested { name := "web", scope := "tenant01" }, joined "tenant01", .tick {} [], .tick {} []]

/-- The registration has a data plane from elsewhere, and the deployment in its place has not. -/
def opened : List Action :=
  [supplied "tenant01" .empty, joinedWith "tenant01" "demo" (some { kubeconfig := "own" }),
    .tick {} [], .tick {} []]

/-- The deployment of another tenant bears the label of the registration from the start. -/
def forestalled : List Action :=
  [requested
    { name := "web", scope := "tenant01"
      labels := Labels.set .empty registrationLabel "tenant01/web" },
    joined "tenant01", .tick {} [], .tick {} []]

/-- An entry of the label index goes with another deployment that has the same, so a registration is
let go before its deployment, and applied again with a data plane from elsewhere. -/
def outlived : List Action :=
  [joined "x\x00tena01", .tick {} [], .tick {} [],
    supplied "tena01" (Labels.set .empty (registrationLabel ++ "\x00x") "tena01/web\x00x"),
    .delete .deployment ⟨"tena01", "web"⟩, .delete .registration ⟨"x\x00tena01", "web"⟩,
    .tick {} [], joinedWith "x\x00tena01" "demo" (some { kubeconfig := "own" }),
    .tick {} [], .tick {} []]

/-- No document has a status, and yet a write changes what should stay in the spec of a
deployment. -/
def SwitchesFixed (actions : List Action) : Prop :=
  (∀ action ∈ actions, action.isBlank = true) ∧
    let journal := (actions.foldl Action.perform uniform).journal
    ∃ stores ∈ journal.zip journal.tail, ∃ earlier ∈ stores.1.list .deployment,
      ∃ later ∈ stores.2.list .deployment,
        later.keyText = earlier.keyText ∧ ¬ Deployment.SameFixed earlier later

instance (earlier later : Deployment) : Decidable (earlier.SameFixed later) :=
  inferInstanceAs (Decidable (_ ∧ _))

instance (actions : List Action) : Decidable (SwitchesFixed actions) :=
  inferInstanceAs (Decidable (_ ∧ ∃ stores ∈ _, _))

/-- It takes no more than a deployment in the place of a registration's own, a label of a user's
choice, or the separator of the label index in a key. -/
theorem fixed_fields_switch :
    SwitchesFixed takenOver ∧ SwitchesFixed opened ∧ SwitchesFixed forestalled ∧
      SwitchesFixed outlived := by
  decide +kernel

end World

end TenantFleet
