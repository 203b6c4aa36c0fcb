import TenantFleet.Proofs.Commutation.Effects
import TenantFleet.Proofs.Resumption.Registration

/-!
# The effect of the pass on a registration

The pass sees the registration and the deployment of its key, and amends both.
All that it has in common with other passes is the namespace of the tenant, and
that is there after it whoever was first.  The deployments that bear the label
of the registration are in this picture too: there is one at most, in the place
of the registration's own.
-/

namespace TenantFleet

namespace Registration

variable {store : Store} {world : World} {key : ObjectKey} {registration : Registration}
  {text : String}

/-- See to it that the namespace is there. -/
def opening (scope : String) : Amendment :=
  .supply .tenantSpace (ObjectKey.text ⟨"", scope⟩) ((tenantSpace scope).fresh scope)

theorem opening_commutes (first second : String) : (opening first).Commutes (opening second) := by
  by_cases same : first = second
  · subst same
    exact Amendment.commutes_self _
  · refine Amendment.commutes_of_place_ne fun samePlace => same ?_
    have sameText : ObjectKey.text ⟨"", first⟩ = ObjectKey.text ⟨"", second⟩ :=
      (Prod.mk.inj samePlace).2
    simpa [ObjectKey.text] using sameText

/-- The registration that shows the failure. -/
def showing (registration : Registration) (failure : PassFailure) : Registration :=
  registration.retold
    { registration.status with
      lastError := some (failure.record registration.status.lastError 0) }

/-- The registration that tells of the deployment. -/
def telling (registration : Registration) (deployment : ObjectKey) : Registration :=
  registration.retold (registration.syncedStatus deployment)

/-- What is left of a deployment that is deleted. -/
def remnant? (deployment : Deployment) : Option Deployment :=
  if deployment.metadata.finalizers.isEmpty then none else some deployment.marked

/-- On its way out the registration waits for the deployment that bears its label. -/
def leaving (text : String) (registration : Registration) (deployment : Option Deployment) :
    Doing PassFailure Outcome :=
  match deployment.filter fun existing =>
      existing.metadata.hasLabel registrationLabel registration.key.text with
  | some existing =>
      if existing.isMarked then (.ok .waiting, [])
      else (.ok .deleteIssued, [.put .deployment text (remnant? existing)])
  | none =>
      if registration.isHeld then (.ok .gone, [.put .registration text registration.relieved?])
      else (.ok .waiting, [])

def failing (text : String) (registration : Registration) (failure : PassFailure) :
    Doing PassFailure Outcome :=
  (.error failure, [.put .registration text (some (registration.showing failure))])

/-- The deployment is written, and the registration tells of it. -/
def settling (text : String) (registration : Registration) (next : Deployment) :
    Doing PassFailure Outcome :=
  (.ok .synced,
    [.put .deployment text (some next),
      .put .registration text (some (registration.telling next.key))])

/-- The deployment is brought to what the registration asks for. -/
def providing (text : String) (registration : Registration) :
    Option Deployment → Doing PassFailure Outcome
  | none =>
      if registration.key.name = "" then
        failing text registration
          ⟨.reconcile, .createDeployment, .store (.unnamed .deployment registration.key.scope)⟩
      else
        settling text registration (registration.newDeployment.fresh registration.key.name)
  | some existing =>
      if existing.isMarked then (.ok .waiting, [])
      else if existing.spec = registration.derivedSpec ∧
          existing.metadata.hasLabel registrationLabel registration.key.text then
        (.ok .synced, [.put .registration text (some (registration.telling existing.key))])
      else
        settling text registration (existing.rewritten (registration.carriedInto existing))

def carrying (text : String) (registration : Registration) (deployment : Option Deployment) :
    Doing PassFailure Outcome :=
  if registration.key.scope = "" then
    failing text registration
      ⟨.reconcile, .createNamespace, .store (.unnamed .tenantSpace "")⟩
  else
    let (said, amendments) := providing text registration deployment
    (said, opening registration.key.scope :: amendments)

/-- What the pass says of the registration and the deployment of its key, and what it amends. -/
def doing (text : String) (deployment : Option Deployment) :
    Option Registration → Doing PassFailure Outcome
  | none => (.ok .notFound, [])
  | some registration =>
      if registration.isMarked then leaving text registration deployment
      else if !registration.isHeld then
        (.ok .finalizerAdded,
          [.put .registration text (some (registration.rewritten registration.hold))])
      else if registration.status.observedGeneration = registration.metadata.generation then
        (.ok .upToDate, [])
      else carrying text registration deployment

/-- The places of the registration and of the deployment that is derived from it. -/
def places (text : String) : List Store.Place :=
  [(.registration, text), (.deployment, text)]

/-- The effect of the pass on the registration under `key`. -/
def effect (key : ObjectKey) : Effect PassFailure Outcome where
  sees := places key.text
  does contents :=
    doing key.text (contents (.deployment, key.text)) (contents (.registration, key.text))
  heeds same := by
    rw [same (.registration, key.text) (by simp [places]),
      same (.deployment, key.text) (by simp [places])]

section Places

variable {deployment : Option Deployment}

theorem place_mem_of_failing {failure : PassFailure} :
    ∀ amendment ∈ (failing text registration failure).2, amendment.place ∈ places text := by
  simp [failing, places, Amendment.put]

theorem place_mem_of_settling {next : Deployment} :
    ∀ amendment ∈ (settling text registration next).2, amendment.place ∈ places text := by
  simp [settling, places, Amendment.put]

theorem place_mem_of_providing :
    ∀ amendment ∈ (providing text registration deployment).2, amendment.place ∈ places text := by
  unfold providing
  split
  · split
    · exact place_mem_of_failing
    · exact place_mem_of_settling
  · split
    · simp
    · split
      · simp [places, Amendment.put]
      · exact place_mem_of_settling

theorem place_mem_of_leaving :
    ∀ amendment ∈ (leaving text registration deployment).2, amendment.place ∈ places text := by
  unfold leaving
  split
  · split
    · simp
    · simp [places, Amendment.put]
  · split
    · simp [places, Amendment.put]
    · simp

/-- The pass amends the registration, its deployment, and a namespace that it opens. -/
theorem keepsTo_effect (key : ObjectKey) :
    (effect key).KeepsTo fun amendment => ∃ scope, amendment = opening scope := by
  intro contents amendment amends
  have isDoing : amendment ∈ (doing key.text (contents (.deployment, key.text))
    (contents (.registration, key.text))).2 := amends
  unfold doing at isDoing
  split at isDoing
  · exact absurd isDoing List.not_mem_nil
  split at isDoing
  · exact .inl (place_mem_of_leaving amendment isDoing)
  split at isDoing
  · obtain rfl := List.mem_singleton.1 isDoing
    exact .inl (List.mem_cons_self)
  split at isDoing
  · exact absurd isDoing List.not_mem_nil
  unfold carrying at isDoing
  split at isDoing
  · exact .inl (place_mem_of_failing amendment isDoing)
  rcases List.mem_cons.1 isDoing with rfl | isProviding
  · exact .inr ⟨_, rfl⟩
  · exact .inl (place_mem_of_providing amendment isProviding)

/-- The passes on two registrations meet at most in the namespace that both open. -/
theorem effect_isApart {key other : ObjectKey} (different : key.text ≠ other.text) :
    (effect key).IsApart (effect other) := by
  refine (keepsTo_effect key).isApart (keepsTo_effect other) ?disjoint ?unseen ?commute
  case disjoint =>
    have textOf {place : Store.Place} {text : String} (seen : place ∈ places text) :
        place.2 = text := by
      rcases List.mem_cons.1 seen with rfl | isRest
      · rfl
      · exact List.mem_singleton.1 isRest ▸ rfl
    intro place seen otherSeen
    exact different ((textOf seen).symm.trans (textOf otherSeen))
  case unseen =>
    rintro _ ⟨scope, rfl⟩
    have elsewhere (text : String) : (opening scope).place ∉ places text := by
      simp [opening, places, Amendment.supply]
    exact ⟨elsewhere key.text, elsewhere other.text⟩
  case commute =>
    rintro _ _ ⟨scope, rfl⟩ ⟨next, rfl⟩
    exact opening_commutes scope next

end Places

/-! ### What the stores of a run have -/

theorem contents_synced (store : Store) (registration : Registration) (deployment : ObjectKey) :
    (synced store registration deployment).contents =
      Function.update store.contents (.registration, registration.keyText)
        (some (telling registration.unstamped deployment)) := by
  rw [synced, Store.contents_write, Object.unstamped_restated, telling, Object.retold_unstamped]
  rfl

theorem contents_recorded (store : Store) (registration : Registration) (failure : PassFailure)
    (now : Nat) :
    (recorded store registration failure now).contents =
      Function.update store.contents (.registration, registration.keyText)
        (some (showing registration.unstamped failure)) := by
  rw [recorded, Store.contents_write, Object.unstamped_restated, showing, Object.retold_unstamped]
  rfl

theorem contents_deleted (store : Store) (deployment : Deployment) (now : Nat) :
    (deleted store deployment now).contents =
      Function.update store.contents (.deployment, deployment.keyText)
        (remnant? deployment.unstamped) := by
  have sameFinalizers : deployment.unstamped.metadata.finalizers =
      deployment.metadata.finalizers := rfl
  unfold deleted remnant?
  rw [sameFinalizers]
  split
  · exact Store.contents_remove store deployment
  · rw [Store.contents_write, Object.unstamped_stamped]
    rfl

theorem apply_opening_of_present {scope : String} {space : TenantSpace}
    (isThere : store.find? .tenantSpace ⟨"", scope⟩ = some space) :
    (opening scope).apply store.contents = store.contents := by
  refine (congrArg (Function.update _ _) ?_).trans (Function.update_eq_self _ _)
  have held : store.contents (opening scope).place = some space.unstamped :=
    congrArg (Option.map Object.unstamped) isThere
  rw [held]
  rfl

theorem contents_spaced (absent : store.find? .tenantSpace ⟨"", registration.key.scope⟩ = none)
    (now : Nat) :
    (spaced store registration now).contents =
      (opening registration.key.scope).apply store.contents := by
  have free : store.contents (opening registration.key.scope).place = none :=
    congrArg (Option.map Object.unstamped) absent
  rw [spaced, Store.contents_write, Amendment.apply, free]
  rfl

/-- The namespace is there after the first step of the pass, whoever has opened it. -/
theorem exists_opened (named : registration.key.scope ≠ "") (world : World) :
    ∃ middle : World, (provideTenantSpace registration.key.scope).runOn world = (.ok (), middle) ∧
      Store.SameBeside .tenantSpace world.store middle.store ∧
      middle.store.contents = (opening registration.key.scope).apply world.store.contents := by
  cases isThere : world.store.find? .tenantSpace ⟨"", registration.key.scope⟩ with
  | none =>
      exact ⟨_, runOn_provideTenantSpace_of_absent named isThere, Store.sameBeside_write _ _ _,
        contents_spaced isThere world.clock.next⟩
  | some space =>
      exact ⟨world.afterDraws, runOn_provideTenantSpace_of_present named isThere,
        .refl world.store, (apply_opening_of_present isThere).symm⟩

/-- In an anchored store the deployments that bear the label of a registration are those in its own
place that do. -/
theorem labelled_eq_filter_find? (anchored : store.IsAnchored)
    (present : registration ∈ store.list .registration) :
    store.labelled .deployment registrationLabel registration.key.text =
      ((store.find? .deployment registration.key).filter fun deployment =>
        deployment.metadata.hasLabel registrationLabel registration.key.text).toList := by
  have free : '\x00' ∉ registration.key.text.toList :=
    anchored.free .registration registration present
  have ordered : Store.InKeyOrder ((store.find? .deployment registration.key).filter
      fun deployment => deployment.metadata.hasLabel registrationLabel
        registration.key.text).toList := by
    cases (store.find? .deployment registration.key).filter fun deployment =>
        deployment.metadata.hasLabel registrationLabel registration.key.text with
    | none => exact .nil
    | some deployment => exact List.pairwise_singleton _ _
  refine (store.ordered_labelled .deployment _ _).eq_of_mem_iff ordered fun deployment => ?_
  simp only [Option.mem_toList, Option.filter_eq_some_iff]
  constructor
  · intro listed
    have labelled := anchored.indexed.hasLabel_of_mem_labelled anchored.free (by decide) free listed
    have isStored := (Store.mem_labelled.1 listed).1
    have own := anchored.labelsOwn deployment isStored registration.key.text
      (beq_iff_eq.1 labelled)
    exact ⟨Store.find?_eq_some_of_mem isStored own.symm, labelled⟩
  · rintro ⟨isThere, labelled⟩
    exact anchored.indexed.mem_labelled_of_hasLabel (Store.mem_list_of_find? isThere) labelled

/-! ### Runs -/

/-- Work that fails without a write comes to the record of its failure. -/
theorem comesTo_of_failed (isFound : world.store.find? .registration key = some registration)
    {pass : Pass PassFailure Outcome} {failure : PassFailure} {middle : World}
    (failed : pass.runOn world = (.error failure, middle)) (same : middle.store = world.store) :
    (pass.onFailure (recordFailure key)).ComesTo world
      (failing registration.keyText registration.unstamped failure) := by
  have ran : (pass.onFailure (recordFailure key)).runOn world =
      (.error failure, (recordFailure key failure middle).2) := by
    rw [Pass.runOn_onFailure, failed]
  refine Pass.comesTo_of_runOn ran ?_
  rw [← same] at isFound ⊢
  have isLast : (recordFailure key failure middle).2.store =
      recorded middle.store registration failure middle.clock.next :=
    (wrote_recordFailure isFound failure).isLast
  rw [isLast, contents_recorded]
  rfl

/-- The deployment that is written is the one that the registration tells of. -/
theorem comesTo_of_provided (isFound : world.store.find? .registration key = some registration)
    {previous : Option Deployment} {next : Deployment} {middle : World}
    (provided : (provideDeployment registration).runOn world = (.ok (some next.key), middle))
    (written : middle.store = world.store.write previous next)
    (sameText : next.keyText = registration.keyText) :
    (completion key registration).ComesTo world
      (settling registration.keyText registration.unstamped next.unstamped) := by
  have stillFound : middle.store.find? .registration key = some registration := by
    rw [written, (Store.sameBeside_write _ _ _).find? (by decide), isFound]
  refine Pass.comesTo_of_runOn (runOn_completion_of_provided stillFound provided) ?_
  change (synced middle.store registration next.key).contents = _
  rw [contents_synced, written, Store.contents_write, sameText]
  rfl

/-- A deployment that is there is waited for, told of, or brought to what it is to be. -/
theorem comesTo_of_existing (isFound : world.store.find? .registration key = some registration)
    {existing : Deployment}
    (isThere : world.store.find? .deployment registration.key = some existing) :
    (completion key registration).ComesTo world
      (providing registration.keyText registration.unstamped (some existing.unstamped)) := by
  have sameText : existing.keyText = registration.keyText := Store.keyText_of_find? isThere
  have sameFit : (existing.unstamped.spec = derivedSpec registration.unstamped ∧
      existing.unstamped.metadata.hasLabel registrationLabel
        registration.unstamped.key.text = true) ↔
      (existing.spec = registration.derivedSpec ∧
        existing.metadata.hasLabel registrationLabel registration.key.text = true) := Iff.rfl
  rw [providing, Object.isMarked_unstamped]
  cases marked : Object.isMarked existing with
  | true => exact Pass.comesTo_of_runOn (runOn_completion_of_marked isThere marked) rfl
  | false =>
      rw [if_neg Bool.false_ne_true]
      by_cases fits : existing.spec = registration.derivedSpec ∧
          existing.metadata.hasLabel registrationLabel registration.key.text = true
      · have fitting : IsFitting registration existing := ⟨sameText, marked, fits.1, fits.2⟩
        have provided := runOn_provideDeployment_of_fitting isThere fitting
        rw [if_pos (sameFit.2 fits)]
        exact Pass.comesTo_of_runOn (runOn_completion_of_provided isFound provided)
          (contents_synced _ _ _)
      · have provided := runOn_provideDeployment_of_unfit isThere marked fits
        have carried := comesTo_of_provided isFound provided rfl sameText
        rw [if_neg (mt sameFit.1 fits)]
        rw [Object.unstamped_replacement] at carried
        exact carried

/-- What is done once the namespace is there. -/
theorem comesTo_completion (isFound : world.store.find? .registration key = some registration) :
    (completion key registration).ComesTo world
      (providing registration.keyText registration.unstamped
        ((world.store.find? .deployment registration.key).map Object.unstamped)) := by
  cases isThere : world.store.find? .deployment registration.key with
  | none =>
      rw [Option.map_none, providing, Object.key_unstamped]
      by_cases named : registration.key.name = ""
      · rw [if_pos named]
        exact comesTo_of_failed isFound (runOn_derive_of_unnamed isThere named) rfl
      · have provided := runOn_provideDeployment_of_absent isThere named
        rw [if_neg named]
        exact (comesTo_of_provided isFound provided rfl rfl :)
  | some existing => exact comesTo_of_existing isFound isThere

/-- With a deployment, a registration on its way out has it deleted, or waits for that. -/
theorem comesTo_of_owning {existing : Deployment}
    (isFound : world.store.find? .registration key = some registration)
    (marked : registration.isMarked = true)
    (listed : world.store.labelled .deployment registrationLabel registration.key.text = [existing])
    (sameText : existing.keyText = registration.keyText) :
    (reconcile key).ComesTo world
      (if existing.unstamped.isMarked then (.ok .waiting, [])
      else (.ok .deleteIssued,
        [.put .deployment registration.keyText (remnant? existing.unstamped)])) := by
  obtain ⟨after, ran, wrote⟩ := exists_reconcile_of_owning isFound marked
    (by rw [listed]; exact List.cons_ne_nil existing [])
  rw [Object.isMarked_unstamped]
  cases ending : Object.isMarked existing with
  | true =>
      have noneLasts : lasting world.store registration = [] := by simp [lasting, listed, ending]
      rw [noneLasts] at ran wrote
      exact Pass.comesTo_of_runOn ran (congrArg Store.contents wrote.isLast)
  | false =>
      have oneLasts : lasting world.store registration = [existing] := by
        simp [lasting, listed, ending]
      rw [oneLasts] at ran wrote
      refine Pass.comesTo_of_runOn ran ((congrArg Store.contents wrote.isLast).trans ?_)
      rw [← sameText]
      exact contents_deleted world.store existing (times world 0)

/-- Without one it is let go. -/
theorem comesTo_of_bare (isFound : world.store.find? .registration key = some registration)
    (marked : registration.isMarked = true)
    (bare : world.store.labelled .deployment registrationLabel registration.key.text = []) :
    (reconcile key).ComesTo world
      (if registration.unstamped.isHeld then
        (.ok .gone, [.put .registration registration.keyText registration.unstamped.relieved?])
      else (.ok .waiting, [])) := by
  rw [Object.isHeld_unstamped]
  cases isHeld : Object.isHeld registration with
  | true =>
      refine Pass.comesTo_of_runOn (runOn_reconcile_of_bare isFound marked isHeld bare) ?_
      exact Store.contents_letGo registration
  | false =>
      exact Pass.comesTo_of_runOn (runOn_reconcile_of_relieved isFound marked isHeld bare) rfl

theorem comesTo_of_marked (anchored : world.store.IsAnchored)
    (isFound : world.store.find? .registration key = some registration)
    (marked : registration.isMarked = true) :
    (reconcile key).ComesTo world (leaving registration.keyText registration.unstamped
      ((world.store.find? .deployment registration.key).map Object.unstamped)) := by
  have listed := labelled_eq_filter_find? anchored (Store.mem_list_of_find? isFound)
  have sameFilter : ((world.store.find? .deployment registration.key).map Object.unstamped).filter
        (fun existing => existing.metadata.hasLabel registrationLabel
          registration.unstamped.key.text) =
      ((world.store.find? .deployment registration.key).filter fun existing =>
        existing.metadata.hasLabel registrationLabel registration.key.text).map
          Object.unstamped :=
    Option.filter_map ..
  unfold leaving
  rw [sameFilter]
  cases own : (world.store.find? .deployment registration.key).filter fun existing =>
      existing.metadata.hasLabel registrationLabel registration.key.text with
  | none =>
      rw [own] at listed
      exact comesTo_of_bare isFound marked listed
  | some existing =>
      rw [own] at listed
      have sameText : existing.keyText = registration.keyText :=
        Store.keyText_of_find? (Option.filter_eq_some_iff.1 own).1
      exact comesTo_of_owning isFound marked listed sameText

/-- A registration whose generation was not seen is carried out, from the namespace on. -/
theorem comesTo_of_due (due : IsDue world.store key registration) :
    (reconcile key).ComesTo world (carrying registration.keyText registration.unstamped
      ((world.store.find? .deployment registration.key).map Object.unstamped)) := by
  rw [carrying, Object.key_unstamped]
  by_cases named : registration.key.scope = ""
  · have refused : (carryOut registration).runOn world = _ := runOn_carryOut_of_unnamed named
    rw [if_pos named]
    exact (comesTo_of_failed due.isFound refused rfl).continuing due.runOn_reconcile [] rfl
  · obtain ⟨middle, opened, beside, spaced⟩ := exists_opened named world
    have stillFound : middle.store.find? .registration key = some registration := by
      rw [beside.find? (by decide), due.isFound]
    have completed := comesTo_completion stillFound
    rw [beside.find? (by decide)] at completed
    rw [if_neg named]
    exact completed.continuing (due.runOn_reconcile_of_spaced opened)
      [opening registration.key.scope] spaced

/-- What the pass on a registration says, and what it leaves. -/
theorem comesTo_reconcile (anchored : world.store.IsAnchored) (key : ObjectKey) :
    (reconcile key).ComesTo world ((effect key).does world.store.contents) := by
  change Pass.ComesTo _ _ (doing key.text
    ((world.store.find? .deployment key).map Object.unstamped)
    ((world.store.find? .registration key).map Object.unstamped))
  cases isFound : world.store.find? .registration key with
  | none => exact Pass.comesTo_of_runOn (runOn_reconcile_of_absent isFound) rfl
  | some registration =>
      have sameText : registration.keyText = key.text := Store.keyText_of_find? isFound
      have samePlace : world.store.find? .deployment key =
          world.store.find? .deployment registration.key :=
        congrArg (world.store.table .deployment).find? sameText.symm
      rw [samePlace, ← sameText]
      cases marked : Object.isMarked registration <;>
        cases isHeld : Object.isHeld registration <;>
        simp only [doing, Option.map_some, Object.isMarked_unstamped, Object.isHeld_unstamped,
          marked, isHeld, if_true, Bool.false_eq_true, if_false, Bool.not_false, Bool.not_true]
      case false.false =>
        refine Pass.comesTo_of_runOn (runOn_reconcile_of_unheld isFound marked isHeld) ?_
        exact Store.contents_hold marked
      case false.true =>
        by_cases isSeen : registration.status.observedGeneration = registration.metadata.generation
        · have carriedOut : IsCarriedOut registration := ⟨marked, isHeld, isSeen⟩
          have sameSeen : registration.unstamped.status.observedGeneration =
              registration.unstamped.metadata.generation := isSeen
          rw [if_pos sameSeen]
          exact Pass.comesTo_of_runOn (carriedOut.runOn_reconcile isFound) rfl
        · have unseen : ¬ registration.unstamped.status.observedGeneration =
              registration.unstamped.metadata.generation := isSeen
          rw [if_neg unseen]
          exact comesTo_of_due ⟨isFound, marked, isHeld, isSeen⟩
      all_goals exact comesTo_of_marked anchored isFound marked

theorem follows_reconcile (key : ObjectKey) : (reconcile key).Follows (effect key) where
  comesTo _ anchored := comesTo_reconcile anchored key
  anchored world anchored := (through_reconcile key world).preserves Store.IsAnchored
    (fun holds written => written.isAnchored holds) anchored

end Registration

end TenantFleet
