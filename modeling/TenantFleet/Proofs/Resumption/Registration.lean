import TenantFleet.Proofs.Resumption.Deletions

/-!
# The pass on a registration resumes

A registration whose generation was not seen gets its namespace, its deployment
and its status, each with a write of its own.  A namespace that is there is
passed over, and so is a deployment that fits, which is how the pass gets back
to where it was cut off.
-/

namespace TenantFleet

namespace Registration

variable {store : Store} {key : ObjectKey} {registration : Registration} {world : World}

/-- What is to be done once the namespace is there. -/
def derive (registration : Registration) : Pass PassFailure Outcome := do
  match ← provideDeployment registration with
  | none => return .waiting
  | some deployment => do
      discard <| (World.setStatus
        { registration with status := registration.syncedStatus deployment }).during
          .reconcile .updateStatus
      return .synced

theorem carryOut_eq (registration : Registration) :
    carryOut registration =
      (provideTenantSpace registration.key.scope >>= fun _ => derive registration) := rfl

/-- The same, with its failures recorded. -/
def completion (key : ObjectKey) (registration : Registration) : Pass PassFailure Outcome :=
  (derive registration).onFailure (recordFailure key)

/-- The store once the namespace is there. -/
def spaced (store : Store) (registration : Registration) (now : Nat) : Store :=
  store.write none
    (store.initialObject (tenantSpace registration.key.scope) registration.key.scope now)

/-- The store once the status tells of the deployment. -/
def synced (store : Store) (registration : Registration) (deployment : ObjectKey) : Store :=
  store.write (some registration)
    (store.restated registration (registration.syncedStatus deployment))

/-- The store once a failure is recorded. -/
def recorded (store : Store) (current : Registration) (failure : PassFailure) (now : Nat) :
    Store :=
  store.write (some current) (store.restated current
    { current.status with lastError := some (failure.record current.status.lastError now) })

theorem timeless_synced {store store' : Store} (same : store.timeless = store'.timeless)
    (registration : Registration) (deployment : ObjectKey) :
    (synced store registration deployment).timeless =
      (synced store' registration deployment).timeless := by
  have sameVersion := Store.lastVersion_eq_of_timeless_eq same
  rw [synced, synced, Store.timeless_write, Store.timeless_write, same, Store.restated,
    Store.restated, sameVersion]

theorem timeless_recorded (store : Store) (current : Registration) (failure : PassFailure)
    (now now' : Nat) :
    (recorded store current failure now).timeless =
      (recorded store current failure now').timeless := by
  rw [recorded, recorded, Store.timeless_write, Store.timeless_write]
  rfl

theorem instanceKeys_of_mem_synced {deployment : ObjectKey} {later : Store}
    (laterMem : later ∈ [synced store registration deployment]) :
    later.instanceKeys ⊆ store.instanceKeys := by
  obtain rfl := List.mem_singleton.1 laterMem
  rw [synced, Store.instanceKeys_write_of_ne _ _ _ (by decide)]
  exact List.Subset.refl _

theorem wrote_recordFailure {current : Registration}
    (isFound : world.store.find? .registration key = some current) (failure : PassFailure) :
    world.Wrote [recorded world.store current failure world.clock.next]
      (recordFailure key failure world).2 := by
  let status (told : Nat) : Kind.registration.Status :=
    { current.status with lastError := some (failure.record current.status.lastError told) }
  unfold recordFailure
  rw [World.readStore_bind]
  simp only [isFound]
  exact World.wrote_record status (Store.mem_list_of_find? isFound) rfl

/-- The tenant has its namespace as well. -/
structure IsReady (store : Store) (key : ObjectKey) (registration : Registration) : Prop
    extends IsDue store key registration where
  named : registration.key.scope ≠ ""
  hasSpace : ∃ space : TenantSpace,
    store.find? .tenantSpace ⟨"", registration.key.scope⟩ = some space

theorem IsReady.write_deployment (ready : IsReady store key registration)
    (previous : Option Deployment) (next : Deployment) :
    IsReady (store.write previous next) key registration := by
  obtain ⟨space, isThere⟩ := ready.hasSpace
  have stillThere : (store.write previous next).find? .tenantSpace
      ⟨"", registration.key.scope⟩ = some space := by
    rw [Store.find?_write_of_ne store previous next (by decide), isThere]
  exact ⟨ready.toIsDue.of_sameBeside (Store.sameBeside_write _ _ _) (by decide), ready.named,
    space, stillThere⟩

theorem IsDue.isReady_spaced (due : IsDue store key registration)
    (named : registration.key.scope ≠ "") (now : Nat) :
    IsReady (spaced store registration now) key registration := by
  let space := store.initialObject (tenantSpace registration.key.scope) registration.key.scope now
  have isThere : (store.write none space).find? .tenantSpace ⟨"", registration.key.scope⟩ =
      some space :=
    Store.find?_write_self _ _ _
  exact ⟨due.of_sameBeside (Store.sameBeside_write _ _ _) (by decide), named, space, isThere⟩

theorem runOn_provideTenantSpace_of_unnamed (world : World) :
    (provideTenantSpace "").runOn world =
      (.error ⟨.reconcile, .createNamespace, .store (.unnamed .tenantSpace "")⟩,
        world.afterDraws) := by
  have refused : world.store.create (tenantSpace "") world.clock.next world.suffixes.ahead =
      .error (.unnamed .tenantSpace "") := Store.create_of_unnamed _ _ rfl rfl
  unfold provideTenantSpace
  rw [Pass.runOn_bind, Pass.runOn_attempt, World.runOn_create_of_error refused]
  rfl

theorem runOn_carryOut_of_unnamed (unnamed : registration.key.scope = "") :
    (carryOut registration).runOn world =
      (.error ⟨.reconcile, .createNamespace, .store (.unnamed .tenantSpace "")⟩,
        world.afterDraws) := by
  rw [carryOut_eq, unnamed, Pass.runOn_bind, runOn_provideTenantSpace_of_unnamed]

theorem runOn_provideTenantSpace_of_present {name : String} {space : TenantSpace}
    (named : name ≠ "") (isThere : world.store.find? .tenantSpace ⟨"", name⟩ = some space) :
    (provideTenantSpace name).runOn world = (.ok (), world.afterDraws) := by
  have refused : world.store.create (tenantSpace name) world.clock.next world.suffixes.ahead =
      .error (.alreadyExists .tenantSpace ⟨"", name⟩) :=
    Store.create_of_present _ _ named isThere rfl
  unfold provideTenantSpace
  rw [Pass.runOn_bind, Pass.runOn_attempt, World.runOn_create_of_error refused]
  rfl

theorem runOn_provideTenantSpace_of_absent (named : registration.key.scope ≠ "")
    (absent : world.store.find? .tenantSpace ⟨"", registration.key.scope⟩ = none) :
    (provideTenantSpace registration.key.scope).runOn world =
      (.ok (), world.afterDraws.commit (spaced world.store registration world.clock.next)) := by
  have created : world.store.create (tenantSpace registration.key.scope) world.clock.next
      world.suffixes.ahead = .ok (_, spaced world.store registration world.clock.next) :=
    Store.create_of_absent _ _ named absent
  unfold provideTenantSpace
  rw [Pass.runOn_bind, Pass.runOn_attempt, World.runOn_create_of_ok created]
  rfl

theorem IsDue.runOn_reconcile_of_spaced (due : IsDue world.store key registration)
    {middle : World}
    (provided : (provideTenantSpace registration.key.scope).runOn world = (.ok (), middle)) :
    (reconcile key).runOn world = (completion key registration).runOn middle := by
  rw [due.runOn_reconcile, completion, Pass.runOn_onFailure, Pass.runOn_onFailure, carryOut_eq,
    Pass.runOn_bind, provided]

/-- The pass passes over a namespace that is there. -/
theorem IsReady.runOn_reconcile (ready : IsReady world.store key registration) :
    (reconcile key).runOn world = (completion key registration).runOn world.afterDraws := by
  obtain ⟨space, isThere⟩ := ready.hasSpace
  exact ready.toIsDue.runOn_reconcile_of_spaced
    (runOn_provideTenantSpace_of_present ready.named isThere)

theorem runOn_completion_of_provided {middle : World} {deployment : ObjectKey}
    (isFound : middle.store.find? .registration key = some registration)
    (provided : (provideDeployment registration).runOn world = (.ok (some deployment), middle)) :
    (completion key registration).runOn world =
      (.ok .synced, middle.commit (synced middle.store registration deployment)) := by
  have derived : (derive registration).runOn world =
      (.ok .synced, middle.commit (synced middle.store registration deployment)) := by
    unfold derive
    rw [Pass.runOn_bind, provided]
    simp only
    rw [Pass.runOn_during_bind_of_ok (World.runOn_restate (Store.mem_list_of_find? isFound) rfl _)]
    rfl
  rw [completion, Pass.runOn_onFailure, derived]

theorem runOn_provideDeployment_of_fitting {deployment : Deployment}
    (isThere : world.store.find? .deployment registration.key = some deployment)
    (fitting : IsFitting registration deployment) :
    (provideDeployment registration).runOn world = (.ok (some deployment.key), world) := by
  unfold provideDeployment
  rw [Pass.runOn_readStore_bind]
  simp only [isThere, fitting.lasting, fitting.sameSpec, fitting.labelled, Bool.false_eq_true,
    if_false, decide_true, Bool.and_true, if_true]
  rfl

theorem runOn_provideDeployment_of_absent
    (absent : world.store.find? .deployment registration.key = none)
    (named : registration.key.name ≠ "") :
    let next : Deployment := world.store.initialObject registration.newDeployment
      registration.key.name world.clock.next
    (provideDeployment registration).runOn world =
      (.ok (some next.key), world.afterDraws.commit (world.store.write none next)) := by
  intro next
  have created : world.store.create registration.newDeployment world.clock.next
      world.suffixes.ahead = .ok (next, world.store.write none next) :=
    Store.create_of_absent _ _ named absent
  unfold provideDeployment
  rw [Pass.runOn_readStore_bind]
  simp only [absent]
  rw [Pass.runOn_bind, Pass.runOn_during, World.runOn_create_of_ok created]
  rfl

theorem runOn_provideDeployment_of_unfit {existing : Deployment}
    (isThere : world.store.find? .deployment registration.key = some existing)
    (lasting : existing.isMarked = false)
    (unfit : ¬ (existing.spec = registration.derivedSpec ∧
      existing.metadata.hasLabel registrationLabel registration.key.text = true)) :
    let next := world.store.replacement existing (registration.carriedInto existing)
    (provideDeployment registration).runOn world =
      (.ok (some next.key), world.commit (world.store.write (some existing) next)) := by
  intro next
  have isUnfit : (decide (existing.spec = registration.derivedSpec) &&
      existing.metadata.hasLabel registrationLabel registration.key.text) = false := by
    simpa using unfit
  unfold provideDeployment
  rw [Pass.runOn_readStore_bind]
  simp only [isThere, lasting, isUnfit, Bool.false_eq_true, if_false]
  rw [Pass.runOn_bind, Pass.runOn_during,
    World.runOn_update_of_mem (registration.carriedInto existing)
      (Store.mem_list_of_find? isThere) rfl rfl rfl,
    Store.supplant_of_unmarked lasting]
  rfl

/-- With a deployment that fits, all that remains is the status. -/
theorem IsDue.commitAll_of_fitting (due : IsDue store key registration) {deployment : Deployment}
    (isThere : store.find? .deployment registration.key = some deployment)
    (fitting : IsFitting registration deployment) {world : World} (isStore : world.store = store) :
    ((completion key registration).runOn world).2 =
      world.commitAll [synced store registration deployment.key] := by
  subst isStore
  rw [runOn_completion_of_provided due.isFound (runOn_provideDeployment_of_fitting isThere fitting)]
  rfl

theorem IsReady.trails_of_fitting (ready : IsReady store key registration)
    {deployment : Deployment}
    (isThere : store.find? .deployment registration.key = some deployment)
    (fitting : IsFitting registration deployment) :
    (reconcile key).Trails store [synced store registration deployment.key] := by
  refine ⟨fun world isStore => ⟨_, ?_, rfl⟩, fun _ => instanceKeys_of_mem_synced⟩
  subst isStore
  have sameStore : world.afterDraws.store = world.store := rfl
  rw [ready.runOn_reconcile, ready.commitAll_of_fitting isThere fitting sameStore]
  exact (world.afterDraws.wrote_commitAll _).of_same rfl rfl

/-- The deployment takes one write, at whatever time, and leaves the status to another. -/
theorem IsReady.remains_of_provided (ready : IsReady store key registration)
    {previous : Option Deployment} {next : Nat → Deployment}
    (provided : ∀ world : World, world.store = store → ∃ middle : World,
      (provideDeployment registration).runOn world =
          (.ok (some (next world.clock.next).key), middle) ∧
        world.Wrote [store.write previous (next world.clock.next)] middle)
    (fitting : ∀ now, IsFitting registration (next now))
    (alike : ∀ now now', (next now).timeless = (next now').timeless) :
    (reconcile key).Remains (completion key registration) store := by
  let provision (now : Nat) : Store := store.write previous (next now)
  let final (now : Nat) : Store := synced (provision now) registration (next now).key
  have stillReady (now : Nat) : IsReady (provision now) key registration :=
    ready.write_deployment previous (next now)
  have isThere (now : Nat) :
      (provision now).find? .deployment registration.key = some (next now) := by
    rw [Store.find?_write, if_pos (fitting now).sameText]
  have sameInstances (now : Nat) : (provision now).instanceKeys = store.instanceKeys :=
    store.instanceKeys_write_of_ne previous (next now) (by decide)
  have wrote (world : World) (isStore : world.store = store) :
      world.Wrote [provision world.clock.next, final world.clock.next]
        ((completion key registration).runOn world).2 := by
    obtain ⟨middle, ran, first⟩ := provided world isStore
    have isMiddle : middle.store = provision world.clock.next := first.isLast
    have stillFound := (stillReady world.clock.next).isFound
    rw [← isMiddle] at stillFound
    rw [runOn_completion_of_provided stillFound ran, isMiddle]
    exact first.trans (middle.wrote_commit _)
  intro world isStore
  refine ⟨_, wrote world isStore, ⟨fun _ => ?_, Pass.resumes_one _ _⟩,
    fun begun isBegun => ⟨_, wrote begun isBegun, ?_⟩, fun later laterMem => ?_⟩
  · exact (stillReady world.clock.next).trails_of_fitting (isThere world.clock.next)
      (fitting world.clock.next)
  · have sameNext := alike begun.clock.next world.clock.next
    have sameKey : (next begun.clock.next).key = (next world.clock.next).key := by
      change (next begun.clock.next).timeless.key = (next world.clock.next).timeless.key
      rw [sameNext]
    have sameProvision : (provision begun.clock.next).timeless =
        (provision world.clock.next).timeless := by
      rw [Store.timeless_write, Store.timeless_write, sameNext]
    have sameFinal : (final begun.clock.next).timeless = (final world.clock.next).timeless := by
      simp only [final]
      rw [sameKey]
      exact timeless_synced sameProvision registration _
    simp only [List.map_cons, List.map_nil, sameProvision, sameFinal]
  · rw [← sameInstances world.clock.next]
    rcases List.mem_cons.1 laterMem with rfl | isFinal
    · exact List.Subset.refl _
    · exact instanceKeys_of_mem_synced isFinal

theorem runOn_provideDeployment_of_unnamed
    (absent : world.store.find? .deployment registration.key = none)
    (unnamed : registration.key.name = "") :
    (provideDeployment registration).runOn world =
      (.error ⟨.reconcile, .createDeployment, .store (.unnamed .deployment registration.key.scope)⟩,
        world.afterDraws) := by
  have refused : world.store.create registration.newDeployment world.clock.next
      world.suffixes.ahead = .error (.unnamed .deployment registration.key.scope) :=
    Store.create_of_unnamed _ _ unnamed rfl
  unfold provideDeployment
  rw [Pass.runOn_readStore_bind]
  simp only [absent]
  rw [Pass.runOn_bind, Pass.runOn_during, World.runOn_create_of_error refused]
  rfl

/-- A deployment that is on its way out is waited for. -/
theorem runOn_provideDeployment_of_marked {existing : Deployment}
    (isThere : world.store.find? .deployment registration.key = some existing)
    (marked : existing.isMarked = true) :
    (provideDeployment registration).runOn world = (.ok none, world) := by
  unfold provideDeployment
  rw [Pass.runOn_readStore_bind]
  simp only [isThere, marked, if_true]
  rfl

theorem runOn_derive_of_unnamed
    (absent : world.store.find? .deployment registration.key = none)
    (unnamed : registration.key.name = "") :
    (derive registration).runOn world =
      (.error ⟨.reconcile, .createDeployment, .store (.unnamed .deployment registration.key.scope)⟩,
        world.afterDraws) := by
  unfold derive
  rw [Pass.runOn_bind, runOn_provideDeployment_of_unnamed absent unnamed]

theorem runOn_completion_of_marked {existing : Deployment}
    (isThere : world.store.find? .deployment registration.key = some existing)
    (marked : existing.isMarked = true) :
    (completion key registration).runOn world = (.ok .waiting, world) := by
  have waiting : (derive registration).runOn world = (.ok .waiting, world) := by
    unfold derive
    rw [Pass.runOn_bind, runOn_provideDeployment_of_marked isThere marked]
    rfl
  rw [completion, Pass.runOn_onFailure, waiting]

/-- A deployment without a name is refused, and the refusal recorded. -/
theorem IsReady.remains_of_unnamed (ready : IsReady store key registration)
    (absent : store.find? .deployment registration.key = none)
    (unnamed : registration.key.name = "") :
    (reconcile key).Remains (completion key registration) store := by
  let failure : PassFailure :=
    ⟨.reconcile, .createDeployment, .store (.unnamed .deployment registration.key.scope)⟩
  -- the attempt to create the deployment has drawn a time before the record does
  have wrote (world : World) (isStore : world.store = store) :
      world.Wrote [recorded store registration failure world.afterDraws.clock.next]
        ((completion key registration).runOn world).2 := by
    subst isStore
    have stillFound : world.afterDraws.store.find? .registration key = some registration :=
      ready.isFound
    rw [completion, Pass.runOn_onFailure, runOn_derive_of_unnamed absent unnamed]
    exact (wrote_recordFailure stillFound failure).of_same rfl rfl
  intro world isStore
  refine ⟨_, wrote world isStore, Pass.resumes_one _ _,
    fun begun isBegun => ⟨_, wrote begun isBegun, ?_⟩, fun later laterMem => ?_⟩
  · rw [List.map_singleton, List.map_singleton, timeless_recorded]
  · obtain rfl := List.mem_singleton.1 laterMem
    rw [recorded, Store.instanceKeys_write_of_ne _ _ _ (by decide)]
    exact List.Subset.refl _

theorem IsReady.remains_of_absent (ready : IsReady store key registration)
    (absent : store.find? .deployment registration.key = none)
    (named : registration.key.name ≠ "") :
    (reconcile key).Remains (completion key registration) store := by
  let next (now : Nat) : Deployment :=
    store.initialObject registration.newDeployment registration.key.name now
  have provided : ∀ world : World, world.store = store → ∃ middle : World,
      (provideDeployment registration).runOn world =
          (.ok (some (next world.clock.next).key), middle) ∧
        world.Wrote [store.write none (next world.clock.next)] middle := by
    rintro world rfl
    exact ⟨_, runOn_provideDeployment_of_absent absent named, .one rfl rfl⟩
  exact ready.remains_of_provided provided (isFitting_new store registration) fun _ _ => rfl

theorem IsReady.remains_of_marked (ready : IsReady store key registration) {existing : Deployment}
    (isThere : store.find? .deployment registration.key = some existing)
    (marked : existing.isMarked = true) :
    (reconcile key).Remains (completion key registration) store := by
  have idle : ∀ world : World, world.store = store →
      ((completion key registration).runOn world).2 = world.commitAll [] := by
    rintro world rfl
    rw [runOn_completion_of_marked isThere marked]
    rfl
  exact Pass.remains_of_commitAll idle trivial
    fun later laterMem => absurd laterMem List.not_mem_nil

theorem IsReady.remains_of_fitting (ready : IsReady store key registration)
    {existing : Deployment}
    (isThere : store.find? .deployment registration.key = some existing)
    (fitting : IsFitting registration existing) :
    (reconcile key).Remains (completion key registration) store := by
  have always : ∀ world : World, world.store = store →
      ((completion key registration).runOn world).2 =
        world.commitAll [synced store registration existing.key] :=
    fun world isStore => ready.commitAll_of_fitting isThere fitting isStore
  exact Pass.remains_of_commitAll always (Pass.resumes_one _ _)
    fun _ => instanceKeys_of_mem_synced

theorem IsReady.remains_of_unfit (ready : IsReady store key registration) {existing : Deployment}
    (isThere : store.find? .deployment registration.key = some existing)
    (lasting : existing.isMarked = false)
    (unfit : ¬ (existing.spec = registration.derivedSpec ∧
      existing.metadata.hasLabel registrationLabel registration.key.text = true)) :
    (reconcile key).Remains (completion key registration) store := by
  let next := store.replacement existing (registration.carriedInto existing)
  have provided : ∀ world : World, world.store = store → ∃ middle : World,
      (provideDeployment registration).runOn world = (.ok (some next.key), middle) ∧
        world.Wrote [store.write (some existing) next] middle := by
    rintro world rfl
    exact ⟨_, runOn_provideDeployment_of_unfit isThere lasting unfit, .one rfl rfl⟩
  have sameText : existing.keyText = registration.key.text := Store.keyText_of_find? isThere
  have fitting : IsFitting registration next :=
    isFitting_carried store registration sameText lasting
  exact ready.remains_of_provided provided (fun _ => fitting) fun _ _ => rfl

/-- From a store with the namespace the pass resumes. -/
theorem IsReady.remains (ready : IsReady store key registration) :
    (reconcile key).Remains (completion key registration) store := by
  cases isThere : store.find? .deployment registration.key with
  | none =>
      by_cases named : registration.key.name = ""
      · exact ready.remains_of_unnamed isThere named
      · exact ready.remains_of_absent isThere named
  | some existing =>
      cases lasting : Object.isMarked existing with
      | true => exact ready.remains_of_marked isThere lasting
      | false =>
          by_cases fits : existing.spec = registration.derivedSpec ∧
              existing.metadata.hasLabel registrationLabel registration.key.text = true
          · exact ready.remains_of_fitting isThere
              ⟨Store.keyText_of_find? isThere, lasting, fits.1, fits.2⟩
          · exact ready.remains_of_unfit isThere lasting fits

/-- The namespace, where it is not there, takes the first write. -/
theorem IsDue.resumes (due : IsDue world.store key registration) :
    (reconcile key).ResumesOn world := by
  by_cases named : registration.key.scope = ""
  · let failure : PassFailure :=
      ⟨.reconcile, .createNamespace, .store (.unnamed .tenantSpace "")⟩
    have stillFound : world.afterDraws.store.find? .registration key = some registration :=
      due.isFound
    have wrote : world.Wrote
        [recorded world.store registration failure world.afterDraws.clock.next]
        ((reconcile key).runOn world).2 := by
      rw [due.runOn_reconcile, Pass.runOn_onFailure, runOn_carryOut_of_unnamed named]
      exact (wrote_recordFailure stillFound failure).of_same rfl rfl
    exact Pass.resumesOn_of_length_le_one wrote (Nat.le_refl 1)
  · cases isThere : world.store.find? .tenantSpace ⟨"", registration.key.scope⟩ with
    | none =>
        let store := spaced world.store registration world.clock.next
        have ready : IsReady store key registration :=
          due.isReady_spaced named world.clock.next
        have anew : ∀ begun : World, begun.store = store →
            ∃ drawn : World, drawn.store = begun.store ∧ drawn.journal = begun.journal ∧
              ((reconcile key).runOn begun).2 = ((completion key registration).runOn drawn).2 := by
          intro begun isStore
          rw [← isStore] at ready
          exact ⟨begun.afterDraws, rfl, rfl, congrArg Prod.snd ready.runOn_reconcile⟩
        have first : world.Wrote [store] (world.afterDraws.commit store) := .one rfl rfl
        refine ready.remains.after_write anew first ?_
        rw [due.runOn_reconcile_of_spaced (runOn_provideTenantSpace_of_absent named isThere)]
    | some space =>
        have ready : IsReady world.store key registration := ⟨due, named, space, isThere⟩
        obtain ⟨stores, wrote, resumes, -⟩ := ready.remains world.afterDraws rfl
        refine ⟨stores, ?_, resumes⟩
        rw [ready.runOn_reconcile]
        exact wrote.of_same rfl rfl

theorem resumes_reconcile (coherent : world.store.IsCoherent) (key : ObjectKey) :
    (reconcile key).ResumesOn world := by
  cases isFound : world.store.find? .registration key with
  | none =>
      refine Pass.resumesOn_of_idle ?_
      rw [runOn_reconcile_of_absent isFound]
  | some registration =>
      cases marked : Object.isMarked registration with
      | true => exact resumes_marked coherent isFound marked
      | false =>
          cases isHeld : Object.isHeld registration with
          | false =>
              exact Pass.resumesOn_of_commit
                (congrArg Prod.snd (runOn_reconcile_of_unheld isFound marked isHeld))
          | true =>
              by_cases seen : RegistrationStatus.observedGeneration registration.status =
                  registration.metadata.generation
              · have carriedOut : IsCarriedOut registration := ⟨marked, isHeld, seen⟩
                refine Pass.resumesOn_of_idle ?_
                rw [carriedOut.runOn_reconcile isFound]
              · exact IsDue.resumes ⟨isFound, marked, isHeld, seen⟩

end Registration

end TenantFleet
