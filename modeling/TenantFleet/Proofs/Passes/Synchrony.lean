import TenantFleet.Proofs.Passes.Convergence
import TenantFleet.Proofs.Resumption.Registration

/-!
# Registrations that are synced

A pass says of a registration that it is synced when it has carried it out in
three steps, of which the first two may find nothing to do: the namespace of the
tenant, the deployment, and the status of the registration.  Each step makes one
write at most, to one object of one kind.  Begun on what it has left, the pass
sees from the status that there is nothing to do.
-/

namespace TenantFleet

/-- A deployment was brought in line with its registration: all that the registration does not
determine has stayed as it was. -/
structure Deployment.IsBroughtInLine (earlier later : Deployment) : Prop where
  sameStatus : later.status = earlier.status
  sameMetadata : later.metadata =
    { earlier.metadata with
      labels := later.metadata.labels
      generation := later.metadata.generation
      resourceVersion := later.metadata.resourceVersion }
  otherLabels : ∀ label, label ≠ registrationLabel →
    later.metadata.label? label = earlier.metadata.label? label
  generation : later.metadata.generation =
    earlier.metadata.generation + if later.spec = earlier.spec then 0 else 1

theorem Deployment.IsBroughtInLine.refl (deployment : Deployment) :
    deployment.IsBroughtInLine deployment where
  sameStatus := rfl
  sameMetadata := rfl
  otherLabels _ _ := rfl
  generation := by rw [if_pos rfl, Int.add_zero]

namespace Registration

variable {key : ObjectKey} {world after : World} {before store : Store}
  {registration : Registration} {deployment : Deployment} {space : TenantSpace}

/-- The tenant has its namespace, the registration has its deployment as it wants it, and its
status tells so. -/
structure IsSynced (store : Store) (key : ObjectKey) (registration : Registration)
    (deployment : Deployment) (space : TenantSpace) : Prop where
  isFound : store.find? .registration key = some registration
  isOwn : registration.key = key
  unmarked : registration.isMarked = false
  isHeld : registration.isHeld = true
  spaceFound : store.find? .tenantSpace ⟨"", key.scope⟩ = some space
  spaceOwn : space.key = ⟨"", key.scope⟩
  deploymentFound : store.find? .deployment key = some deployment
  deploymentOwn : deployment.key = key
  lasting : deployment.isMarked = false
  sameSpec : deployment.spec = RegistrationSpec.forTenant registration.spec key.scope
  labelled : deployment.metadata.label? registrationLabel = some key.text
  observed : registration.status.observedGeneration = registration.metadata.generation
  named : registration.status.deploymentKey = some key
  faultless : registration.status.lastError = none

/-- What a pass on the registration may have changed when it says that this is synced. -/
structure ChangesOnly (before after : Store) (key : ObjectKey) (registration : Registration)
    (deployment : Deployment) (space : TenantSpace) : Prop where
  elsewhere : ∀ kind (other : ObjectKey),
    (kind, other.text) ∉ [(Kind.tenantSpace, ObjectKey.text ⟨"", key.scope⟩),
      (.deployment, key.text), (.registration, key.text)] →
    after.find? kind other = before.find? kind other
  spaceKept : ∀ earlier : TenantSpace,
    before.find? .tenantSpace ⟨"", key.scope⟩ = some earlier → space = earlier
  deploymentKept : ∀ earlier : Deployment, before.find? .deployment key = some earlier →
    earlier.IsBroughtInLine deployment ∧ (IsFitting registration earlier → deployment = earlier)
  registrationKept : ∃ earlier : Registration, before.find? .registration key = some earlier ∧
    registration =
      { earlier with
        status :=
          { earlier.status with
            observedGeneration := earlier.metadata.generation
            deploymentKey := some key
            lastError := none }
        metadata :=
          { earlier.metadata with resourceVersion := registration.metadata.resourceVersion } }

/-- The pass does not look at more than the status. -/
theorem IsSynced.runOn_reconcile
    (isSynced : IsSynced world.store key registration deployment space) :
    (reconcile key).runOn world = (.ok .upToDate, world) :=
  IsCarriedOut.runOn_reconcile ⟨isSynced.unmarked, isSynced.isHeld, isSynced.observed⟩
    isSynced.isFound

/-- The way out does not end with a registration that is synced. -/
theorem outcome_ne_synced_of_windDown :
    (windDown registration).runOn world ≠ (.ok .synced, after) := by
  intro ran
  unfold windDown at ran
  rw [Pass.runOn_readStore_bind] at ran
  simp only at ran
  split at ran
  · obtain ⟨issued, middle, -, said⟩ := Pass.exists_of_bind_ok ran
    cases issued <;> cases said
  · split at ran
    · obtain ⟨updated, middle, -, said⟩ := Pass.exists_of_discard_bind_ok ran
      cases said
    · cases ran

/-- A registration is synced only when it was due and has been carried out. -/
theorem exists_carryOut_of_synced (ran : (reconcile key).runOn world = (.ok .synced, after)) :
    ∃ registration, IsDue world.store key registration ∧
      (carryOut registration).runOn world = (.ok .synced, after) := by
  cases isFound : world.store.find? .registration key with
  | none =>
      rw [runOn_reconcile_of_absent isFound] at ran
      cases ran
  | some registration =>
      cases marked : Object.isMarked registration with
      | true =>
          rw [runOn_reconcile_marked isFound marked] at ran
          exact absurd (Pass.runOn_of_onFailure_ok ran) outcome_ne_synced_of_windDown
      | false =>
          cases isHeld : Object.isHeld registration with
          | false =>
              rw [runOn_reconcile_of_unheld isFound marked isHeld] at ran
              cases ran
          | true =>
              by_cases seen : RegistrationStatus.observedGeneration registration.status =
                  registration.metadata.generation
              · have carriedOut : IsCarriedOut registration := ⟨marked, isHeld, seen⟩
                rw [carriedOut.runOn_reconcile isFound] at ran
                cases ran
              · have due : IsDue world.store key registration := ⟨isFound, marked, isHeld, seen⟩
                rw [due.runOn_reconcile] at ran
                exact ⟨registration, due, Pass.runOn_of_onFailure_ok ran⟩

/-- The first step: the namespace is there, and no other object has changed. -/
structure Houses (before store : Store) (name : String) (space : TenantSpace) : Prop where
  isThere : store.find? .tenantSpace ⟨"", name⟩ = some space
  same : Store.SameBeside .tenantSpace before store
  others : ∀ other : ObjectKey, ObjectKey.text ⟨"", name⟩ ≠ other.text →
    store.find? .tenantSpace other = before.find? .tenantSpace other
  origin : before.find? .tenantSpace ⟨"", name⟩ = some space ∨
    before.find? .tenantSpace ⟨"", name⟩ = none ∧ space.key = ⟨"", name⟩

theorem exists_houses
    (ran : (provideTenantSpace registration.key.scope).runOn world = (.ok (), after)) :
    ∃ space stores, Houses world.store after.store registration.key.scope space ∧
      world.Wrote stores after ∧ stores.length ≤ 1 := by
  by_cases named : registration.key.scope = ""
  · rw [named, runOn_provideTenantSpace_of_unnamed] at ran
    cases ran
  · cases isThere : world.store.find? .tenantSpace ⟨"", registration.key.scope⟩ with
    | some space =>
        rw [runOn_provideTenantSpace_of_present named isThere] at ran
        cases ran
        exact ⟨space, [], ⟨isThere, .refl _, fun _ _ => rfl, .inl isThere⟩, .none rfl rfl,
          Nat.zero_le 1⟩
    | none =>
        rw [runOn_provideTenantSpace_of_absent named isThere] at ran
        cases ran
        let space := world.store.initialObject (tenantSpace registration.key.scope)
          registration.key.scope world.clock.next
        have houses : Houses world.store (world.store.write none space) registration.key.scope
            space := by
          refine ⟨Store.find?_write_self _ _ _, Store.sameBeside_write _ _ _,
            fun other different => ?_, .inr ⟨isThere, rfl⟩⟩
          rw [Store.find?_write]
          exact if_neg different
        exact ⟨space, _, houses, .one rfl rfl, Nat.le_refl 1⟩

/-- The second step: the deployment is there as the registration wants it, and no other object has
changed. -/
structure Derives (before store : Store) (registration : Registration)
    (deployment : Deployment) : Prop where
  isThere : store.find? .deployment registration.key = some deployment
  fitting : IsFitting registration deployment
  same : Store.SameBeside .deployment before store
  others : ∀ other : ObjectKey, registration.key.text ≠ other.text →
    store.find? .deployment other = before.find? .deployment other
  kept : ∀ earlier : Deployment, before.find? .deployment registration.key = some earlier →
    deployment.key = earlier.key ∧ earlier.IsBroughtInLine deployment ∧
      (IsFitting registration earlier → deployment = earlier)
  fresh : before.find? .deployment registration.key = none → deployment.key = registration.key

theorem derives_of_fitting
    (isThere : store.find? .deployment registration.key = some deployment)
    (fitting : IsFitting registration deployment) :
    Derives store store registration deployment := by
  refine ⟨isThere, fitting, .refl _, fun _ _ => rfl, fun earlier wasThere => ?_, fun absent => ?_⟩
  · obtain rfl := Option.some.inj (isThere.symm.trans wasThere)
    exact ⟨rfl, .refl deployment, fun _ => rfl⟩
  · rw [absent] at isThere
    contradiction

theorem derives_of_absent (absent : store.find? .deployment registration.key = none) (now : Nat) :
    let next := store.initialObject registration.newDeployment registration.key.name now
    Derives store (store.write none next) registration next := by
  intro next
  refine ⟨Store.find?_write_self _ _ _, isFitting_new store registration now,
    Store.sameBeside_write _ _ _, fun other different => ?_, fun earlier wasThere => ?_,
    fun _ => rfl⟩
  · rw [Store.find?_write]
    exact if_neg different
  · rw [absent] at wasThere
    contradiction

theorem isBroughtInLine_carried (store : Store) (registration : Registration)
    (existing : Deployment) :
    existing.IsBroughtInLine
      (store.replacement existing (registration.carriedInto existing)) where
  sameStatus := rfl
  sameMetadata := rfl
  otherLabels label different := Labels.value?_set_of_ne _ _ different
  generation := by
    change (if existing.spec = registration.derivedSpec then existing.metadata.generation
      else existing.metadata.generation + 1) = existing.metadata.generation +
        if registration.derivedSpec = existing.spec then 0 else 1
    by_cases sameSpec : existing.spec = registration.derivedSpec
    · rw [if_pos sameSpec, if_pos sameSpec.symm, Int.add_zero]
    · rw [if_neg sameSpec, if_neg (Ne.symm sameSpec)]

theorem derives_of_unfit {existing : Deployment}
    (isThere : store.find? .deployment registration.key = some existing)
    (lasting : existing.isMarked = false)
    (unfit : ¬ (existing.spec = registration.derivedSpec ∧
      existing.metadata.hasLabel registrationLabel registration.key.text = true)) :
    let next := store.replacement existing (registration.carriedInto existing)
    Derives store (store.write (some existing) next) registration next := by
  intro next
  have existingText : existing.keyText = registration.key.text := Store.keyText_of_find? isThere
  have sameText : next.keyText = registration.key.text := existingText
  refine ⟨?_, isFitting_carried store registration existingText lasting,
    Store.sameBeside_write _ _ _, fun other different => ?_, fun earlier wasThere => ?_,
    fun absent => ?_⟩
  · rw [Store.find?_write, if_pos sameText]
  · rw [Store.find?_write, if_neg (sameText ▸ different)]
  · obtain rfl := Option.some.inj (isThere.symm.trans wasThere)
    exact ⟨rfl, isBroughtInLine_carried store registration existing,
      fun fitting => absurd ⟨fitting.sameSpec, fitting.labelled⟩ unfit⟩
  · rw [absent] at isThere
    contradiction

theorem exists_derives {deploymentKey : ObjectKey}
    (ran : (provideDeployment registration).runOn world = (.ok (some deploymentKey), after)) :
    ∃ deployment stores, Derives world.store after.store registration deployment ∧
      deployment.key = deploymentKey ∧ world.Wrote stores after ∧ stores.length ≤ 1 := by
  cases isThere : world.store.find? .deployment registration.key with
  | none =>
      by_cases named : registration.key.name = ""
      · rw [runOn_provideDeployment_of_unnamed isThere named] at ran
        cases ran
      · rw [runOn_provideDeployment_of_absent isThere named] at ran
        cases ran
        exact ⟨_, _, derives_of_absent isThere world.clock.next, rfl, .one rfl rfl, Nat.le_refl 1⟩
  | some existing =>
      cases lasting : Object.isMarked existing with
      | true =>
          rw [runOn_provideDeployment_of_marked isThere lasting] at ran
          cases ran
      | false =>
          by_cases fits : existing.spec = registration.derivedSpec ∧
              existing.metadata.hasLabel registrationLabel registration.key.text = true
          · have fitting : IsFitting registration existing :=
              ⟨Store.keyText_of_find? isThere, lasting, fits.1, fits.2⟩
            rw [runOn_provideDeployment_of_fitting isThere fitting] at ran
            cases ran
            exact ⟨existing, [], derives_of_fitting isThere fitting, rfl, .none rfl rfl,
              Nat.zero_le 1⟩
          · rw [runOn_provideDeployment_of_unfit isThere lasting fits] at ran
            cases ran
            exact ⟨_, _, derives_of_unfit isThere lasting fits, rfl, .one rfl rfl, Nat.le_refl 1⟩

/-- What is carried out has gone through the three steps, of which the third is one write. -/
theorem exists_steps_of_carryOut (due : IsDue world.store key registration)
    (ran : (carryOut registration).runOn world = (.ok .synced, after)) :
    ∃ (housed derived : Store) (space : TenantSpace) (deployment : Deployment),
      Houses world.store housed registration.key.scope space ∧
        Derives housed derived registration deployment ∧
        after.store = synced derived registration deployment.key ∧
        ∃ stores, world.Wrote stores after ∧ stores.length ≤ 3 := by
  rw [carryOut_eq] at ran
  obtain ⟨⟨⟩, first, housing, rest⟩ := Pass.exists_of_bind_ok ran
  obtain ⟨space, spaceStores, houses, wroteSpace, fewSpace⟩ := exists_houses housing
  unfold derive at rest
  obtain ⟨provided, second, provision, telling⟩ := Pass.exists_of_bind_ok rest
  cases provided with
  | none => cases telling
  | some deploymentKey =>
      obtain ⟨deployment, deploymentStores, derives, rfl, wroteDeployment, fewDeployment⟩ :=
        exists_derives provision
      have stillFound : second.store.find? .registration key = some registration := by
        rw [derives.same.find? (by decide), houses.same.find? (by decide), due.isFound]
      simp only at telling
      rw [Pass.runOn_during_bind_of_ok
        (World.runOn_restate (Store.mem_list_of_find? stillFound) rfl _)] at telling
      cases telling
      refine ⟨first.store, second.store, space, deployment, houses, derives, rfl, _,
        (wroteSpace.trans wroteDeployment).trans (second.wrote_commit _), ?_⟩
      simp only [List.length_append, List.length_singleton]
      omega

section Steps

variable {housed derived : Store}

theorem Houses.isOwn {name : String} (houses : Houses before housed name space)
    (free : before.HasSlashFreeKeys) : space.key = ⟨"", name⟩ := by
  rcases houses.origin with wasThere | ⟨-, isNew⟩
  · exact free.key_eq_of_find? wasThere
  · exact isNew

theorem Derives.isOwn (derives : Derives housed derived registration deployment)
    (same : Store.SameBeside .tenantSpace before housed) (free : before.HasSlashFreeKeys) :
    deployment.key = registration.key := by
  cases wasThere : housed.find? .deployment registration.key with
  | none => exact derives.fresh wasThere
  | some earlier =>
      rw [(derives.kept earlier wasThere).1]
      rw [same.find? (by decide)] at wasThere
      exact free.key_eq_of_find? wasThere

theorem Derives.find?_space_synced (derives : Derives housed derived registration deployment)
    {name : String} (houses : Houses before housed name space) :
    (synced derived registration deployment.key).find? .tenantSpace ⟨"", name⟩ = some space := by
  rw [synced, Store.find?_write_of_ne _ _ _ (by decide), derives.same.find? (by decide),
    houses.isThere]

theorem Derives.find?_deployment_synced
    (derives : Derives housed derived registration deployment) :
    (synced derived registration deployment.key).find? .deployment registration.key =
      some deployment := by
  rw [synced, Store.find?_write_of_ne _ _ _ (by decide), derives.isThere]

theorem isSynced_of_steps (free : before.HasSlashFreeKeys)
    (due : IsDue before registration.key registration)
    (houses : Houses before housed registration.key.scope space)
    (derives : Derives housed derived registration deployment) :
    IsSynced (synced derived registration deployment.key) registration.key
      (derived.restated registration (registration.syncedStatus deployment.key)) deployment
      space where
  isFound := Store.find?_write_self _ _ _
  isOwn := rfl
  unmarked := due.unmarked
  isHeld := due.isHeld
  spaceFound := derives.find?_space_synced houses
  spaceOwn := houses.isOwn free
  deploymentFound := derives.find?_deployment_synced
  deploymentOwn := derives.isOwn houses.same free
  lasting := derives.fitting.lasting
  sameSpec := derives.fitting.sameSpec
  labelled := beq_iff_eq.1 derives.fitting.labelled
  observed := rfl
  named := congrArg some (derives.isOwn houses.same free)
  faultless := rfl

theorem changesOnly_of_steps (free : before.HasSlashFreeKeys)
    (due : IsDue before registration.key registration)
    (houses : Houses before housed registration.key.scope space)
    (derives : Derives housed derived registration deployment) :
    ChangesOnly before (synced derived registration deployment.key) registration.key
      (derived.restated registration (registration.syncedStatus deployment.key)) deployment
      space where
  elsewhere kind other apart := by
    simp only [List.mem_cons, Prod.mk.injEq, List.not_mem_nil, or_false, not_or, not_and]
      at apart
    obtain ⟨notSpace, notDeployment, notRegistration⟩ := apart
    have stillFound : derived.find? .registration registration.key = some registration := by
      rw [derives.same.find? (by decide), houses.same.find? (by decide), due.isFound]
    have untold := (Store.sameBeside_write derived (some registration)
      (derived.restated registration (registration.syncedStatus deployment.key))).find?_of_apart
      (fun other different => Store.find?_restated_of_ne stillFound different _)
      fun isKind => Ne.symm (notRegistration isKind)
    have underived := derives.same.find?_of_apart derives.others fun isKind =>
      Ne.symm (notDeployment isKind)
    have unhoused := houses.same.find?_of_apart houses.others fun isKind =>
      Ne.symm (notSpace isKind)
    exact untold.trans (underived.trans unhoused)
  spaceKept earlier wasThere := by
    rcases houses.origin with isThere | ⟨absent, -⟩
    · exact Option.some.inj (isThere.symm.trans wasThere)
    · rw [absent] at wasThere
      contradiction
  deploymentKept earlier wasThere := by
    rw [← houses.same.find? (by decide)] at wasThere
    obtain ⟨-, inLine, untouched⟩ := derives.kept earlier wasThere
    exact ⟨inLine, fun fitting =>
      untouched ⟨fitting.sameText, fitting.lasting, fitting.sameSpec, fitting.labelled⟩⟩
  registrationKept := by
    refine ⟨registration, due.isFound, ?_⟩
    rw [derives.isOwn houses.same free]
    rfl

end Steps

/-- The three steps together. -/
theorem exists_isSynced (free : world.store.HasSlashFreeKeys)
    (ran : (reconcile key).runOn world = (.ok .synced, after)) :
    ∃ registration deployment space,
      IsSynced after.store key registration deployment space ∧
        ChangesOnly world.store after.store key registration deployment space ∧
        ∃ stores, world.Wrote stores after ∧ stores.length ≤ 3 := by
  obtain ⟨registration, due, carriedOut⟩ := exists_carryOut_of_synced ran
  obtain rfl := free.key_eq_of_find? due.isFound
  obtain ⟨housed, derived, space, deployment, houses, derives, isLast, wrote⟩ :=
    exists_steps_of_carryOut due carriedOut
  rw [isLast]
  exact ⟨_, deployment, space, isSynced_of_steps free due houses derives,
    changesOnly_of_steps free due houses derives, wrote⟩

end Registration

end TenantFleet
