import TenantFleet.Proofs.Coherence.Passes
import TenantFleet.Proofs.Isolation.Basic
import TenantFleet.Proofs.Passes.Resync

/-!
# Passes keep a store isolated

What a pass creates it creates in the namespace of the object that it is run on,
and what it writes down it has found in that namespace.
-/

namespace TenantFleet

variable {store after : Store} {deliveries : List Delivery} {key : ObjectKey}

theorem Metadata.PointsHome.congr {first second : Metadata} (home : first.PointsHome)
    (sameLabels : second.labels = first.labels) (sameScope : second.scope = first.scope) :
    second.PointsHome := by
  intro text key labelled spelled
  rw [label?, sameLabels] at labelled
  rw [sameScope]
  exact home text key labelled spelled

theorem Metadata.pointsHome_of_label {metadata : Metadata} (plain : key.IsPlain)
    (labelled : metadata.label? registrationLabel = some key.text)
    (sameScope : metadata.scope = key.scope) : metadata.PointsHome := by
  intro text spelled isText isSpelled
  obtain rfl := Option.some.inj (labelled.symm.trans isText)
  rw [ObjectKey.eq_of_ofText?_text plain isSpelled, sameScope]

theorem Object.IsApart.replacement {kind : Kind} {stored next : Object kind}
    (apart : stored.IsApart deliveries) (sameKey : next.key = stored.key)
    (sameLabels : next.metadata.labels = stored.metadata.labels) :
    (store.replacement stored next).IsApart deliveries := by
  have sameScope : next.metadata.scope = stored.metadata.scope := congrArg ObjectKey.scope sameKey
  cases kind with
  | deployment =>
      refine ⟨apart.home.congr sameLabels sameScope, fun key isKey => ?_⟩
      rw [Store.key_replacement, sameKey]
      exact apart.realised key isKey
  | tenantInstance =>
      obtain ⟨owner, plain, ownScope, isLabels⟩ := apart.owner
      refine ⟨⟨owner, plain, ?_, sameLabels.trans isLabels⟩, ?_⟩
      · rw [Store.key_replacement, sameKey, ownScope]
      · rw [Store.key_replacement, sameKey]
        exact apart.delivered
  | registration =>
      change IsDelivered deliveries next.key.scope _
      rw [sameKey]
      exact apart
  | tenantSpace | target | scheduling => trivial

namespace Store.IsIsolated

theorem hold (isolated : store.IsIsolated deliveries) {kind : Kind} {stored : Object kind}
    (present : stored ∈ store.list kind) :
    (store.supplant stored (store.replacement stored stored.hold)).IsIsolated deliveries :=
  isolated.supplant present stored.key_hold
    ((isolated.apart kind stored present).replacement stored.key_hold (by simp))

theorem letGo (isolated : store.IsIsolated deliveries) {kind : Kind} {stored : Object kind}
    (present : stored ∈ store.list kind) :
    (store.supplant stored (store.replacement stored stored.letGo)).IsIsolated deliveries :=
  isolated.supplant present rfl ((isolated.apart kind stored present).replacement rfl rfl)

/-- What realises a deployment is of its namespace. -/
theorem scope_of_realises (isolated : store.IsIsolated deliveries) {deployment : Deployment}
    {realised : TenantInstance} (isStored : deployment ∈ store.list .deployment)
    (realises : store.Realises deployment realised) :
    realised.key.scope = deployment.key.scope := by
  obtain ⟨present, ⟨named, isNamed, sameText⟩ | listed⟩ := realises
  · have apart : Deployment.IsApart deployment := isolated.apart .deployment deployment isStored
    obtain ⟨plain, sameScope⟩ := apart.realised named isNamed
    rw [← isolated.eq_key_of_find? plain (find?_eq_some_of_mem present sameText.symm)] at sameScope
    exact sameScope
  · have apart : TenantInstance.IsApart deliveries realised :=
      isolated.apart .tenantInstance realised present
    obtain ⟨owner, plain, ownScope, isLabels⟩ := apart.owner
    have sameText :=
      isolated.indexed.value_eq_of_mem_labelled isolated.plain.nulFree isLabels listed
    have isOwner := ObjectKey.eq_of_text_eq
      (isolated.plain .deployment deployment isStored) plain sameText
    rw [isOwner, ownScope]

end Store.IsIsolated

theorem Registration.Write.isIsolated (written : Registration.Write key store after)
    (isolated : store.IsIsolated deliveries) : after.IsIsolated deliveries := by
  cases written with
  | held isFound unmarked unheld => exact isolated.hold (Store.mem_list_of_find? isFound)
  | @spaced registration isFound absent now =>
      have plain := isolated.plain .registration registration (Store.mem_list_of_find? isFound)
      have noScope : IsPlainText "" := by decide
      exact isolated.create absent ⟨noScope, plain.1⟩ trivial
  | @derived registration due absent now =>
      have plain := isolated.plain .registration registration (Store.mem_list_of_find? due.isFound)
      have home : registration.newDeployment.metadata.PointsHome :=
        Metadata.pointsHome_of_label plain (Labels.value?_set _ _ _) rfl
      refine isolated.create absent plain ⟨home.congr rfl rfl, fun key isKey => ?_⟩
      simp [newDeployment] at isKey
  | @carried registration existing due deploymentFound lasting =>
      have plain := isolated.plain .registration registration (Store.mem_list_of_find? due.isFound)
      have present := Store.mem_list_of_find? deploymentFound
      have apart : Deployment.IsApart existing := isolated.apart .deployment existing present
      have sameScope : existing.metadata.scope = registration.key.scope :=
        congrArg ObjectKey.scope (isolated.eq_key_of_find? plain deploymentFound)
      have home : (registration.carriedInto existing).metadata.PointsHome :=
        Metadata.pointsHome_of_label plain (Labels.value?_set _ _ _) sameScope
      exact isolated.replace present rfl ⟨home.congr rfl rfl, apart.realised⟩
  | synced due deploymentFound fitting =>
      have present := Store.mem_list_of_find? due.isFound
      exact isolated.restate_registration present (isolated.apart .registration _ present)
  | deleted isFound marked present deletion => exact isolated.deletion present deletion
  | letGo isFound marked gone => exact isolated.letGo (Store.mem_list_of_find? isFound)
  | recorded due unnamed now =>
      have present := Store.mem_list_of_find? due.isFound
      exact isolated.restate_registration present (isolated.apart .registration _ present)

theorem Deployment.Write.isIsolated (written : Deployment.Write key store after)
    (isolated : store.IsIsolated deliveries) : after.IsIsolated deliveries := by
  cases written with
  | held isFound unmarked unheld => exact isolated.hold (Store.mem_list_of_find? isFound)
  | @created deployment made isFound unmarked isHeld vacant isNew =>
      have plain := isolated.plain .deployment deployment (Store.mem_list_of_find? isFound)
      have named : made.key.IsNamedAfter deployment.key := isNew.isNamedAfter
      obtain ⟨rules, target, id, suffix, now, -, -, rfl, absent⟩ := isNew
      exact isolated.create absent (named.isPlain plain)
        ⟨⟨deployment.key, plain, rfl, rfl⟩, .inl rfl⟩
  | renewed isFound realises unmarked =>
      exact isolated.replace realises.1 rfl
        ((isolated.apart .tenantInstance _ realises.1).replacement rfl rfl)
  | placed isFound realises unmarked targetFound unhosted =>
      exact isolated.restate_target (Store.mem_list_of_find? targetFound) _
  | @settled deployment realised isFound realises =>
      have present := Store.mem_list_of_find? isFound
      refine isolated.restate_deployment present fun key isKey => ?_
      obtain rfl : realised.key = key := Option.some.inj isKey
      exact ⟨isolated.plain .tenantInstance realised realises.1,
        isolated.scope_of_realises present realises⟩
  | cleared isFound marked vacant =>
      refine isolated.restate_deployment (Store.mem_list_of_find? isFound) fun key isKey => ?_
      contradiction
  | letGo isFound marked vacant => exact isolated.letGo (Store.mem_list_of_find? isFound)
  | released isFound realises unheld targetFound hosts =>
      exact isolated.restate_target (Store.mem_list_of_find? targetFound) _
  | deleted isFound marked realises unmarked deletion =>
      exact isolated.deletion realises.1 deletion
  | @recorded deployment isFound record =>
      have present := Store.mem_list_of_find? isFound
      have apart : Deployment.IsApart deployment := isolated.apart .deployment deployment present
      exact isolated.restate_deployment present apart.realised

/-- What a report carries, and whom it reaches, are of the deployment's namespace. -/
theorem Store.IsIsolated.scopes_of_report (isolated : store.IsIsolated deliveries)
    {deployment : Deployment} {realised : TenantInstance} {label : String}
    {registrationKey : ObjectKey} {registration : Registration}
    (isStored : deployment ∈ store.list .deployment)
    (named : deployment.status.instanceKey.bind (store.find? .tenantInstance) = some realised)
    (labelled : deployment.metadata.label? registrationLabel = some label)
    (spelled : ObjectKey.ofText? label = some registrationKey)
    (registrationFound : store.find? .registration registrationKey = some registration) :
    realised.key.scope = registration.key.scope ∧
      deployment.key.scope = registration.key.scope := by
  have apart : Deployment.IsApart deployment := isolated.apart .deployment deployment isStored
  obtain ⟨instanceKey, isKey, instanceFound⟩ := Option.bind_eq_some_iff.1 named
  obtain ⟨plain, sameScope⟩ := apart.realised instanceKey isKey
  have isRealised := isolated.eq_key_of_find? plain instanceFound
  have ofDeployment := apart.home label registrationKey labelled spelled
  have present := Store.mem_list_of_find? registrationFound
  -- the registration is stored under the text that the label spells
  have isRegistration : registrationKey = registration.key := by
    refine ObjectKey.eq_of_ofText?_text (isolated.plain .registration registration present) ?_
    have sameText : registration.key.text = registrationKey.text :=
      Store.keyText_of_find? registrationFound
    rw [sameText, ObjectKey.text_of_ofText? spelled, spelled]
  rw [isRealised, sameScope, ← isRegistration, ofDeployment]
  exact ⟨rfl, rfl⟩

theorem Deployment.Report.isIsolated (written : Deployment.Report key store after)
    (isolated : store.IsIsolated deliveries) : after.IsIsolated deliveries := by
  cases written with
  | @reported deployment realised _ _ registration isFound named labelled spelled
      registrationFound =>
      obtain ⟨sameScope, -⟩ := isolated.scopes_of_report (Store.mem_list_of_find? isFound) named
        labelled spelled registrationFound
      have realisedPresent : realised ∈ store.list .tenantInstance := by
        obtain ⟨_, -, instanceFound⟩ := Option.bind_eq_some_iff.1 named
        exact Store.mem_list_of_find? instanceFound
      have apart : TenantInstance.IsApart deliveries realised :=
        isolated.apart .tenantInstance realised realisedPresent
      exact isolated.restate_registration (Store.mem_list_of_find? registrationFound)
        (sameScope ▸ apart.delivered)

theorem TenantInstance.Write.isIsolated (written : TenantInstance.Write key store after)
    (isolated : store.IsIsolated deliveries) : after.IsIsolated deliveries := by
  cases written with
  | held isFound unmarked unheld => exact isolated.hold (Store.mem_list_of_find? isFound)
  | released isFound marked isHeld targetFound hosts =>
      exact isolated.restate_target (Store.mem_list_of_find? targetFound) _
  | letGo isFound marked isHeld released => exact isolated.letGo (Store.mem_list_of_find? isFound)
  | @recorded realised isFound record =>
      have present := Store.mem_list_of_find? isFound
      have apart : TenantInstance.IsApart deliveries realised :=
        isolated.apart .tenantInstance realised present
      exact isolated.restate_instance present apart.delivered

theorem Target.Write.isIsolated (written : Target.Write key store after)
    (isolated : store.IsIsolated deliveries) : after.IsIsolated deliveries := by
  cases written with
  | published isFound stale => exact isolated.restate_target (Store.mem_list_of_find? isFound) _

theorem Resync.Write.isIsolated (written : Resync.Write store after)
    (isolated : store.IsIsolated deliveries) : after.IsIsolated deliveries := by
  cases written with
  | registration written => exact written.isIsolated isolated
  | deployment written => exact written.isIsolated isolated
  | report written => exact written.isIsolated isolated
  | tenantInstance written => exact written.isIsolated isolated
  | target written => exact written.isIsolated isolated

end TenantFleet
