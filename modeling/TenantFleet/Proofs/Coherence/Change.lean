import TenantFleet.Proofs.Coherence.Basic
import TenantFleet.Proofs.Store.Outcome

/-!
# Changes that keep a store coherent

An object may be created that refers to what is stored, replaced by one that
refers to no more and bears out no less, and removed when nothing refers to it.
What these come to for an object of each kind is all that a write has to answer
for.
-/

namespace TenantFleet

namespace Store

variable {store : Store} {kind : Kind}

/-- What a new object refers to is stored, and an instance is the only one of its deployment. -/
def Founds (store : Store) : {kind : Kind} → Object kind → Prop
  | .target, target => ∀ key, ¬ placeReference.Holds target key
  | .deployment, deployment => ∀ text, originReference.Holds deployment text →
      ∃ registration ∈ store.list .registration,
        originReference.Bears deployment text registration
  | .tenantInstance, made => ∀ text, ownerReference.Holds made text →
      (∃ deployment ∈ store.list .deployment, ownerReference.Bears made text deployment) ∧
        ∀ other ∈ store.list .tenantInstance, ¬ ownerReference.Holds other text
  | .tenantSpace, _ | .registration, _ | .scheduling, _ => True

/-- An object refers to what it referred to before or else to what is stored, and bears out what
it bore out before. -/
def Allows (store : Store) : {kind : Kind} → (stored next : Object kind) → Prop
  | .target, stored, next => ∀ key, placeReference.Holds next key →
      placeReference.Holds stored key ∨
        ∃ realised ∈ store.list .tenantInstance, placeReference.Bears stored key realised
  | .deployment, stored, next =>
      (∀ text, originReference.Holds next text → originReference.Holds stored text ∨
        ∃ registration ∈ store.list .registration, originReference.Bears next text registration) ∧
      (stored.isHeld = true → next.isHeld = true)
  | .tenantInstance, stored, next =>
      next.metadata.labels = stored.metadata.labels ∧
        (InstanceSpec.targetKey next.spec = InstanceSpec.targetKey stored.spec)
  | .registration, stored, next => stored.isHeld = true → next.isHeld = true
  | .tenantSpace, _, _ | .scheduling, _, _ => True

/-- Nothing refers to the object. -/
def Spares (store : Store) : {kind : Kind} → Object kind → Prop
  | .deployment, current => ∀ realised ∈ store.list .tenantInstance, ∀ text,
      ownerReference.Holds realised text → ¬ ownerReference.Bears realised text current
  | .tenantInstance, current => ∀ target ∈ store.list .target, ∀ key,
      placeReference.Holds target key → ¬ placeReference.Bears target key current
  | .registration, current => ∀ deployment ∈ store.list .deployment, ∀ text,
      originReference.Holds deployment text → ¬ originReference.Bears deployment text current
  | .tenantSpace, _ | .target, _ | .scheduling, _ => True

namespace IsCoherent

section Creation

variable {next : Object kind}

theorem places_create (coherent : store.IsCoherent) (absent : store.find? kind next.key = none)
    (founded : store.Founds next) : (store.write none next).Honours placeReference := by
  cases kind with
  | target =>
      exact coherent.places.write_holder none next fun key held => absurd held (founded key)
  | tenantInstance => exact coherent.places.create_bearer absent
  | tenantSpace | deployment | registration | scheduling =>
      exact coherent.places.write_other none next (by decide) (by decide)

theorem owners_create (coherent : store.IsCoherent) (absent : store.find? kind next.key = none)
    (founded : store.Founds next) : (store.write none next).Honours ownerReference := by
  cases kind with
  | tenantInstance =>
      exact coherent.owners.write_holder none next fun text held => (founded text held).1
  | deployment => exact coherent.owners.create_bearer absent
  | tenantSpace | target | registration | scheduling =>
      exact coherent.owners.write_other none next (by decide) (by decide)

theorem origins_create (coherent : store.IsCoherent) (absent : store.find? kind next.key = none)
    (founded : store.Founds next) : (store.write none next).Honours originReference := by
  cases kind with
  | deployment => exact coherent.origins.write_holder none next founded
  | registration => exact coherent.origins.create_bearer absent
  | tenantSpace | target | tenantInstance | scheduling =>
      exact coherent.origins.write_other none next (by decide) (by decide)

theorem single_create (coherent : store.IsCoherent) (founded : store.Founds next) :
    (store.write none next).IsSingle := by
  intro first firstPresent second secondPresent text ofFirst ofSecond
  cases kind with
  | tenantInstance =>
      rcases mem_list_write.1 firstPresent with rfl | ⟨firstStored, -⟩ <;>
        rcases mem_list_write.1 secondPresent with rfl | ⟨secondStored, -⟩
      · rfl
      · exact absurd ofSecond ((founded text ofFirst).2 second secondStored)
      · exact absurd ofFirst ((founded text ofSecond).2 first firstStored)
      · exact coherent.single first firstStored second secondStored text ofFirst ofSecond
  | tenantSpace | target | deployment | registration | scheduling =>
      rw [list_write_of_ne store none next (by decide)] at firstPresent secondPresent
      exact coherent.single first firstPresent second secondPresent text ofFirst ofSecond

/-- A store stays coherent when an object is created that refers to what is stored. -/
theorem create (coherent : store.IsCoherent) (absent : store.find? kind next.key = none)
    (plain : next.key.IsPlain) (sound : next.IsSound) (founded : store.Founds next) :
    (store.write none next).IsCoherent where
  plain := forall_mem_list_write coherent.plain plain
  indexed := coherent.indexed.write coherent.plain.nulFree absent
  sound := forall_mem_list_write coherent.sound sound
  places := coherent.places_create absent founded
  owners := coherent.owners_create absent founded
  origins := coherent.origins_create absent founded
  single := coherent.single_create founded

end Creation

section Replacement

variable {stored next : Object kind}

theorem places_replace (coherent : store.IsCoherent) (present : stored ∈ store.list kind)
    (sameKey : next.key = stored.key) (allowed : store.Allows stored next) :
    (store.write (some stored) next).Honours placeReference := by
  cases kind with
  | target =>
      refine coherent.places.write_holder (some stored) next fun key held => ?_
      have borneOut : ∃ realised ∈ store.list .tenantInstance,
          placeReference.Bears stored key realised := by
        rcases allowed key held with wasHeld | isBorneOut
        · exact coherent.places stored present key wasHeld
        · exact isBorneOut
      obtain ⟨realised, isStored, isRealised, onTarget⟩ := borneOut
      exact ⟨realised, isStored, isRealised, onTarget.trans sameKey.symm⟩
  | tenantInstance =>
      refine coherent.places.write_bearer present (congrArg ObjectKey.text sameKey)
        fun target _ key _ bears => ?_
      exact ⟨sameKey.trans bears.1, allowed.2.trans bears.2⟩
  | tenantSpace | deployment | registration | scheduling =>
      exact coherent.places.write_other (some stored) next (by decide) (by decide)

theorem owners_replace (coherent : store.IsCoherent) (present : stored ∈ store.list kind)
    (sameKey : next.key = stored.key) (allowed : store.Allows stored next) :
    (store.write (some stored) next).Honours ownerReference := by
  cases kind with
  | tenantInstance =>
      refine coherent.owners.write_holder (some stored) next fun text held => ?_
      have wasHeld : ownerReference.Holds stored text := by
        simpa only [ownerReference, Metadata.label?, allowed.1] using held
      obtain ⟨deployment, isStored, isOwner, isHeld, named⟩ :=
        coherent.owners stored present text wasHeld
      exact ⟨deployment, isStored, isOwner, isHeld, sameKey.symm ▸ named⟩
  | deployment =>
      refine coherent.owners.write_bearer present (congrArg ObjectKey.text sameKey)
        fun realised _ text _ bears => ?_
      obtain ⟨isOwner, isHeld, named⟩ := bears
      exact ⟨(congrArg ObjectKey.text sameKey).trans isOwner, allowed.2 isHeld,
        sameKey.symm ▸ named⟩
  | tenantSpace | target | registration | scheduling =>
      exact coherent.owners.write_other (some stored) next (by decide) (by decide)

theorem origins_replace (coherent : store.IsCoherent) (present : stored ∈ store.list kind)
    (sameKey : next.key = stored.key) (allowed : store.Allows stored next) :
    (store.write (some stored) next).Honours originReference := by
  cases kind with
  | deployment =>
      refine coherent.origins.write_holder (some stored) next fun text held => ?_
      rcases allowed.1 text held with wasHeld | isBorneOut
      · exact coherent.origins stored present text wasHeld
      · exact isBorneOut
  | registration =>
      refine coherent.origins.write_bearer present (congrArg ObjectKey.text sameKey)
        fun deployment _ text _ bears => ?_
      exact ⟨(congrArg ObjectKey.text sameKey).trans bears.1, allowed bears.2⟩
  | tenantSpace | target | tenantInstance | scheduling =>
      exact coherent.origins.write_other (some stored) next (by decide) (by decide)

theorem single_replace (coherent : store.IsCoherent) (present : stored ∈ store.list kind)
    (sameKey : next.key = stored.key) (allowed : store.Allows stored next) :
    (store.write (some stored) next).IsSingle := by
  intro first firstPresent second secondPresent text ofFirst ofSecond
  cases kind with
  | tenantInstance =>
      have sameText : next.keyText = stored.keyText := congrArg ObjectKey.text sameKey
      -- the one before would clash with any other that bears the label of the next
      have onlyNext : ∀ other ∈ store.list .tenantInstance, other.keyText ≠ next.keyText →
          ownerReference.Holds next text → ¬ ownerReference.Holds other text := by
        intro other isStored otherText ofNext ofOther
        have ofStored : ownerReference.Holds stored text := by
          simpa only [ownerReference, Metadata.label?, allowed.1] using ofNext
        have same := coherent.single other isStored stored present text ofOther ofStored
        exact otherText (same ▸ sameText.symm)
      rcases mem_list_write.1 firstPresent with rfl | ⟨firstStored, firstText⟩ <;>
        rcases mem_list_write.1 secondPresent with rfl | ⟨secondStored, secondText⟩
      · rfl
      · exact absurd ofSecond (onlyNext second secondStored secondText ofFirst)
      · exact absurd ofFirst (onlyNext first firstStored firstText ofSecond)
      · exact coherent.single first firstStored second secondStored text ofFirst ofSecond
  | tenantSpace | target | deployment | registration | scheduling =>
      rw [list_write_of_ne store (some stored) next (by decide)] at firstPresent secondPresent
      exact coherent.single first firstPresent second secondPresent text ofFirst ofSecond

/-- A store stays coherent when a stored object is replaced by one that is allowed for it. -/
theorem replace (coherent : store.IsCoherent) (present : stored ∈ store.list kind)
    (sameKey : next.key = stored.key) (sound : next.IsSound) (allowed : store.Allows stored next) :
    (store.write (some stored) next).IsCoherent := by
  have plain : next.key.IsPlain := sameKey ▸ coherent.plain kind stored present
  exact {
    plain := forall_mem_list_write coherent.plain plain
    indexed := coherent.indexed.write coherent.plain.nulFree (sameKey ▸ find?_key_of_mem present)
    sound := forall_mem_list_write coherent.sound sound
    places := coherent.places_replace present sameKey allowed
    owners := coherent.owners_replace present sameKey allowed
    origins := coherent.origins_replace present sameKey allowed
    single := coherent.single_replace present sameKey allowed }

end Replacement

section Removal

variable {current : Object kind}

theorem places_remove (coherent : store.IsCoherent) (present : current ∈ store.list kind)
    (spared : store.Spares current) : (store.remove current).Honours placeReference := by
  cases kind with
  | target => exact coherent.places.remove_holder current
  | tenantInstance => exact coherent.places.remove_bearer present spared
  | tenantSpace | deployment | registration | scheduling =>
      exact coherent.places.remove_other current (by decide) (by decide)

theorem owners_remove (coherent : store.IsCoherent) (present : current ∈ store.list kind)
    (spared : store.Spares current) : (store.remove current).Honours ownerReference := by
  cases kind with
  | tenantInstance => exact coherent.owners.remove_holder current
  | deployment => exact coherent.owners.remove_bearer present spared
  | tenantSpace | target | registration | scheduling =>
      exact coherent.owners.remove_other current (by decide) (by decide)

theorem origins_remove (coherent : store.IsCoherent) (present : current ∈ store.list kind)
    (spared : store.Spares current) : (store.remove current).Honours originReference := by
  cases kind with
  | deployment => exact coherent.origins.remove_holder current
  | registration => exact coherent.origins.remove_bearer present spared
  | tenantSpace | target | tenantInstance | scheduling =>
      exact coherent.origins.remove_other current (by decide) (by decide)

/-- A store stays coherent when an object is removed that nothing refers to. -/
theorem remove (coherent : store.IsCoherent) (present : current ∈ store.list kind)
    (spared : store.Spares current) : (store.remove current).IsCoherent where
  plain read object isStored :=
    coherent.plain read object (mem_list_of_mem_list_remove isStored)
  indexed := coherent.indexed.remove coherent.plain.nulFree present
  sound read object isStored :=
    coherent.sound read object (mem_list_of_mem_list_remove isStored)
  places := coherent.places_remove present spared
  owners := coherent.owners_remove present spared
  origins := coherent.origins_remove present spared
  single first firstPresent second secondPresent :=
    coherent.single first (mem_list_of_mem_list_remove firstPresent)
      second (mem_list_of_mem_list_remove secondPresent)

end Removal

theorem with_lastVersion (coherent : store.IsCoherent) (version : Nat) :
    ({ store with lastVersion := version } : Store).IsCoherent where
  plain read object isStored := coherent.plain read object (by simpa using isStored)
  indexed := by simpa [IsIndexed] using coherent.indexed
  sound read object isStored := coherent.sound read object (by simpa using isStored)
  places := coherent.places.congr (by simp) (by simp)
  owners := coherent.owners.congr (by simp) (by simp)
  origins := coherent.origins.congr (by simp) (by simp)
  single := by simpa [IsSingle] using coherent.single

end IsCoherent

end Store

end TenantFleet
