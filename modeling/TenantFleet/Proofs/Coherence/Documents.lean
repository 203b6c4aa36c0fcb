import TenantFleet.Proofs.Coherence.Passes

/-!
# Documents keep a store coherent

A document is ordinary when it says nothing that is the control plane's to say.
An ordinary document cannot make a store incoherent: what is created from it
refers to nothing, and what is replaced by it keeps its status, its finalizers
and its managed labels.
-/

namespace TenantFleet

/-- The header names the object by a plain key, and has nothing in it that the control plane
keeps. -/
structure Metadata.IsOrdinary (metadata : Metadata) : Prop where
  named : metadata.name ≠ ""
  plain : metadata.key.IsPlain
  free : metadata.finalizers = []
  unowned : metadata.owners = []
  unmanaged : ∀ entry ∈ metadata.labels.entries, beginsWith managedStem entry.1 = false

/-- The object of a user has an ordinary header and no status. -/
structure Object.IsOrdinary {kind : Kind} (object : Object kind) : Prop where
  header : object.metadata.IsOrdinary
  blank : object.status = kind.initialStatus

/-- The document is ordinary; the kind of its object tells where its parts are. -/
def Manifest.IsOrdinary : Manifest → Prop
  | .tenantSpace object => object.IsOrdinary
  | .target object => object.IsOrdinary
  | .deployment object => object.IsOrdinary
  | .registration object => object.IsOrdinary
  | .scheduling draft => draft.metadata.IsOrdinary

namespace Labels

/-- The labels with another, unless it is a user's to set or there is one of its name. -/
def withManagedEntry (labels : Labels) (entry : String × String) : Labels :=
  if beginsWith managedStem entry.1 && !labels.contains entry.1 then labels.set entry.1 entry.2
  else labels

theorem find?_foldl_withManagedEntry (name : String) (entries : List (String × String))
    (labels : Labels) :
    (entries.foldl withManagedEntry labels).find? name =
      (labels.find? name).or
        (if beginsWith managedStem name then entries.find? fun entry => entry.1 == name
          else none) := by
  -- a stored label of the name counts only where the ones before it have not set it
  induction entries generalizing labels with
  | nil => simp
  | cons entry rest ih =>
      rw [List.foldl_cons, ih, List.find?_cons, withManagedEntry]
      by_cases sameName : entry.1 = name
      · subst sameName
        cases managed : beginsWith managedStem entry.1 <;>
          cases held : labels.find? entry.1 <;>
            simp [Table.contains, held, Labels.set, Table.find?_insert]
      · have kept : (if (beginsWith managedStem entry.1 && !labels.contains entry.1) = true
            then labels.set entry.1 entry.2 else labels).find? name = labels.find? name := by
          split
          · rw [Labels.set, Table.find?_insert, if_neg sameName]
          · rfl
        have otherName : (entry.1 == name) = false := by simpa using sameName
        simp only [kept, otherName]

end Labels

namespace Metadata

/-- A label is the one of the user's version; where that has none, a managed label is the one that
was stored. -/
theorem label?_withManaged (metadata stored : Metadata) (name : String) :
    (metadata.withManaged stored).label? name =
      (metadata.label? name).or
        (if beginsWith managedStem name then stored.label? name else none) := by
  have isLabel := Labels.find?_foldl_withManagedEntry name stored.labels.entries metadata.labels
  change ((stored.labels.entries.foldl Labels.withManagedEntry metadata.labels).find? name).map
    Prod.snd = _
  rw [isLabel, Option.map_or, apply_ite (Option.map Prod.snd)]
  rfl

theorem IsOrdinary.label?_eq_none {metadata : Metadata} (ordinary : metadata.IsOrdinary)
    {name : String} (managed : beginsWith managedStem name = true) :
    metadata.label? name = none := by
  refine Option.map_eq_none_iff.2 (Table.find?_eq_none_iff.2 fun entry entryMem sameName => ?_)
  have unmanaged := ordinary.unmanaged entry entryMem
  rw [sameName, managed] at unmanaged
  contradiction

/-- A user's version of an object has the registration label that is stored. -/
theorem IsOrdinary.label?_withManaged {metadata : Metadata} (ordinary : metadata.IsOrdinary)
    (stored : Metadata) {name : String} (managed : beginsWith managedStem name = true) :
    (metadata.withManaged stored).label? name = stored.label? name := by
  rw [Metadata.label?_withManaged, if_pos managed, ordinary.label?_eq_none managed,
    Option.none_or]

end Metadata

theorem isManaged_registrationLabel : beginsWith managedStem registrationLabel = true := by
  decide

namespace Admission

variable {store after : Store} {kind : Kind} {object : Object kind}

theorem isCoherent_of_create (coherent : store.IsCoherent) (notInstance : kind ≠ .tenantInstance)
    (ordinary : object.metadata.IsOrdinary) (blank : object.status = kind.initialStatus)
    (absent : store.find? kind object.key = none) (now : Nat) :
    (store.write none (store.initialObject object object.metadata.name now)).IsCoherent := by
  have free : object.metadata.finalizers = [] := ordinary.free
  cases kind with
  | target =>
      refine coherent.create absent ordinary.plain ?_ fun key held => ?_
      · simp [Object.IsSound, Target.IsSound, blank, Kind.initialStatus]
      · have listed : key ∈ (Kind.initialStatus .target).assigned := blank ▸ held
        exact List.not_mem_nil listed
  | deployment =>
      refine coherent.create absent ordinary.plain ⟨.inl free, fun key isKey => ?_⟩
        fun text held => ?_
      · simp [blank, Kind.initialStatus] at isKey
      · change object.metadata.label? registrationLabel = some text at held
        rw [ordinary.label?_eq_none isManaged_registrationLabel] at held
        contradiction
  | registration => exact coherent.create absent ordinary.plain (.inl free) trivial
  | tenantInstance => contradiction
  | tenantSpace | scheduling => exact coherent.create absent ordinary.plain trivial trivial

theorem isCoherent_of_update (coherent : store.IsCoherent) (notInstance : kind ≠ .tenantInstance)
    (ordinary : object.metadata.IsOrdinary) {stored complete : Object kind}
    (isFound : store.find? kind object.key = some stored)
    (sameMetadata : complete.metadata = object.metadata.withManaged stored.metadata) :
    (store.supplant stored (store.replacement stored complete)).IsCoherent := by
  have present := Store.mem_list_of_find? isFound
  have sameKey : complete.key = stored.key :=
    (congrArg Metadata.key sameMetadata).trans
      (coherent.eq_key_of_find? ordinary.plain isFound).symm
  have sameFinalizers := finalizers_of_update sameMetadata
  have sameHeld : complete.isHeld = stored.isHeld := by
    simp only [Object.isHeld, Metadata.isHeldBy, sameFinalizers]
  have sound := coherent.sound kind stored present
  cases spent : Store.isSpent (store.replacement stored complete) with
  | true =>
      rw [Store.supplant_of_spent spent]
      have free : stored.metadata.finalizers = [] := by
        simp only [Store.isSpent, Bool.and_eq_true, List.isEmpty_iff, Store.finalizers_replacement,
          sameFinalizers] at spent
        exact spent.2
      exact (coherent.delete present (.purged free)).with_lastVersion _
  | false =>
      rw [Store.supplant_of_kept spent]
      cases kind with
      | target => exact coherent.replace present sameKey sound fun key held => .inl held
      | deployment =>
          have own : complete.metadata.HasOwnFinalizers := by
            rw [Metadata.HasOwnFinalizers, sameFinalizers]
            exact sound.own
          refine coherent.replace present sameKey ⟨own, fun key isKey => ?_⟩
            ⟨fun text held => .inl ?_, fun wasHeld => sameHeld.trans wasHeld⟩
          · rw [Store.key_replacement, sameKey]
            exact sound.named key isKey
          · have sameLabel :=
              ordinary.label?_withManaged stored.metadata isManaged_registrationLabel
            rw [← sameMetadata] at sameLabel
            exact sameLabel.symm.trans held
      | registration =>
          have own : complete.metadata.HasOwnFinalizers := by
            rw [Metadata.HasOwnFinalizers, sameFinalizers]
            exact sound
          exact coherent.replace present sameKey own fun wasHeld => sameHeld.trans wasHeld
      | tenantInstance => contradiction
      | tenantSpace | scheduling => exact coherent.replace present sameKey trivial trivial

theorem Write.isCoherent (written : Write object store after) (coherent : store.IsCoherent)
    (notInstance : kind ≠ .tenantInstance) (ordinary : object.metadata.IsOrdinary)
    (blank : object.status = kind.initialStatus) : after.IsCoherent := by
  cases written with
  | @created complete name now sameMetadata sameStatus isName isMade absent =>
      obtain rfl := isName ordinary.named
      rw [← sameMetadata] at ordinary absent ⊢
      exact isCoherent_of_create coherent notInstance ordinary (sameStatus.trans blank) absent now
  | updated isFound sameMetadata permitted =>
      exact isCoherent_of_update coherent notInstance ordinary isFound sameMetadata

end Admission

theorem SchedulingDraft.metadata_of_reviewed {draft : SchedulingDraft} {scheduling : Scheduling}
    (accepted : draft.reviewed = .ok scheduling) : scheduling.metadata = draft.metadata := by
  unfold reviewed toScheduling at accepted
  split at accepted
  next spelled read =>
    obtain rfl := Except.ok.inj accepted
    split at read
    · split at read
      · exact (Except.ok.inj read) ▸ rfl
      · contradiction
    · contradiction
  next => contradiction

theorem Manifest.Write.isCoherent {manifest : Manifest} {store after : Store}
    (written : manifest.Write store after) (coherent : store.IsCoherent)
    (ordinary : manifest.IsOrdinary) : after.IsCoherent := by
  cases written with
  | tenantSpace written =>
      exact written.isCoherent coherent (by decide) ordinary.header ordinary.blank
  | target written =>
      exact written.isCoherent coherent (by decide) ordinary.header ordinary.blank
  | deployment written =>
      exact written.isCoherent coherent (by decide) ordinary.header ordinary.blank
  | registration written =>
      exact written.isCoherent coherent (by decide) ordinary.header ordinary.blank
  | @scheduling draft scheduling _ _ accepted written =>
      have header : scheduling.metadata.IsOrdinary :=
        (SchedulingDraft.metadata_of_reviewed accepted).symm ▸ ordinary
      exact written.isCoherent coherent (by decide) header rfl

end TenantFleet
