import TenantFleet.Proofs.Reports.Anchors
import TenantFleet.Proofs.Store.Contents

/-!
# Work that commutes

The effect of a pass is what it says and what it amends, as far as both can be
told from the contents of the store.  Two passes may be run in either order when
neither amends what the other sees, and what both amend comes to the same in
either order.
-/

namespace TenantFleet

namespace Store

variable {kind : Kind} {store : Store}

/-- An object that stays gets the finalizer. -/
theorem contents_hold {stored : Object kind} (unmarked : stored.isMarked = false) :
    (store.supplant stored (store.replacement stored stored.hold)).contents =
      Function.update store.contents (kind, stored.keyText)
        (some (stored.unstamped.rewritten stored.unstamped.hold)) := by
  have sameText : (store.replacement stored stored.hold).keyText = stored.keyText :=
    congrArg ObjectKey.text stored.key_hold
  rw [supplant_of_unmarked unmarked, contents_write, sameText, Object.unstamped_replacement,
    Object.unstamped_hold]

/-- An object that is let go leaves what others than the control plane keep of it. -/
theorem contents_letGo (stored : Object kind) :
    (store.supplant stored (store.replacement stored stored.letGo)).contents =
      Function.update store.contents (kind, stored.keyText) stored.unstamped.relieved? := by
  have sameText : (store.replacement stored stored.letGo).keyText = stored.keyText := rfl
  have sameRest : stored.unstamped.rewritten stored.unstamped.letGo =
      (store.replacement stored stored.letGo).unstamped :=
    (Object.unstamped_replacement store stored stored.letGo).symm
  rw [contents_supplant sameText, Object.relieved?, sameRest]
  simp only [Object.isSpent_unstamped]

end Store

/-- A change of what is in one place, which depends on nothing else. -/
structure Amendment where
  place : Store.Place
  amend : Option (Object place.1) → Option (Object place.1)

namespace Amendment

variable {kind : Kind} {text : String} {contents : Store.Contents}

def apply (contents : Store.Contents) (amendment : Amendment) : Store.Contents :=
  Function.update contents amendment.place (amendment.amend (contents amendment.place))

/-- Whatever was there. -/
def put (kind : Kind) (text : String) (value : Option (Object kind)) : Amendment :=
  ⟨(kind, text), fun _ => value⟩

/-- Unless there is something. -/
def supply (kind : Kind) (text : String) (object : Object kind) : Amendment :=
  ⟨(kind, text), fun held => some (held.getD object)⟩

/-- If there is something. -/
def revise (kind : Kind) (text : String) (revised : Object kind → Object kind) : Amendment :=
  ⟨(kind, text), Option.map revised⟩

/-- Both orders of the amendments come to the same. -/
def Commutes (first second : Amendment) : Prop :=
  ∀ contents, apply (apply contents first) second = apply (apply contents second) first

theorem commutes_self (amendment : Amendment) : amendment.Commutes amendment :=
  fun _ => rfl

theorem commutes_of_place_ne {first second : Amendment} (apart : first.place ≠ second.place) :
    first.Commutes second := by
  intro contents
  unfold apply
  rw [Function.update_of_ne apart.symm, Function.update_of_ne apart, Function.update_comm apart]

theorem commutes_revise {first second : Object kind → Object kind}
    (commute : ∀ object, second (first object) = first (second object)) (text : String) :
    (revise kind text first).Commutes (revise kind text second) := by
  intro contents
  have both : second ∘ first = first ∘ second := funext commute
  simp [apply, revise, both]

def applyAll (contents : Store.Contents) (amendments : List Amendment) : Store.Contents :=
  amendments.foldl apply contents

/-- What is in other places stays. -/
theorem applyAll_of_place_ne {place : Store.Place} (amendments : List Amendment)
    (apart : ∀ amendment ∈ amendments, amendment.place ≠ place) :
    applyAll contents amendments place = contents place := by
  induction amendments generalizing contents with
  | nil => rfl
  | cons amendment rest ih =>
      have restApart : ∀ other ∈ rest, other.place ≠ place := fun other otherMem =>
        apart other (List.mem_cons_of_mem _ otherMem)
      have elsewhere := apart amendment List.mem_cons_self
      exact (ih restApart).trans (Function.update_of_ne elsewhere.symm _ _)

theorem applyAll_apply {amendment : Amendment} (others : List Amendment)
    (commute : ∀ other ∈ others, amendment.Commutes other) :
    applyAll (apply contents amendment) others = apply (applyAll contents others) amendment := by
  induction others generalizing contents with
  | nil => rfl
  | cons other rest ih =>
      have restCommute : ∀ next ∈ rest, amendment.Commutes next := fun next nextMem =>
        commute next (List.mem_cons_of_mem _ nextMem)
      calc applyAll (apply (apply contents amendment) other) rest
        _ = applyAll (apply (apply contents other) amendment) rest := by
            rw [commute other List.mem_cons_self contents]
        _ = apply (applyAll (apply contents other) rest) amendment := ih restCommute

theorem applyAll_comm (first second : List Amendment)
    (commute : ∀ amendment ∈ first, ∀ other ∈ second, amendment.Commutes other) :
    applyAll (applyAll contents first) second = applyAll (applyAll contents second) first := by
  induction first generalizing contents with
  | nil => rfl
  | cons amendment rest ih =>
      have restCommute : ∀ next ∈ rest, ∀ other ∈ second, next.Commutes other :=
        fun next nextMem => commute next (List.mem_cons_of_mem _ nextMem)
      calc applyAll (applyAll (apply contents amendment) rest) second
        _ = applyAll (applyAll (apply contents amendment) second) rest := ih restCommute
        _ = applyAll (apply (applyAll contents second) amendment) rest := by
            rw [applyAll_apply second (commute amendment List.mem_cons_self)]

end Amendment

/-- What a pass says, and what it amends. -/
abbrev Doing (ε α : Type) := Except ε α × List Amendment

/-- What a pass does, as a function of the places that it sees. -/
structure Effect (ε α : Type) where
  sees : List Store.Place
  does : Store.Contents → Doing ε α
  heeds : ∀ {contents other : Store.Contents},
    (∀ place ∈ sees, other place = contents place) → does other = does contents

variable {ε α : Type}

namespace Effect

variable {effect other : Effect ε α} {shared : Amendment → Prop}

/-- Nothing that the effect amends is seen by the other. -/
def Spares (effect other : Effect ε α) : Prop :=
  ∀ contents, ∀ amendment ∈ (effect.does contents).2, amendment.place ∉ other.sees

theorem Spares.does_eq (spares : effect.Spares other) (contents : Store.Contents) :
    other.does (Amendment.applyAll contents (effect.does contents).2) = other.does contents := by
  refine other.heeds fun place seen => Amendment.applyAll_of_place_ne _ ?_
  rintro amendment amendmentMem rfl
  exact spares contents amendment amendmentMem seen

/-- Neither effect amends what the other sees, and what both amend commutes. -/
structure IsApart (effect other : Effect ε α) : Prop where
  spares : effect.Spares other
  spared : other.Spares effect
  commute : ∀ contents, ∀ amendment ∈ (effect.does contents).2,
    ∀ next ∈ (other.does contents).2, amendment.Commutes next

/-- What is amended is seen as well, or it is an amendment that many may make. -/
def KeepsTo (shared : Amendment → Prop) (effect : Effect ε α) : Prop :=
  ∀ contents, ∀ amendment ∈ (effect.does contents).2,
    amendment.place ∈ effect.sees ∨ shared amendment

theorem KeepsTo.spares (keeps : effect.KeepsTo shared)
    (disjoint : ∀ place ∈ effect.sees, place ∉ other.sees)
    (unseen : ∀ amendment, shared amendment → amendment.place ∉ other.sees) :
    effect.Spares other := by
  intro contents amendment amends
  rcases keeps contents amendment amends with seen | isShared
  · exact disjoint _ seen
  · exact unseen amendment isShared

/-- Effects that see different places are apart when the amendments that both may make commute. -/
theorem KeepsTo.isApart (keeps : effect.KeepsTo shared) (otherKeeps : other.KeepsTo shared)
    (disjoint : ∀ place ∈ effect.sees, place ∉ other.sees)
    (unseen : ∀ amendment, shared amendment →
      amendment.place ∉ effect.sees ∧ amendment.place ∉ other.sees)
    (commute : ∀ amendment next, shared amendment → shared next → amendment.Commutes next) :
    effect.IsApart other where
  spares := keeps.spares disjoint fun amendment isShared => (unseen amendment isShared).2
  spared := otherKeeps.spares (fun place seen ofEffect => disjoint place ofEffect seen)
    fun amendment isShared => (unseen amendment isShared).1
  commute contents amendment amends next nextAmends := by
    rcases keeps contents amendment amends with seen | isShared
    · refine Amendment.commutes_of_place_ne fun same => ?_
      rcases otherKeeps contents next nextAmends with nextSeen | nextShared
      · exact disjoint _ seen (same ▸ nextSeen)
      · exact (unseen next nextShared).1 (same ▸ seen)
    · rcases otherKeeps contents next nextAmends with nextSeen | nextShared
      · refine Amendment.commutes_of_place_ne fun same => ?_
        exact (unseen amendment isShared).2 (same ▸ nextSeen)
      · exact commute amendment next isShared nextShared

end Effect

namespace Pass

/-- Run on the world, the pass says this, and leaves the contents amended like this. -/
structure ComesTo (pass : Pass ε α) (world : World) (doing : Doing ε α) : Prop where
  outcome : (pass.runOn world).1 = doing.1
  leaves : (pass.runOn world).2.store.contents = Amendment.applyAll world.store.contents doing.2

/-- In either order the passes say the same and leave the same, but for resource versions and
times. -/
structure CommutesOn (first second : Pass ε α) (world : World) : Prop where
  firstSays : (first.runOn (second.runOn world).2).1 = (first.runOn world).1
  secondSays : (second.runOn (first.runOn world).2).1 = (second.runOn world).1
  alike : (second.runOn (first.runOn world).2).2.store.IsAlike
    (first.runOn (second.runOn world).2).2.store

variable {first second : Pass ε α} {effect other : Effect ε α} {world : World}

theorem comesTo_of_runOn {said : Except ε α} {amendments : List Amendment} {after : World}
    (ran : first.runOn world = (said, after))
    (left : after.store.contents = Amendment.applyAll world.store.contents amendments) :
    first.ComesTo world (said, amendments) := by
  constructor
  · rw [ran]
  · rw [ran, left]

/-- What is left to a second pass comes after what was amended first. -/
theorem ComesTo.continuing {doing : Doing ε α} {middle : World}
    (later : second.ComesTo middle doing) (ran : first.runOn world = second.runOn middle)
    (begun : List Amendment)
    (left : middle.store.contents = Amendment.applyAll world.store.contents begun) :
    first.ComesTo world (doing.1, begun ++ doing.2) := by
  have both : Amendment.applyAll world.store.contents (begun ++ doing.2) =
      Amendment.applyAll (Amendment.applyAll world.store.contents begun) doing.2 :=
    List.foldl_append
  constructor
  · rw [ran, later.outcome]
  · rw [ran, later.leaves, left, both]

/-- On anchored stores the pass has the effect, and leaves them anchored. -/
structure Follows (pass : Pass ε α) (effect : Effect ε α) : Prop where
  comesTo : ∀ world : World, world.store.IsAnchored →
    pass.ComesTo world (effect.does world.store.contents)
  anchored : ∀ world : World, world.store.IsAnchored → (pass.runOn world).2.store.IsAnchored

/-- After work that spares it, a pass says and amends what it would have before. -/
theorem Follows.after (ofFirst : first.Follows effect) (ofSecond : second.Follows other)
    (spares : effect.Spares other) (anchored : world.store.IsAnchored) :
    (second.runOn (first.runOn world).2).1 = (second.runOn world).1 ∧
      (second.runOn (first.runOn world).2).2.store.contents =
        Amendment.applyAll
          (Amendment.applyAll world.store.contents (effect.does world.store.contents).2)
          (other.does world.store.contents).2 := by
  have begun := ofFirst.comesTo world anchored
  have later := ofSecond.comesTo _ (ofFirst.anchored world anchored)
  rw [begun.leaves, spares.does_eq] at later
  refine ⟨later.outcome.trans (ofSecond.comesTo world anchored).outcome.symm, ?_⟩
  rw [later.leaves, begun.leaves]

/-- Passes whose effects are apart may be run in either order. -/
theorem Follows.commutesOn (ofFirst : first.Follows effect) (ofSecond : second.Follows other)
    (apart : effect.IsApart other) (anchored : world.store.IsAnchored) :
    first.CommutesOn second world := by
  obtain ⟨secondSays, oneOrder⟩ := ofFirst.after ofSecond apart.spares anchored
  obtain ⟨firstSays, otherOrder⟩ := ofSecond.after ofFirst apart.spared anchored
  have oneAnchored := ofSecond.anchored _ (ofFirst.anchored world anchored)
  have otherAnchored := ofFirst.anchored _ (ofSecond.anchored world anchored)
  refine ⟨firstSays, secondSays, ?_⟩
  refine Store.isAlike_of_contents_eq ?_ oneAnchored.indexed otherAnchored.indexed
  rw [oneOrder, otherOrder, Amendment.applyAll_comm _ _ (apart.commute _)]

/-- Passes that do nothing may be run in either order. -/
theorem commutesOn_of_idle {said told : Except ε α} (ofFirst : first.runOn world = (said, world))
    (ofSecond : second.runOn world = (told, world)) : first.CommutesOn second world := by
  refine ⟨?_, ?_, ?_⟩
  · rw [ofSecond]
  · rw [ofFirst]
  · rw [ofFirst, ofSecond, ofFirst]
    exact .refl world.store

end Pass

end TenantFleet
