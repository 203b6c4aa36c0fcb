import TenantFleet.Lifecycle.Capacity
import TenantFleet.Proofs.Placement.Choice

/-!
# Placements spread the load by priority

Deployments that ask for no region and no labels are placed one after the other
on a pool of visible targets.  Each goes to the target of the greatest score,
whose load then grows by one.  What a target was worth when it was last chosen
is its priority over its load as it is now, and that stays at least the score of
every target: the load of a target never shrinks, so its score never grows.
-/

namespace TenantFleet

namespace Target

variable {target : Target}

/-- The score that the target had when the latest of its instances was placed. -/
def lastScore (target : Target) : Int :=
  target.spec.priority.tdiv target.hostedCount

theorem score_eq : target.score = target.spec.priority.tdiv (target.hostedCount + 1) :=
  rfl

@[simp]
theorem key_assigning (instanceKey : ObjectKey) :
    (target.assigning instanceKey).key = target.key :=
  rfl

@[simp]
theorem spec_assigning (instanceKey : ObjectKey) :
    (target.assigning instanceKey).spec = target.spec :=
  rfl

@[simp]
theorem hostedCount_assigning (instanceKey : ObjectKey) :
    (target.assigning instanceKey).hostedCount = target.hostedCount + 1 := by
  simp [hostedCount, assigning, published]

theorem lastScore_assigning (instanceKey : ObjectKey) :
    (target.assigning instanceKey).lastScore = target.score := by
  simp [lastScore, score_eq]

/-- One more instance never makes a target score higher. -/
theorem score_assigning_le (nonneg : 0 ≤ target.spec.priority) (instanceKey : ObjectKey) :
    (target.assigning instanceKey).score ≤ target.score := by
  rw [score_eq, score_eq, spec_assigning, hostedCount_assigning,
    Int.tdiv_eq_ediv_of_nonneg nonneg, Int.tdiv_eq_ediv_of_nonneg nonneg]
  set priority := target.spec.priority
  set places : Int := target.hostedCount + 1 with isPlaces
  have morePlaces : places ≤ ((target.hostedCount + 1 : Nat) : Int) + 1 := by omega
  apply Int.le_ediv_of_mul_le (by omega)
  calc priority / (((target.hostedCount + 1 : Nat) : Int) + 1) * places
      ≤ priority / (((target.hostedCount + 1 : Nat) : Int) + 1) *
          (((target.hostedCount + 1 : Nat) : Int) + 1) :=
        Int.mul_le_mul_of_nonneg_left morePlaces (Int.ediv_nonneg nonneg (by omega))
    _ ≤ priority := Int.ediv_mul_le priority (by omega)

end Target

/-- A deployment that asks for no region and no labels. -/
structure Deployment.IsUndemanding (deployment : Deployment) : Prop where
  anyRegion : deployment.spec.region = none
  anyLabels : deployment.spec.targetLabels.entries = []

namespace Deployment

variable {deployment : Deployment} {pool : List Target} {best : Target}

theorem IsUndemanding.fits_iff (undemanding : deployment.IsUndemanding) {target : Target} :
    deployment.fits target = true ↔ target.spec.visible = true := by
  simp [fits, undemanding.anyRegion, undemanding.anyLabels]

theorem IsUndemanding.filter_fits (undemanding : deployment.IsUndemanding)
    (visible : ∀ target ∈ pool, target.spec.visible = true) :
    pool.filter deployment.fits = pool :=
  List.filter_eq_self.2 fun target present => undemanding.fits_iff.2 (visible target present)

theorem mem_of_bestFitting? (isBest : deployment.bestFitting? pool = some best) : best ∈ pool :=
  List.mem_of_mem_filter (List.mem_mergeSort.1 (List.mem_of_mem_head? isBest))

/-- No target of the pool scores higher than the one that is chosen. -/
theorem IsUndemanding.score_le_of_bestFitting? (undemanding : deployment.IsUndemanding)
    (visible : ∀ target ∈ pool, target.spec.visible = true)
    (isBest : deployment.bestFitting? pool = some best) {other : Target} (present : other ∈ pool) :
    other.score ≤ best.score := by
  rw [bestFitting?, undemanding.filter_fits visible] at isBest
  by_contra higher
  exact not_beats_of_head?_ranked isBest present (.inl (by omega))

theorem IsUndemanding.bestFitting?_isSome (undemanding : deployment.IsUndemanding)
    (visible : ∀ target ∈ pool, target.spec.visible = true) (inhabited : pool ≠ []) :
    ∃ best, deployment.bestFitting? pool = some best := by
  rw [← Option.isSome_iff_exists, bestFitting?, undemanding.filter_fits visible, List.isSome_head?]
  simpa [ranked, ← List.length_eq_zero_iff] using inhabited

/-- What beats all others is chosen. -/
theorem IsUndemanding.bestFitting?_eq_some (undemanding : deployment.IsUndemanding)
    (visible : ∀ target ∈ pool, target.spec.visible = true) (present : best ∈ pool)
    (beats : ∀ other ∈ pool, other ≠ best → best.Beats other) :
    deployment.bestFitting? pool = some best := by
  obtain ⟨chosen, isChosen⟩ :=
    undemanding.bestFitting?_isSome visible (List.ne_nil_of_mem present)
  have chosenMem := mem_of_bestFitting? isChosen
  by_cases same : chosen = best
  · rw [isChosen, same]
  · have unbeaten := isChosen
    rw [bestFitting?, undemanding.filter_fits visible] at unbeaten
    exact absurd (beats chosen chosenMem same) (not_beats_of_head?_ranked unbeaten present)

end Deployment

/-- A deployment that is to be placed, and the key of the instance that is made for it. -/
structure Placement where
  deployment : Deployment
  instanceKey : ObjectKey

/-- A pool of targets, and the keys of those that were chosen so far, the latest first. -/
structure Loading where
  pool : List Target
  chosen : List ObjectKey := []

namespace Loading

/-- Append the instance to the list of the best fitting target of the pool. -/
def place (loading : Loading) (placement : Placement) : Loading :=
  match placement.deployment.bestFitting? loading.pool with
  | none => loading
  | some best =>
      { pool := loading.pool.map fun target =>
          if target.key = best.key then target.assigning placement.instanceKey else target
        chosen := best.key :: loading.chosen }

def placeAll (loading : Loading) (placements : List Placement) : Loading :=
  placements.foldl place loading

/-- The targets have different keys, are visible, and none has a negative priority. -/
structure IsOpen (loading : Loading) : Prop where
  distinct : (loading.pool.map Object.key).Nodup
  visible : ∀ target ∈ loading.pool, target.spec.visible = true
  nonneg : ∀ target ∈ loading.pool, 0 ≤ target.spec.priority

/-- Whatever was chosen once was worth, at the last time, as much as any target is now. -/
def IsSpread (loading : Loading) : Prop :=
  ∀ first ∈ loading.pool, first.key ∈ loading.chosen → 0 < first.hostedCount ∧
    ∀ second ∈ loading.pool, second.score ≤ first.lastScore

variable {loading : Loading} {placement : Placement} {best : Target}

theorem place_of_best (isBest : placement.deployment.bestFitting? loading.pool = some best) :
    loading.place placement =
      { pool := loading.pool.map fun target =>
          if target.key = best.key then target.assigning placement.instanceKey else target
        chosen := best.key :: loading.chosen } := by
  rw [place, isBest]

/-- A target after a placement is one from before it, with the instance if it was chosen. -/
theorem mem_pool_place (isOpen : loading.IsOpen)
    (isBest : placement.deployment.bestFitting? loading.pool = some best) {target : Target} :
    target ∈ (loading.place placement).pool ↔
      target = best.assigning placement.instanceKey ∨
        target ∈ loading.pool ∧ target.key ≠ best.key := by
  have bestMem := Deployment.mem_of_bestFitting? isBest
  rw [place_of_best isBest, List.mem_map]
  constructor
  · rintro ⟨before, present, rfl⟩
    by_cases isChosen : before.key = best.key
    · rw [if_pos isChosen, Deployment.eq_of_key_eq isOpen.distinct present bestMem isChosen]
      exact .inl rfl
    · rw [if_neg isChosen]
      exact .inr ⟨present, isChosen⟩
  · rintro (rfl | ⟨present, notChosen⟩)
    · exact ⟨best, bestMem, if_pos rfl⟩
    · exact ⟨target, present, if_neg notChosen⟩

theorem map_key_place (loading : Loading) (placement : Placement) :
    (loading.place placement).pool.map Object.key = loading.pool.map Object.key := by
  cases isBest : placement.deployment.bestFitting? loading.pool with
  | none => rw [place, isBest]
  | some best =>
      rw [place_of_best isBest, List.map_map]
      apply List.map_congr_left
      intro target _
      by_cases isChosen : target.key = best.key <;> simp [isChosen]

theorem IsOpen.place (isOpen : loading.IsOpen) (placement : Placement) :
    (loading.place placement).IsOpen := by
  cases isBest : placement.deployment.bestFitting? loading.pool with
  | none =>
      rw [Loading.place, isBest]
      exact isOpen
  | some best =>
      have bestMem := Deployment.mem_of_bestFitting? isBest
      refine ⟨by rw [map_key_place]; exact isOpen.distinct, ?_, ?_⟩
      · intro target present
        rcases (mem_pool_place isOpen isBest).1 present with rfl | ⟨present', -⟩
        · exact isOpen.visible best bestMem
        · exact isOpen.visible target present'
      · intro target present
        rcases (mem_pool_place isOpen isBest).1 present with rfl | ⟨present', -⟩
        · exact isOpen.nonneg best bestMem
        · exact isOpen.nonneg target present'

/-- No target scores higher after a placement than the chosen one did before. -/
theorem IsOpen.score_le_best (isOpen : loading.IsOpen)
    (undemanding : placement.deployment.IsUndemanding)
    (isBest : placement.deployment.bestFitting? loading.pool = some best) {target : Target}
    (present : target ∈ (loading.place placement).pool) : target.score ≤ best.score := by
  rcases (mem_pool_place isOpen isBest).1 present with rfl | ⟨present', -⟩
  · apply Target.score_assigning_le
    exact isOpen.nonneg best (Deployment.mem_of_bestFitting? isBest)
  · exact undemanding.score_le_of_bestFitting? isOpen.visible isBest present'

/-- Scores only fall, so what held of the targets chosen before holds on. -/
theorem IsSpread.score_le_of_mem_place (spread : loading.IsSpread) (isOpen : loading.IsOpen)
    (isBest : placement.deployment.bestFitting? loading.pool = some best)
    {first second : Target} (firstMem : first ∈ loading.pool)
    (isChosen : first.key ∈ loading.chosen)
    (secondMem : second ∈ (loading.place placement).pool) : second.score ≤ first.lastScore := by
  obtain ⟨-, bounds⟩ := spread first firstMem isChosen
  rcases (mem_pool_place isOpen isBest).1 secondMem with rfl | ⟨secondMem', -⟩
  · have bestMem := Deployment.mem_of_bestFitting? isBest
    calc (best.assigning placement.instanceKey).score
        ≤ best.score := Target.score_assigning_le (isOpen.nonneg best bestMem) _
      _ ≤ first.lastScore := bounds best bestMem
  · exact bounds second secondMem'

theorem IsSpread.place (spread : loading.IsSpread) (isOpen : loading.IsOpen)
    (undemanding : placement.deployment.IsUndemanding) :
    (loading.place placement).IsSpread := by
  cases isBest : placement.deployment.bestFitting? loading.pool with
  | none =>
      rw [Loading.place, isBest]
      exact spread
  | some best =>
      intro first firstMem isChosen
      rcases (mem_pool_place isOpen isBest).1 firstMem with rfl | ⟨firstMem', notBest⟩
      · -- the target that is chosen now: its last score is the one that it was chosen for
        refine ⟨by simp, fun second secondMem => ?_⟩
        rw [Target.lastScore_assigning]
        exact isOpen.score_le_best undemanding isBest secondMem
      · have chosenBefore : first.key ∈ loading.chosen := by
          rw [place_of_best isBest] at isChosen
          exact (List.mem_cons.1 isChosen).resolve_left notBest
        refine ⟨(spread first firstMem' chosenBefore).1, fun second secondMem => ?_⟩
        exact spread.score_le_of_mem_place isOpen isBest firstMem' chosenBefore secondMem

/-- The pool stays open and spread along any placements. -/
theorem isSpread_placeAll (placements : List Placement) (isOpen : loading.IsOpen)
    (spread : loading.IsSpread)
    (undemanding : ∀ placement ∈ placements, placement.deployment.IsUndemanding) :
    (loading.placeAll placements).IsOpen ∧ (loading.placeAll placements).IsSpread := by
  induction placements generalizing loading with
  | nil => exact ⟨isOpen, spread⟩
  | cons placement rest ih =>
      have free := undemanding placement (List.mem_cons_self ..)
      exact ih (isOpen.place placement) (spread.place isOpen free)
        fun later present => undemanding later (.tail _ present)

/-- The load of a target grows by one whenever it is chosen. -/
theorem exists_mem_place (isOpen : loading.IsOpen) (placement : Placement) {target : Target}
    (present : target ∈ loading.pool) :
    ∃ now ∈ (loading.place placement).pool, now.key = target.key ∧ now.spec = target.spec ∧
      now.hostedCount + loading.chosen.count target.key =
        target.hostedCount + (loading.place placement).chosen.count target.key := by
  cases isBest : placement.deployment.bestFitting? loading.pool with
  | none =>
      rw [place, isBest]
      exact ⟨target, present, rfl, rfl, rfl⟩
  | some best =>
      by_cases isChosen : target.key = best.key
      · obtain rfl := Deployment.eq_of_key_eq isOpen.distinct present
          (Deployment.mem_of_bestFitting? isBest) isChosen
        refine ⟨target.assigning placement.instanceKey, (mem_pool_place isOpen isBest).2 (.inl rfl),
          rfl, rfl, ?_⟩
        rw [place_of_best isBest, List.count_cons_self, Target.hostedCount_assigning]
        omega
      · refine ⟨target, (mem_pool_place isOpen isBest).2 (.inr ⟨present, isChosen⟩), rfl, rfl, ?_⟩
        rw [place_of_best isBest, List.count_cons_of_ne (Ne.symm isChosen)]

theorem exists_mem_placeAll (placements : List Placement) (isOpen : loading.IsOpen)
    {target : Target} (present : target ∈ loading.pool) :
    ∃ now ∈ (loading.placeAll placements).pool, now.key = target.key ∧ now.spec = target.spec ∧
      now.hostedCount + loading.chosen.count target.key =
        target.hostedCount + (loading.placeAll placements).chosen.count target.key := by
  induction placements generalizing loading target with
  | nil => exact ⟨target, present, rfl, rfl, rfl⟩
  | cons placement rest ih =>
      obtain ⟨between, betweenMem, sameKey, sameSpec, grown⟩ :=
        exists_mem_place isOpen placement present
      obtain ⟨now, nowMem, sameKey', sameSpec', grown'⟩ :=
        ih (isOpen.place placement) betweenMem
      rw [sameKey] at grown'
      refine ⟨now, nowMem, sameKey'.trans sameKey, sameSpec'.trans sameSpec, ?_⟩
      rw [placeAll, List.foldl_cons, ← placeAll]
      omega

theorem length_chosen_placeAll (placements : List Placement) (isOpen : loading.IsOpen)
    (inhabited : loading.pool ≠ [])
    (undemanding : ∀ placement ∈ placements, placement.deployment.IsUndemanding) :
    (loading.placeAll placements).chosen.length = loading.chosen.length + placements.length := by
  induction placements generalizing loading with
  | nil => rfl
  | cons placement rest ih =>
      have free := undemanding placement (List.mem_cons_self ..)
      obtain ⟨best, isBest⟩ := free.bestFitting?_isSome isOpen.visible inhabited
      have stillInhabited : (loading.place placement).pool ≠ [] := by
        simpa [place_of_best isBest] using inhabited
      have served := ih (isOpen.place placement) stillInhabited
        fun later present => undemanding later (.tail _ present)
      rw [placeAll, List.foldl_cons, ← placeAll, served, place_of_best isBest]
      simp only [List.length_cons]
      omega

end Loading

/-- After any number of placements of undemanding deployments, a target that was chosen has, with
its latest instance left out, at least the score that any target has now.  Each target has gained
as many instances as it was chosen times, each placement has found a target, and at none of them
another one scored higher than the chosen one. -/
theorem placements_spread_load (pool : List Target) (distinct : (pool.map Object.key).Nodup)
    (visible : ∀ target ∈ pool, target.spec.visible = true)
    (nonneg : ∀ target ∈ pool, 0 ≤ target.spec.priority) (placements : List Placement)
    (undemanding : ∀ placement ∈ placements, placement.deployment.IsUndemanding)
    (made : List Placement) (isMade : made <+: placements) :
    let loading := Loading.placeAll { pool := pool } made
    (∀ first ∈ loading.pool, first.key ∈ loading.chosen → 0 < first.hostedCount ∧
      ∀ second ∈ loading.pool,
        second.spec.priority.tdiv (second.hostedCount + 1) ≤
          first.spec.priority.tdiv first.hostedCount) ∧
    (∀ target ∈ pool, ∃ now ∈ loading.pool, now.key = target.key ∧ now.spec = target.spec ∧
      now.hostedCount = target.hostedCount + loading.chosen.count target.key) ∧
    (pool ≠ [] → loading.chosen.length = made.length) ∧
    ∀ next best, made ++ [next] <+: placements →
      next.deployment.bestFitting? loading.pool = some best →
        ∀ other ∈ loading.pool, other.score ≤ best.score := by
  intro loading
  have isOpen : Loading.IsOpen { pool := pool } := ⟨distinct, visible, nonneg⟩
  have spread : Loading.IsSpread { pool := pool } := fun _ _ isChosen => absurd isChosen (by simp)
  have free : ∀ placement ∈ made, placement.deployment.IsUndemanding :=
    fun placement present => undemanding placement (isMade.subset present)
  obtain ⟨openAfter, spreadAfter⟩ := Loading.isSpread_placeAll made isOpen spread free
  refine ⟨spreadAfter, ?_, ?_, ?_⟩
  · intro target present
    simpa using Loading.exists_mem_placeAll made isOpen present
  · intro inhabited
    simpa using Loading.length_chosen_placeAll made isOpen inhabited free
  · intro next best isNext isBest other present
    have nextFree := undemanding next (isNext.subset (by simp))
    exact nextFree.score_le_of_bestFitting? openAfter.visible isBest present

/-- A placement for which no region and no labels are asked. -/
def undemandingPlacement (name : String) : Placement where
  deployment :=
    { metadata := { name := name, scope := "tenant01" }
      spec := { tenantId := "tenant01", purpose := "demo" }
      status := {} }
  instanceKey := ⟨"tenant01", name⟩

theorem isUndemanding_undemandingPlacement (name : String) :
    (undemandingPlacement name).deployment.IsUndemanding :=
  ⟨rfl, rfl⟩

/-- The idle one of two targets of equal priority is chosen first, then the other by its key. -/
theorem load_spread_after_two_placements :
    let west := Deployment.europeanTarget "west" 6 []
    let east := Deployment.europeanTarget "east" 6 [⟨"tenant02", "db-00001"⟩]
    let placements := ["web", "shop", "mail"].map undemandingPlacement
    let loading := Loading.placeAll { pool := [west, east] } (placements.take 2)
    loading.chosen = [east.key, west.key] ∧
      ∀ first ∈ loading.pool, first.key = east.key →
        ∀ second ∈ loading.pool,
          second.spec.priority.tdiv (second.hostedCount + 1) ≤
            first.spec.priority.tdiv first.hostedCount := by
  intro west east placements loading
  let laden := west.assigning ⟨"tenant01", "web"⟩
  have free := isUndemanding_undemandingPlacement
  have firstBest : (undemandingPlacement "web").deployment.bestFitting? [west, east] =
      some west := by
    refine (free "web").bestFitting?_eq_some (by decide) (by decide) fun other present _ => ?_
    obtain rfl | rfl := List.mem_pair.1 present
    · contradiction
    · exact .inl (by decide)
  have firstPlaced : Loading.place { pool := [west, east] } (undemandingPlacement "web") =
      { pool := [laden, east], chosen := [west.key] } := by
    rw [Loading.place_of_best firstBest]
    rfl
  have secondBest : (undemandingPlacement "shop").deployment.bestFitting? [laden, east] =
      some east := by
    refine (free "shop").bestFitting?_eq_some (by decide) (by decide) fun other present _ => ?_
    obtain rfl | rfl := List.mem_pair.1 present
    · exact .inr ⟨by decide, by decide⟩
    · contradiction
  have isChosen : loading.chosen = [east.key, west.key] := by
    change (((Loading.place { pool := [west, east] } (undemandingPlacement "web")).place
      (undemandingPlacement "shop")).chosen) = _
    rw [firstPlaced, Loading.place_of_best secondBest]
  obtain ⟨bounds, -⟩ := placements_spread_load [west, east] (by decide) (by decide) (by decide)
    placements (by simpa [placements] using ⟨free _, free _, free _⟩) (placements.take 2)
    (List.take_prefix 2 placements)
  refine ⟨isChosen, fun first firstMem isEast => ?_⟩
  exact (bounds first firstMem (by rw [isChosen, isEast]; simp)).2

end TenantFleet
