import Mathlib.Data.List.Nodup
import TenantFleet.Proofs.Placement.Search

/-!
# The chosen target is the best eligible one

Who is eligible for a deployment can be said without the order in which rules
and targets are listed: a target that a leading rule names, or that is not
restricted when no rule applies, and that can take the deployment.  Of the
eligible targets the one is chosen that beats all others by its score or, where
scores are equal, by its key.  So the choice does not depend on any order.
-/

namespace TenantFleet

namespace ObjectKey

variable {first second third : ObjectKey}

theorem before_iff : first.before second = true ↔
    first.scope < second.scope ∨ first.scope = second.scope ∧ first.name < second.name := by
  simp [before]

theorem before_irrefl (key : ObjectKey) : key.before key = false := by
  refine Bool.eq_false_iff.2 fun isBefore => ?_
  rcases before_iff.1 isBefore with less | ⟨-, less⟩
  · exact String.lt_irrefl key.scope less
  · exact String.lt_irrefl key.name less

theorem before_trans (firstBefore : first.before second = true)
    (secondBefore : second.before third = true) : first.before third = true := by
  rw [before_iff] at firstBefore secondBefore ⊢
  rcases firstBefore with scopeBefore | ⟨sameScope, nameBefore⟩ <;>
    rcases secondBefore with scopeBefore' | ⟨sameScope', nameBefore'⟩
  · exact .inl (String.lt_trans scopeBefore scopeBefore')
  · exact .inl (sameScope' ▸ scopeBefore)
  · exact .inl (sameScope ▸ scopeBefore')
  · exact .inr ⟨sameScope.trans sameScope', String.lt_trans nameBefore nameBefore'⟩

theorem before_trichotomy (first second : ObjectKey) :
    first.before second = true ∨ first = second ∨ second.before first = true := by
  have trichotomy (left right : String) : left < right ∨ left = right ∨ right < left := by
    by_cases before : left < right
    · exact .inl before
    · by_cases behind : right < left
      · exact .inr (.inr behind)
      · exact .inr (.inl (String.le_antisymm (String.not_lt.1 behind) (String.not_lt.1 before)))
  simp only [before_iff]
  rcases trichotomy first.scope second.scope with scopeBefore | sameScope | scopeBehind
  · exact .inl (.inl scopeBefore)
  · rcases trichotomy first.name second.name with nameBefore | sameName | nameBehind
    · exact .inl (.inr ⟨sameScope, nameBefore⟩)
    · refine .inr (.inl ?_)
      rw [ObjectKey.mk.injEq]
      exact ⟨sameScope, sameName⟩
    · exact .inr (.inr (.inr ⟨sameScope.symm, nameBehind⟩))
  · exact .inr (.inr (.inl scopeBehind))

theorem before_asymm (firstBefore : first.before second = true) :
    second.before first = false := by
  by_contra secondBefore
  have around := before_trans firstBefore (by simpa using secondBefore)
  rw [before_irrefl] at around
  contradiction

end ObjectKey

namespace Target

/-- The priority for each of the instances that the target would host with one more, rounded
toward zero. -/
def score (target : Target) : Int :=
  target.spec.priority.tdiv (target.status.assigned.length + 1)

/-- The first target has the greater score or, at equal scores, the key that stands before. -/
def Beats (first second : Target) : Prop :=
  second.score < first.score ∨ first.score = second.score ∧ first.key.before second.key = true

variable {first second third : Target}

theorem Beats.trans (firstBeats : first.Beats second) (secondBeats : second.Beats third) :
    first.Beats third := by
  unfold Beats at firstBeats secondBeats ⊢
  rcases firstBeats with greater | ⟨same, before⟩ <;>
    rcases secondBeats with greater' | ⟨same', before'⟩
  · exact .inl (by omega)
  · exact .inl (by omega)
  · exact .inl (by omega)
  · exact .inr ⟨same.trans same', ObjectKey.before_trans before before'⟩

theorem Beats.asymm (firstBeats : first.Beats second) : ¬ second.Beats first := by
  intro secondBeats
  unfold Beats at firstBeats secondBeats
  rcases firstBeats with greater | ⟨same, before⟩ <;>
    rcases secondBeats with greater' | ⟨same', before'⟩
  · omega
  · omega
  · omega
  · rw [ObjectKey.before_asymm before] at before'
    contradiction

/-- Of two targets with different keys one beats the other. -/
theorem beats_or_beats (different : first.key ≠ second.key) :
    first.Beats second ∨ second.Beats first := by
  unfold Beats
  rcases Int.lt_trichotomy first.score second.score with less | same | greater
  · exact .inr (.inl less)
  · rcases ObjectKey.before_trichotomy first.key second.key with before | equal | behind
    · exact .inl (.inr ⟨same, before⟩)
    · exact absurd equal different
    · exact .inr (.inr ⟨same.symm, behind⟩)
  · exact .inl (.inl greater)

end Target

namespace TargetStanding

variable {first second third : Target}

theorem ranksBefore_iff :
    (TargetStanding.of first).ranksBefore (TargetStanding.of second) = true ↔
      ¬ second.Beats first := by
  change (decide (second.score < first.score) ||
    (decide (first.score = second.score) && !second.key.before first.key)) = true ↔ _
  unfold Target.Beats
  cases second.key.before first.key <;> simp <;> omega

theorem ranksBefore_total (first second : Target) :
    ((TargetStanding.of first).ranksBefore (TargetStanding.of second) ||
      (TargetStanding.of second).ranksBefore (TargetStanding.of first)) = true := by
  rw [Bool.or_eq_true, ranksBefore_iff, ranksBefore_iff]
  by_cases beaten : second.Beats first
  · exact .inr beaten.asymm
  · exact .inl beaten

theorem ranksBefore_trans
    (firstBefore : (TargetStanding.of first).ranksBefore (TargetStanding.of second) = true)
    (secondBefore : (TargetStanding.of second).ranksBefore (TargetStanding.of third) = true) :
    (TargetStanding.of first).ranksBefore (TargetStanding.of third) = true := by
  rw [ranksBefore_iff] at firstBefore secondBefore ⊢
  intro thirdBeats
  by_cases sameKey : second.key = third.key
  · -- targets of one key differ by their scores at most
    unfold Target.Beats at firstBefore secondBefore thirdBeats
    rw [sameKey] at firstBefore secondBefore
    simp only [ObjectKey.before_irrefl, Bool.false_eq_true, and_false, or_false] at secondBefore
    have noLess : third.score ≤ second.score := by omega
    rcases thirdBeats with less | ⟨same, before⟩
    · exact firstBefore (.inl (by omega))
    · by_cases less : first.score < second.score
      · exact firstBefore (.inl less)
      · exact firstBefore (.inr ⟨by omega, before⟩)
  · rcases Target.beats_or_beats sameKey with secondBeats | thirdBeatsSecond
    · exact firstBefore (secondBeats.trans thirdBeats)
    · exact secondBefore thirdBeatsSecond

end TargetStanding

/-- The first of the ranked targets is one that no other beats. -/
theorem not_beats_of_head?_ranked {targets : List Target} {best other : Target}
    (isBest : (ranked targets).head? = some best) (otherMem : other ∈ targets) :
    ¬ other.Beats best := by
  obtain ⟨rest, isRanked⟩ := List.head?_eq_some_iff.1 isBest
  have sorted : (ranked targets).Pairwise fun first second =>
      (TargetStanding.of first).ranksBefore (TargetStanding.of second) = true := by
    apply List.pairwise_mergeSort
    · intro first second third
      exact TargetStanding.ranksBefore_trans
    · exact TargetStanding.ranksBefore_total
  have otherRanked : other ∈ ranked targets := List.mem_mergeSort.2 otherMem
  rw [isRanked] at sorted otherRanked
  rcases List.mem_cons.1 otherRanked with rfl | inRest
  · intro beaten
    exact beaten.asymm beaten
  · exact TargetStanding.ranksBefore_iff.1 (List.rel_of_pairwise_cons sorted inRest)

namespace Selector

variable {first second : Deployment}

mutual

/-- A selector looks at the spec and the labels only. -/
theorem holds_congr (sameSpec : first.spec = second.spec)
    (sameLabels : first.metadata.labels = second.metadata.labels) :
    (selector : Selector) → holds first selector = holds second selector
  | .matchTenant id => by rw [holds, holds, sameSpec]
  | .matchLabel name value => by
      rw [holds, holds, Metadata.hasLabel, Metadata.hasLabel, Metadata.label?, Metadata.label?,
        sameLabels]
  | .allOf children => allHold_congr sameSpec sameLabels children
  | .anyOf children => anyHolds_congr sameSpec sameLabels children
  | .negation child => congrArg (! ·) (holds_congr sameSpec sameLabels child)

theorem allHold_congr (sameSpec : first.spec = second.spec)
    (sameLabels : first.metadata.labels = second.metadata.labels) :
    (children : List Selector) → allHold first children = allHold second children
  | [] => rfl
  | child :: rest => congrArg₂ (· && ·) (holds_congr sameSpec sameLabels child)
      (allHold_congr sameSpec sameLabels rest)

theorem anyHolds_congr (sameSpec : first.spec = second.spec)
    (sameLabels : first.metadata.labels = second.metadata.labels) :
    (children : List Selector) → anyHolds first children = anyHolds second children
  | [] => rfl
  | child :: rest => congrArg₂ (· || ·) (holds_congr sameSpec sameLabels child)
      (anyHolds_congr sameSpec sameLabels rest)

end

end Selector

theorem SchedulingRule.appliesTo_congr (rule : SchedulingRule) {first second : Deployment}
    (sameSpec : first.spec = second.spec)
    (sameLabels : first.metadata.labels = second.metadata.labels) :
    rule.appliesTo first = rule.appliesTo second := by
  have sameHolds : Selector.holds first = Selector.holds second :=
    funext (Selector.holds_congr sameSpec sameLabels)
  rw [appliesTo, appliesTo, sameHolds]

namespace Deployment

variable {deployment : Deployment} {rules rules' : List SchedulingRule}
  {pool pool' : List Target} {target : Target}

/-- The target is in the pool, and a leading rule names it or, when no rule applies, it is not
restricted. -/
def IsCandidate (deployment : Deployment) (rules : List SchedulingRule) (pool : List Target)
    (target : Target) : Prop :=
  target ∈ pool ∧
    ((∃ rule, deployment.IsLed rules rule ∧ target.key ∈ rule.targets) ∨
      (∀ rule ∈ rules, rule.appliesTo deployment = false) ∧ target.spec.restricted = false)

/-- The target is a candidate that can take the deployment: it is visible, in the region that the
deployment asks for, and carries every label that it asks for. -/
structure IsEligible (deployment : Deployment) (rules : List SchedulingRule) (pool : List Target)
    (target : Target) : Prop where
  candidate : deployment.IsCandidate rules pool target
  visible : target.spec.visible = true
  inRegion : ∀ region, deployment.spec.region = some region → target.spec.region = some region
  labelled : ∀ name value, (name, value) ∈ deployment.spec.targetLabels.entries →
    target.metadata.labels.value? name = some value

/-- Of the eligible targets, the target is the one that beats all others. -/
def IsBestEligible (deployment : Deployment) (rules : List SchedulingRule) (pool : List Target)
    (target : Target) : Prop :=
  deployment.IsEligible rules pool target ∧
    ∀ other, deployment.IsEligible rules pool other → other ≠ target → target.Beats other

theorem fits_iff : deployment.fits target = true ↔ target.spec.visible = true ∧
    (∀ region, deployment.spec.region = some region → target.spec.region = some region) ∧
      ∀ name value, (name, value) ∈ deployment.spec.targetLabels.entries →
        target.metadata.labels.value? name = some value := by
  unfold fits
  rw [Bool.and_eq_true, Bool.and_eq_true, List.all_eq_true, and_assoc]
  refine and_congr_right fun _ => and_congr ?_ ?_
  · cases deployment.spec.region <;> simp
  · simp [Metadata.hasLabel, Metadata.label?]

theorem eq_of_key_eq (distinct : (pool.map Object.key).Nodup) {other : Target}
    (targetMem : target ∈ pool) (otherMem : other ∈ pool) (sameKey : target.key = other.key) :
    target = other :=
  List.inj_on_of_nodup_map distinct targetMem otherMem sameKey

/-- In a pool of different keys, a key leads to its target. -/
theorem find?_key_eq_some_iff (distinct : (pool.map Object.key).Nodup) {key : ObjectKey} :
    pool.find? (fun other => other.key == key) = some target ↔
      target ∈ pool ∧ target.key = key := by
  constructor
  · intro found
    exact ⟨List.mem_of_find?_eq_some found, by simpa using List.find?_some found⟩
  · rintro ⟨targetMem, rfl⟩
    cases found : pool.find? fun other => other.key == target.key with
    | none =>
        have absent := List.find?_eq_none.1 found target targetMem
        simp at absent
    | some other =>
        have sameKey : other.key = target.key := by simpa using List.find?_some found
        rw [eq_of_key_eq distinct (List.mem_of_find?_eq_some found) targetMem sameKey]

/-- The candidates that the search leads to are those that the rules are said to put forward. -/
theorem mem_candidates (distinct : (pool.map Object.key).Nodup) :
    target ∈ deployment.candidates rules pool ↔ deployment.IsCandidate rules pool target := by
  have seen := RuleSearch.hasSeen_searchRules deployment rules
  unfold candidates IsCandidate
  generalize deployment.searchRules rules = search at seen ⊢
  obtain ⟨_ | highest, named⟩ := search
  case none =>
      have unruled := seen.priority?_eq_none_iff.1 rfl
      have noneLeads : ¬ ∃ rule, deployment.IsLed rules rule ∧ target.key ∈ rule.targets := by
        rintro ⟨rule, ⟨ruleMem, applies, -⟩, -⟩
        rw [unruled rule ruleMem] at applies
        contradiction
      have nobodyApplies : (∀ rule ∈ rules, rule.appliesTo deployment = false) ↔ True :=
        iff_true_intro unruled
      simp [noneLeads, nobodyApplies]
  case some =>
      have isRuled : ¬ ∀ rule ∈ rules, rule.appliesTo deployment = false := fun unruled =>
        Option.some_ne_none highest (seen.priority?_eq_none_iff.2 unruled)
      simp only [List.mem_filterMap, List.mem_eraseDups, find?_key_eq_some_iff distinct, isRuled,
        false_and, or_false]
      rw [← seen.mem_targets_iff]
      constructor
      · rintro ⟨key, keyMem, targetMem, rfl⟩
        exact ⟨targetMem, keyMem⟩
      · rintro ⟨targetMem, keyMem⟩
        exact ⟨target.key, keyMem, targetMem, rfl⟩

theorem mem_filter_fits (distinct : (pool.map Object.key).Nodup) :
    target ∈ (deployment.candidates rules pool).filter deployment.fits ↔
      deployment.IsEligible rules pool target := by
  rw [List.mem_filter, mem_candidates distinct, fits_iff]
  constructor
  · rintro ⟨candidate, visible, inRegion, labelled⟩
    exact ⟨candidate, visible, inRegion, labelled⟩
  · intro eligible
    exact ⟨eligible.candidate, eligible.visible, eligible.inRegion, eligible.labelled⟩

theorem chosenTarget?_eq_none_iff (distinct : (pool.map Object.key).Nodup) :
    deployment.chosenTarget? rules pool = none ↔
      ∀ target, ¬ deployment.IsEligible rules pool target := by
  unfold chosenTarget? bestFitting?
  rw [List.head?_eq_none_iff, List.eq_nil_iff_forall_not_mem]
  simp only [ranked, List.mem_mergeSort, mem_filter_fits distinct]

/-- What is chosen beats all others that are eligible. -/
theorem isBestEligible_of_chosenTarget? (distinct : (pool.map Object.key).Nodup)
    (chosen : deployment.chosenTarget? rules pool = some target) :
    deployment.IsBestEligible rules pool target := by
  have isRanked : target ∈ ranked ((deployment.candidates rules pool).filter deployment.fits) :=
    List.mem_of_mem_head? chosen
  have eligible := (mem_filter_fits distinct).1 (List.mem_mergeSort.1 isRanked)
  refine ⟨eligible, fun other otherEligible different => ?_⟩
  have otherKey : other.key ≠ target.key := fun sameKey =>
    different (eq_of_key_eq distinct otherEligible.candidate.1 eligible.candidate.1 sameKey)
  have unbeaten := not_beats_of_head?_ranked chosen ((mem_filter_fits distinct).2 otherEligible)
  exact (Target.beats_or_beats otherKey).resolve_left unbeaten

theorem chosenTarget?_eq_some_iff (distinct : (pool.map Object.key).Nodup) :
    deployment.chosenTarget? rules pool = some target ↔
      deployment.IsBestEligible rules pool target := by
  refine ⟨isBestEligible_of_chosenTarget? distinct, fun best => ?_⟩
  cases chosen : deployment.chosenTarget? rules pool with
  | none => exact absurd best.1 ((chosenTarget?_eq_none_iff distinct).1 chosen target)
  | some other =>
      have otherBest := isBestEligible_of_chosenTarget? distinct chosen
      by_cases same : other = target
      · rw [same]
      · have beaten := best.2 other otherBest.1 same
        exact absurd (otherBest.2 target best.1 (Ne.symm same)) beaten.asymm

/-- Eligibility turns on nothing but specs and labels, and the key of the target. -/
theorem IsEligible.congr {other : Deployment} {otherTarget : Target}
    (eligible : deployment.IsEligible rules pool target)
    (sameSpec : other.spec = deployment.spec)
    (sameLabels : other.metadata.labels = deployment.metadata.labels)
    (present : otherTarget ∈ pool') (sameKey : otherTarget.key = target.key)
    (sameTargetSpec : otherTarget.spec = target.spec)
    (sameTargetLabels : otherTarget.metadata.labels = target.metadata.labels) :
    other.IsEligible rules pool' otherTarget := by
  have applies (rule : SchedulingRule) : rule.appliesTo other = rule.appliesTo deployment :=
    rule.appliesTo_congr sameSpec sameLabels
  refine ⟨⟨present, ?_⟩, ?_, ?_, ?_⟩
  · simp only [IsLed, applies, sameKey, sameTargetSpec]
    exact eligible.candidate.2
  · rw [sameTargetSpec]
    exact eligible.visible
  · rw [sameSpec, sameTargetSpec]
    exact eligible.inRegion
  · rw [sameSpec, sameTargetLabels]
    exact eligible.labelled

theorem isEligible_of_perm (sameRules : rules.Perm rules') (samePool : pool.Perm pool')
    (eligible : deployment.IsEligible rules pool target) :
    deployment.IsEligible rules' pool' target := by
  refine ⟨⟨samePool.mem_iff.1 eligible.candidate.1, ?_⟩, eligible.visible, eligible.inRegion,
    eligible.labelled⟩
  rcases eligible.candidate.2 with ⟨rule, ⟨ruleMem, applies, leads⟩, named⟩ | ⟨unruled, free⟩
  · refine .inl ⟨rule, ⟨sameRules.mem_iff.1 ruleMem, applies, fun other otherMem => ?_⟩, named⟩
    exact leads other (sameRules.mem_iff.2 otherMem)
  · exact .inr ⟨fun rule ruleMem => unruled rule (sameRules.mem_iff.2 ruleMem), free⟩

theorem isBestEligible_of_perm (sameRules : rules.Perm rules') (samePool : pool.Perm pool')
    (best : deployment.IsBestEligible rules pool target) :
    deployment.IsBestEligible rules' pool' target :=
  ⟨isEligible_of_perm sameRules samePool best.1, fun other otherEligible =>
    best.2 other (isEligible_of_perm sameRules.symm samePool.symm otherEligible)⟩

/-- The search through the rules puts forward just the candidates.  No target is chosen exactly
when none is eligible, and else the best one is; the order of the pool and that of the rules never
show. -/
theorem chosen_target_is_best_eligible (deployment : Deployment) (rules : List SchedulingRule)
    (pool : List Target) (distinct : (pool.map Object.key).Nodup) :
    (∀ target, target ∈ deployment.candidates rules pool ↔
      deployment.IsCandidate rules pool target) ∧
    (deployment.chosenTarget? rules pool = none ↔
      ∀ target, ¬ deployment.IsEligible rules pool target) ∧
    (∀ target, deployment.chosenTarget? rules pool = some target ↔
      deployment.IsBestEligible rules pool target) ∧
    ∀ rules' pool', rules.Perm rules' → pool.Perm pool' →
      deployment.chosenTarget? rules' pool' = deployment.chosenTarget? rules pool := by
  refine ⟨fun target => mem_candidates distinct, chosenTarget?_eq_none_iff distinct,
    fun target => chosenTarget?_eq_some_iff distinct, fun rules' pool' sameRules samePool => ?_⟩
  have distinct' : (pool'.map Object.key).Nodup := (samePool.map Object.key).nodup_iff.1 distinct
  apply Option.ext
  intro target
  rw [chosenTarget?_eq_some_iff distinct, chosenTarget?_eq_some_iff distinct']
  exact ⟨isBestEligible_of_perm sameRules.symm samePool.symm,
    isBestEligible_of_perm sameRules samePool⟩

/-- A visible target in the region `eu`. -/
def europeanTarget (name : String) (priority : Int) (assigned : List ObjectKey) : Target where
  metadata := { name := name, scope := "fleet" }
  spec := { priority := priority, visible := true, restricted := true, region := some "eu" }
  status := { assigned := assigned }

def europeanDeployment : Deployment where
  metadata := { name := "web", scope := "tenant01" }
  spec := { tenantId := "tenant01", purpose := "demo", region := some "eu" }
  status := {}

/-- Two targets of one score, of which the rule of the higher priority names both. -/
theorem best_eligible_at_equal_scores :
    let west := europeanTarget "west" 3 []
    let east := europeanTarget "east" 7 [⟨"tenant02", "db-00001"⟩]
    let rules : List SchedulingRule :=
      [⟨-1, [west.key], []⟩, ⟨2, [west.key, east.key], [.matchTenant "tenant01"]⟩]
    west.score = east.score ∧ ([west, east].map Object.key).Nodup ∧
      europeanDeployment.IsBestEligible rules [west, east] east ∧
        europeanDeployment.chosenTarget? rules.reverse [east, west] = some east := by
  intro west east rules
  have distinct : ([west, east].map Object.key).Nodup := by decide
  obtain ⟨-, -, isChosen_iff, anyOrder⟩ :=
    chosen_target_is_best_eligible europeanDeployment rules [west, east] distinct
  have swapped := anyOrder rules.reverse [east, west] rules.reverse_perm.symm (.swap east west [])
  have eligible : europeanDeployment.IsEligible rules [west, east] east :=
    (mem_filter_fits distinct).1 (by decide +kernel)
  have best : europeanDeployment.IsBestEligible rules [west, east] east := by
    refine ⟨eligible, fun other otherEligible different => ?_⟩
    rcases List.mem_pair.1 otherEligible.candidate.1 with rfl | rfl
    · exact Or.inr ⟨by decide, by decide⟩
    · exact absurd rfl different
  exact ⟨by decide, distinct, best, swapped.trans ((isChosen_iff east).2 best)⟩

end Deployment

end TenantFleet
