import TenantFleet.Placement.Choice

/-!
# What the search through the rules finds

The search goes through the rules once and passes over what cannot matter any
more.  After each rule it has found the highest priority of the rules that it
has gone through and that apply, and the targets that all of these of this
priority name, so in the end the targets that the leading rules name.
-/

namespace TenantFleet

/-- The rule applies to the deployment, and no rule of a higher priority does. -/
def Deployment.IsLed (deployment : Deployment) (rules : List SchedulingRule)
    (rule : SchedulingRule) : Prop :=
  rule ∈ rules ∧ rule.appliesTo deployment = true ∧
    ∀ other ∈ rules, other.appliesTo deployment = true → other.priority ≤ rule.priority

namespace RuleSearch

variable {deployment : Deployment} {rules : List SchedulingRule} {rule : SchedulingRule}
  {search : RuleSearch}

/-- What a search has found that has gone through the rules. -/
structure HasSeen (deployment : Deployment) (rules : List SchedulingRule) (search : RuleSearch) :
    Prop where
  bounded : ∀ rule ∈ rules, rule.appliesTo deployment = true →
    ∃ highest, search.priority? = some highest ∧ rule.priority ≤ highest
  reached : ∀ highest, search.priority? = some highest →
    ∃ rule ∈ rules, rule.appliesTo deployment = true ∧ rule.priority = highest
  targets : search.targets = (rules.filter fun rule =>
    rule.appliesTo deployment ∧ search.priority? = some rule.priority).flatMap (·.targets)

theorem hasSeen_nil : HasSeen deployment [] {} where
  bounded := by simp
  reached := by simp
  targets := rfl

/-- A rule that does not apply, or that another one outranks, makes no difference. -/
theorem HasSeen.pass (seen : HasSeen deployment rules search)
    (outranked : rule.appliesTo deployment = true →
      ∃ highest, search.priority? = some highest ∧ rule.priority < highest) :
    HasSeen deployment (rules ++ [rule]) search where
  bounded := by
    intro other otherMem applies
    rcases List.mem_append.1 otherMem with inRules | isRule
    · exact seen.bounded other inRules applies
    · obtain rfl := List.mem_singleton.1 isRule
      obtain ⟨highest, isHighest, less⟩ := outranked applies
      exact ⟨highest, isHighest, Int.le_of_lt less⟩
  reached := by
    intro highest isHighest
    obtain ⟨other, otherMem, applies, same⟩ := seen.reached highest isHighest
    exact ⟨other, List.mem_append_left _ otherMem, applies, same⟩
  targets := by
    have unneeded : ¬ (rule.appliesTo deployment = true ∧
        search.priority? = some rule.priority) := by
      rintro ⟨applies, isHighest⟩
      obtain ⟨highest, isHighest', less⟩ := outranked applies
      rw [isHighest, Option.some.injEq] at isHighest'
      omega
    rw [List.filter_append, List.filter_cons_of_neg (by simpa using unneeded), List.filter_nil,
      List.append_nil]
    exact seen.targets

/-- A rule of the highest priority so far adds its targets. -/
theorem HasSeen.extend (seen : HasSeen deployment rules search)
    (applies : rule.appliesTo deployment = true) (same : search.priority? = some rule.priority) :
    HasSeen deployment (rules ++ [rule])
      { search with targets := search.targets ++ rule.targets } where
  bounded := by
    intro other otherMem otherApplies
    rcases List.mem_append.1 otherMem with inRules | isRule
    · exact seen.bounded other inRules otherApplies
    · obtain rfl := List.mem_singleton.1 isRule
      exact ⟨other.priority, same, Int.le_refl _⟩
  reached := by
    intro highest isHighest
    obtain ⟨other, otherMem, otherApplies, sameToo⟩ := seen.reached highest isHighest
    exact ⟨other, List.mem_append_left _ otherMem, otherApplies, sameToo⟩
  targets := by
    rw [List.filter_append, List.filter_cons_of_pos (by simp [applies, same]), List.flatMap_append,
      ← seen.targets]
    simp

/-- A rule that outranks all that apply puts its targets in the place of theirs. -/
theorem HasSeen.reset (seen : HasSeen deployment rules search)
    (applies : rule.appliesTo deployment = true)
    (outranks : ∀ highest, search.priority? = some highest → highest < rule.priority) :
    HasSeen deployment (rules ++ [rule])
      { priority? := some rule.priority, targets := rule.targets } := by
  have below : ∀ other ∈ rules, other.appliesTo deployment = true →
      other.priority < rule.priority := by
    intro other otherMem otherApplies
    obtain ⟨highest, isHighest, bound⟩ := seen.bounded other otherMem otherApplies
    exact Int.lt_of_le_of_lt bound (outranks highest isHighest)
  have noneLeft : (rules.filter fun other =>
      other.appliesTo deployment ∧ some rule.priority = some other.priority) = [] := by
    rw [List.filter_eq_nil_iff]
    intro other otherMem stays
    obtain ⟨otherApplies, same⟩ := of_decide_eq_true stays
    have less := below other otherMem otherApplies
    rw [Option.some.inj same] at less
    exact Int.lt_irrefl _ less
  exact {
    bounded := by
      intro other otherMem otherApplies
      rcases List.mem_append.1 otherMem with inRules | isRule
      · exact ⟨rule.priority, rfl, Int.le_of_lt (below other inRules otherApplies)⟩
      · obtain rfl := List.mem_singleton.1 isRule
        exact ⟨other.priority, rfl, Int.le_refl _⟩
    reached := by
      intro highest isHighest
      exact ⟨rule, by simp, applies, Option.some.inj isHighest⟩
    targets := by
      rw [List.filter_append, noneLeft, List.filter_cons_of_pos (by simp [applies])]
      simp }

/-- One step of the search. -/
theorem HasSeen.consider (seen : HasSeen deployment rules search) (rule : SchedulingRule) :
    HasSeen deployment (rules ++ [rule]) (search.consider deployment rule) := by
  unfold RuleSearch.consider
  split
  next lower =>
    obtain ⟨highest, isHighest, less⟩ := (Option.any_eq_true _ _).1 lower
    exact seen.pass fun _ => ⟨highest, isHighest, of_decide_eq_true less⟩
  next notLower =>
    split
    next unapplied => exact seen.pass fun applies => by simp [applies] at unapplied
    next applied =>
      have applies : rule.appliesTo deployment = true := by simpa using applied
      split
      next same => exact seen.extend applies same
      next different =>
        refine seen.reset applies fun highest isHighest => ?_
        have notBelow : ¬ rule.priority < highest := by simpa [isHighest] using notLower
        have notSame : highest ≠ rule.priority := by simpa [isHighest] using different
        omega

/-- The search from one rule to the next. -/
theorem HasSeen.foldl {before : List SchedulingRule} (seen : HasSeen deployment before search)
    (rules : List SchedulingRule) :
    HasSeen deployment (before ++ rules) (rules.foldl (RuleSearch.consider deployment) search) := by
  induction rules generalizing before search with
  | nil => simpa using seen
  | cons rule rest ih =>
      have further := ih (seen.consider rule)
      rwa [List.append_assoc, List.singleton_append] at further

theorem hasSeen_searchRules (deployment : Deployment) (rules : List SchedulingRule) :
    HasSeen deployment rules (deployment.searchRules rules) :=
  hasSeen_nil.foldl rules

/-- Nothing is found just if no rule applies. -/
theorem HasSeen.priority?_eq_none_iff (seen : HasSeen deployment rules search) :
    search.priority? = none ↔ ∀ rule ∈ rules, rule.appliesTo deployment = false := by
  constructor
  · intro nothing rule ruleMem
    refine Bool.eq_false_iff.2 fun applies => ?_
    obtain ⟨highest, isHighest, -⟩ := seen.bounded rule ruleMem applies
    rw [nothing] at isHighest
    contradiction
  · intro unruled
    refine Option.eq_none_iff_forall_ne_some.2 fun highest isHighest => ?_
    obtain ⟨rule, ruleMem, applies, -⟩ := seen.reached highest isHighest
    rw [unruled rule ruleMem] at applies
    contradiction

/-- The rules whose targets are kept are the leading ones. -/
theorem HasSeen.isLed_iff (seen : HasSeen deployment rules search) :
    deployment.IsLed rules rule ↔
      rule ∈ rules ∧ rule.appliesTo deployment = true ∧
        search.priority? = some rule.priority := by
  constructor
  · rintro ⟨ruleMem, applies, leads⟩
    obtain ⟨highest, isHighest, bound⟩ := seen.bounded rule ruleMem applies
    obtain ⟨top, topMem, topApplies, isTop⟩ := seen.reached highest isHighest
    have atTop := leads top topMem topApplies
    have same : highest = rule.priority := by omega
    exact ⟨ruleMem, applies, same ▸ isHighest⟩
  · rintro ⟨ruleMem, applies, isHighest⟩
    refine ⟨ruleMem, applies, fun other otherMem otherApplies => ?_⟩
    obtain ⟨highest, isHighest', bound⟩ := seen.bounded other otherMem otherApplies
    rw [isHighest, Option.some.injEq] at isHighest'
    exact isHighest' ▸ bound

/-- The targets that are found are those that the leading rules name. -/
theorem HasSeen.mem_targets_iff (seen : HasSeen deployment rules search) {key : ObjectKey} :
    key ∈ search.targets ↔ ∃ rule, deployment.IsLed rules rule ∧ key ∈ rule.targets := by
  simp only [seen.targets, List.mem_flatMap, List.mem_filter, decide_eq_true_eq, seen.isLed_iff]

end RuleSearch

end TenantFleet
