import Mathlib.Data.List.Forall2
import Mathlib.Data.Set.List
import TenantFleet.Proofs.Codec.Selectors
import TenantFleet.Proofs.Selector.Nodes

/-!
# The review of scheduling documents

A document passes the review exactly when its rules are in order as a whole: no
priority is negative, every rule names targets in full, and every node of every
selector fills in exactly one place with a test that says something.  Such a
document spells a scheduling object, and the object spells the document again:
nothing is lost or changed in between, and both are written as the same JSON.
-/

namespace TenantFleet

open Json

@[simp]
theorem reportIf_eq_nil_iff {condition : Bool} {error : FieldError} :
    reportIf condition error = [] ↔ condition = false := by
  cases condition <;> simp [reportIf]

/-- A check that asks the same of an item wherever it stands asks it of all items of a list. -/
theorem itemErrors_eq_nil_iff {α : Type} {check : FieldPath → α → List FieldError}
    {property : α → Prop} (exact : ∀ path item, check path item = [] ↔ property item)
    {path : FieldPath} {items : List α} :
    itemErrors check path items = [] ↔ ∀ item ∈ items, property item := by
  simp only [itemErrors, List.flatMap_eq_nil_iff, exact]
  constructor
  · intro all item itemMem
    obtain ⟨position, inBounds, rfl⟩ := List.getElem_of_mem itemMem
    exact all (items[position], position) (by simp [List.mk_mem_zipIdx_iff_getElem?, inBounds])
  · intro all entry entryMem
    exact all entry.1 (List.fst_mem_of_mem_zipIdx entryMem)

namespace SelectorDraft

variable {path : FieldPath} {draft : SelectorDraft} {drafts : List SelectorDraft}

/-- The tests that the node fills in say what they ask for. -/
def LeavesAreNamed : SelectorDraft → Prop
  | .node matchTenant matchLabel _ _ _ =>
      (∀ id ∈ matchTenant, id ≠ "") ∧ ∀ label ∈ matchLabel, label.name ≠ "" ∧ label.value ≠ ""

/-- Every node of the draft fills in exactly one place, and no test is empty. -/
def IsAdmissible (draft : SelectorDraft) : Prop :=
  ∀ inner, draft.HasNode inner → inner.filled = 1 ∧ inner.LeavesAreNamed

theorem isAdmissible_iff :
    draft.IsAdmissible ↔
      (draft.filled = 1 ∧ draft.LeavesAreNamed) ∧ ∀ child ∈ draft.children, child.IsAdmissible :=
  forall_hasNode_iff

theorem errors_of_filled_ne_one (miscounted : draft.filled ≠ 1) :
    draft.errors path = [miscountError path draft.filled] := by
  unfold errors
  split
  case h_6 => rfl
  all_goals exact absurd rfl miscounted

theorem errorsFrom_eq_nil_iff {property : SelectorDraft → Prop} {position : Nat}
    (exact : ∀ child ∈ drafts, ∀ path, child.errors path = [] ↔ property child) :
    errorsFrom path position drafts = [] ↔ ∀ child ∈ drafts, property child := by
  induction drafts generalizing position with
  | nil => simp [errorsFrom]
  | cons child rest ih =>
      obtain ⟨atChild, atRest⟩ := List.forall_mem_cons.1 exact
      simp [errorsFrom, atChild, ih atRest]

/-- The review of a draft finds nothing exactly when the draft is admissible. -/
theorem errors_eq_nil_iff (path : FieldPath) (draft : SelectorDraft) :
    draft.errors path = [] ↔ draft.IsAdmissible := by
  induction draft using inherits generalizing path with
  | step draft ih =>
      rw [isAdmissible_iff]
      by_cases single : draft.filled = 1
      · have inChildren : ∀ child ∈ draft.children, ∀ path : FieldPath,
            child.errors path = [] ↔ child.IsAdmissible :=
          fun child childMem path => ih child childMem path
        obtain ⟨id, rfl⟩ | ⟨label, rfl⟩ | ⟨drafts, rfl⟩ | ⟨drafts, rfl⟩ | ⟨child, rfl⟩ :=
          forms_of_filled_eq_one single
        · simp [errors, tenantErrors, single, LeavesAreNamed, children]
        · simp [errors, labelErrors, single, LeavesAreNamed, children]
        · simpa [errors, single, LeavesAreNamed, children] using
            errorsFrom_eq_nil_iff (by simpa [children] using inChildren)
        · simpa [errors, single, LeavesAreNamed, children] using
            errorsFrom_eq_nil_iff (by simpa [children] using inChildren)
        · simpa [errors, single, LeavesAreNamed, children] using
            inChildren child (by simp [children]) _
      · simp [errors_of_filled_ne_one single, single]

/-! ### Drafts that spell selectors -/

mutual

theorem toSelector?_ofSelector :
    (selector : Selector) → (ofSelector selector).toSelector? = some selector
  | .matchTenant _ => rfl
  | .matchLabel _ _ => rfl
  | .allOf children => by simp [ofSelector, toSelector?, toSelectors?_ofSelectors children]
  | .anyOf children => by simp [ofSelector, toSelector?, toSelectors?_ofSelectors children]
  | .negation child => by simp [ofSelector, toSelector?, toSelector?_ofSelector child]

theorem toSelectors?_ofSelectors :
    (selectors : List Selector) → toSelectors? (ofSelectors selectors) = some selectors
  | [] => rfl
  | child :: rest => by
      simp [ofSelectors, toSelectors?, toSelector?_ofSelector child, toSelectors?_ofSelectors rest]

end

mutual

/-- A selector is written like the draft that spells it. -/
theorem toJson_ofSelector : (selector : Selector) → (ofSelector selector).toJson = selector.toJson
  | .matchTenant _ => rfl
  | .matchLabel _ _ => rfl
  | .allOf children => by
      simp [ofSelector, toJson, listPlace, place, Selector.toJson, listToJson_ofSelectors children]
  | .anyOf children => by
      simp [ofSelector, toJson, listPlace, place, Selector.toJson, listToJson_ofSelectors children]
  | .negation child => by
      simp [ofSelector, toJson, listPlace, place, Selector.toJson, toJson_ofSelector child]

theorem listToJson_ofSelectors : (selectors : List Selector) →
    listToJson (ofSelectors selectors) = Selector.listToJson selectors
  | [] => rfl
  | child :: rest => by
      simp [ofSelectors, listToJson, Selector.listToJson, toJson_ofSelector child,
        listToJson_ofSelectors rest]

end

theorem exists_ofSelectors (spelled : ∀ child ∈ drafts, ∃ selector, child = ofSelector selector) :
    ∃ selectors, drafts = ofSelectors selectors := by
  induction drafts with
  | nil => exact ⟨[], rfl⟩
  | cons child rest ih =>
      obtain ⟨⟨selector, rfl⟩, inRest⟩ := List.forall_mem_cons.1 spelled
      obtain ⟨selectors, rfl⟩ := ih inRest
      exact ⟨selector :: selectors, rfl⟩

/-- A draft spells a selector if each of its nodes fills in exactly one place. -/
theorem exists_ofSelector (admissible : draft.IsAdmissible) :
    ∃ selector, draft = ofSelector selector := by
  induction draft using inherits with
  | step draft ih =>
      obtain ⟨⟨single, -⟩, admissibleChildren⟩ := isAdmissible_iff.1 admissible
      have spelled : ∀ child ∈ draft.children, ∃ selector, child = ofSelector selector :=
        fun child childMem => ih child childMem (admissibleChildren child childMem)
      obtain ⟨id, rfl⟩ | ⟨label, rfl⟩ | ⟨drafts, rfl⟩ | ⟨drafts, rfl⟩ | ⟨child, rfl⟩ :=
        forms_of_filled_eq_one single
      · exact ⟨.matchTenant id, rfl⟩
      · exact ⟨.matchLabel label.name label.value, rfl⟩
      · obtain ⟨selectors, rfl⟩ := exists_ofSelectors (by simpa [children] using spelled)
        exact ⟨.allOf selectors, rfl⟩
      · obtain ⟨selectors, rfl⟩ := exists_ofSelectors (by simpa [children] using spelled)
        exact ⟨.anyOf selectors, rfl⟩
      · obtain ⟨selector, rfl⟩ := spelled child (by simp [children])
        exact ⟨.negation selector, rfl⟩

end SelectorDraft

/-! ### Rules -/

namespace RuleDraft

variable {rule : RuleDraft}

/-- A rule in order: its priority is not negative, it names its targets in full, of which there is
at least one, and its selectors are admissible. -/
structure IsAdmissible (rule : RuleDraft) : Prop where
  priority : 0 ≤ rule.priority
  targets : rule.targets ≠ []
  named : ∀ target ∈ rule.targets, target.name ≠ "" ∧ target.scope ≠ ""
  selectors : ∀ selector ∈ rule.selectors, selector.IsAdmissible

theorem targetErrors_eq_nil_iff (path : FieldPath) (target : ObjectKey) :
    targetErrors path target = [] ↔ target.name ≠ "" ∧ target.scope ≠ "" := by
  simp [targetErrors]

theorem errors_eq_nil_iff (path : FieldPath) (rule : RuleDraft) :
    rule.errors path = [] ↔ rule.IsAdmissible := by
  have targets : itemErrors targetErrors (path.field "targets") rule.targets = [] ↔
      ∀ target ∈ rule.targets, target.name ≠ "" ∧ target.scope ≠ "" :=
    itemErrors_eq_nil_iff targetErrors_eq_nil_iff
  have selectors : itemErrors SelectorDraft.errors (path.field "selectors") rule.selectors = [] ↔
      ∀ selector ∈ rule.selectors, selector.IsAdmissible :=
    itemErrors_eq_nil_iff SelectorDraft.errors_eq_nil_iff
  simp only [errors, List.append_eq_nil_iff, reportIf_eq_nil_iff, targets, selectors,
    decide_eq_false_iff_not, Int.not_lt, List.isEmpty_eq_false_iff]
  constructor
  · rintro ⟨⟨⟨priority, someTarget⟩, named⟩, admissible⟩
    exact ⟨priority, someTarget, named, admissible⟩
  · rintro ⟨priority, someTarget, named, admissible⟩
    exact ⟨⟨⟨priority, someTarget⟩, named⟩, admissible⟩

theorem exists_ofRule (admissible : rule.IsAdmissible) : ∃ stored, rule = ofRule stored := by
  obtain ⟨selectors, spelled⟩ := SelectorDraft.exists_ofSelectors fun selector selectorMem =>
    SelectorDraft.exists_ofSelector (admissible.selectors selector selectorMem)
  refine ⟨⟨rule.priority, rule.targets, selectors⟩, ?_⟩
  rw [ofRule, ← spelled]

theorem toRule?_ofRule (stored : SchedulingRule) : (ofRule stored).toRule? = some stored := by
  simp [ofRule, toRule?, SelectorDraft.toSelectors?_ofSelectors]

/-- A rule is written like the draft that spells it. -/
theorem toJson_ofRule (stored : SchedulingRule) : (ofRule stored).toJson = stored.toJson := by
  simp [ofRule, toJson, SchedulingRule.toJson, SelectorDraft.listToJson_ofSelectors]

end RuleDraft

/-- What a stored rule has in common with the written one that it comes from: priority and
targets, and its selectors, one by one, in JSON. -/
structure SchedulingRule.IsWrittenAs (stored : SchedulingRule) (written : RuleDraft) : Prop where
  priority : stored.priority = written.priority
  targets : stored.targets = written.targets
  selectors : List.Forall₂ (fun selector draft => selector.toJson = draft.toJson)
    stored.selectors written.selectors

theorem SchedulingRule.isWrittenAs_ofRule (stored : SchedulingRule) :
    stored.IsWrittenAs (.ofRule stored) where
  priority := rfl
  targets := rfl
  selectors := by
    unfold RuleDraft.ofRule
    induction stored.selectors with
    | nil => exact .nil
    | cons selector rest ih => exact .cons (SelectorDraft.toJson_ofSelector selector).symm ih

/-! ### Documents -/

/-- Rules are written alike in a document and as they are stored. -/
theorem RulesDraft.toJson_ofRules (spec : SchedulingSpec) :
    RulesDraft.toJson ⟨spec.rules.map RuleDraft.ofRule⟩ = SchedulingSpec.toJson spec := by
  simp [RulesDraft.toJson, SchedulingSpec.toJson, RuleDraft.toJson_ofRule]

namespace SchedulingDraft

variable {dialect : Dialect} {draft : SchedulingDraft} {scheduling : Scheduling}

/-- A document in order: it has a name, and all of its rules are in order. -/
def IsAdmissible (draft : SchedulingDraft) : Prop :=
  draft.metadata.name ≠ "" ∧ ∀ rule ∈ draft.spec.rules, rule.IsAdmissible

theorem errors_eq_nil_iff : draft.errors = [] ↔ draft.IsAdmissible := by
  have rules : itemErrors RuleDraft.errors rulesPath draft.spec.rules = [] ↔
      ∀ rule ∈ draft.spec.rules, rule.IsAdmissible :=
    itemErrors_eq_nil_iff RuleDraft.errors_eq_nil_iff
  simp [errors, rules, IsAdmissible]

theorem toScheduling_of_errors (faulty : draft.errors ≠ []) :
    draft.toScheduling = .error draft.errors := by
  unfold toScheduling
  split
  next faultless => exact absurd faultless faulty
  next => rfl

theorem toScheduling_of_mapM {rules : List SchedulingRule} (faultless : draft.errors = [])
    (spelled : draft.spec.rules.mapM RuleDraft.toRule? = some rules) :
    draft.toScheduling = .ok ⟨draft.metadata, (⟨rules⟩ : SchedulingSpec), ()⟩ := by
  simp [toScheduling, faultless, spelled]

/-- The rules of an admissible document spell rules: no selector in it is malformed. -/
theorem exists_rules (admissible : draft.IsAdmissible) :
    ∃ rules : List SchedulingRule, draft.spec.rules = rules.map RuleDraft.ofRule := by
  have spelled : draft.spec.rules ∈ Set.range (List.map RuleDraft.ofRule) := by
    rw [Set.range_list_map]
    intro rule ruleMem
    obtain ⟨stored, isStored⟩ := RuleDraft.exists_ofRule (admissible.2 rule ruleMem)
    exact ⟨stored, isStored.symm⟩
  obtain ⟨rules, isSpelled⟩ := spelled
  exact ⟨rules, isSpelled.symm⟩

theorem mapM_toRule?_map (rules : List SchedulingRule) :
    (rules.map RuleDraft.ofRule).mapM RuleDraft.toRule? = some rules :=
  mapM_map_eq_some fun rule _ => RuleDraft.toRule?_ofRule rule

/-- What a document spells, if it is admissible, spells the document again. -/
theorem toScheduling_eq_ok_iff :
    draft.toScheduling = .ok scheduling ↔
      draft.IsAdmissible ∧ draft = ofScheduling scheduling := by
  constructor
  · intro accepted
    have faultless : draft.errors = [] := by
      by_contra faulty
      simp [toScheduling_of_errors faulty] at accepted
    have admissible := errors_eq_nil_iff.1 faultless
    obtain ⟨rules, spelled⟩ := exists_rules admissible
    rw [toScheduling_of_mapM faultless (spelled ▸ mapM_toRule?_map rules)] at accepted
    obtain rfl := Except.ok.inj accepted
    exact ⟨admissible, by simp [ofScheduling, ← spelled]⟩
  · rintro ⟨admissible, rfl⟩
    exact toScheduling_of_mapM (errors_eq_nil_iff.2 admissible) (mapM_toRule?_map _)

/-- The JSON of a stored scheduling object spells its document. -/
theorem ofJson?_toJson_scheduling (fits : (ofScheduling scheduling).Fits) :
    ofJson? dialect scheduling.toJson = some (ofScheduling scheduling) := by
  obtain ⟨metadata, spec, status⟩ := scheduling
  have readMetadata : Metadata.ofJson? dialect metadata.toJson = some metadata :=
    Metadata.ofJson?_toJson fits.metadata
  have readSpec : RulesDraft.ofJson? dialect (SchedulingSpec.toJson spec) =
      some ⟨spec.rules.map RuleDraft.ofRule⟩ := by
    rw [← RulesDraft.toJson_ofRules]
    exact RulesDraft.ofJson?_toJson fits.spec
  simp [ofJson?, Object.toJson, record?, Kind.specToJson, readMetadata, readSpec, ofScheduling]

/-- The review of a scheduling document is exact: it lets a document pass if and only if the
document has a name and every rule is in order, and no document without errors has a malformed
selector.  It is lossless as well: what is stored has the metadata and, in their order, the rules
of the document, and its JSON, taken as a document, is read and reviewed to the same object. -/
theorem review_is_exact_and_lossless (draft : SchedulingDraft) :
    ((∃ scheduling, draft.toScheduling = .ok scheduling) ↔
        draft.metadata.name ≠ "" ∧ ∀ rule ∈ draft.spec.rules, rule.IsAdmissible) ∧
      (draft.errors = [] → (draft.spec.rules.mapM RuleDraft.toRule?).isSome) ∧
      ∀ scheduling, draft.toScheduling = .ok scheduling →
        scheduling.metadata = draft.metadata ∧
          List.Forall₂ SchedulingRule.IsWrittenAs (SchedulingSpec.rules scheduling.spec)
            draft.spec.rules ∧
          (draft.Fits → ∀ dialect,
            (ofJson? dialect scheduling.toJson).map toScheduling = some (.ok scheduling)) := by
  refine ⟨⟨?accepted, ?complete⟩, ?wellFormed, ?lossless⟩
  case accepted =>
    rintro ⟨scheduling, accepted⟩
    exact (toScheduling_eq_ok_iff.1 accepted).1
  case complete =>
    intro admissible
    obtain ⟨rules, spelled⟩ := exists_rules admissible
    exact ⟨_, toScheduling_of_mapM (errors_eq_nil_iff.2 admissible)
      (spelled ▸ mapM_toRule?_map rules)⟩
  case wellFormed =>
    intro faultless
    obtain ⟨rules, spelled⟩ := exists_rules (errors_eq_nil_iff.1 faultless)
    rw [spelled, mapM_toRule?_map]
    rfl
  case lossless =>
    intro scheduling accepted
    obtain ⟨-, rfl⟩ := toScheduling_eq_ok_iff.1 accepted
    refine ⟨rfl, ?_, fun fits dialect => ?_⟩
    · exact List.forall₂_map_right_iff.2 (List.forall₂_same.2 fun rule _ =>
        SchedulingRule.isWrittenAs_ofRule rule)
    · rw [ofJson?_toJson_scheduling fits, Option.map_some, accepted]

/-- A document with selectors in each other, one of them without children. -/
def nested : SchedulingDraft where
  metadata := { name := "rules", scope := "fleet" }
  spec := ⟨[⟨7, [⟨"fleet", "east"⟩], SelectorDraft.ofSelectors
    [.anyOf [], .negation (.allOf [.matchTenant "tenant01", .matchLabel "tier" "gold"])]⟩]⟩

theorem fits_nested : nested.Fits := by
  refine ⟨⟨by decide, by decide, by decide, by simp [nested]⟩, ?_⟩
  intro rule ruleMem
  obtain rfl := List.mem_singleton.1 ruleMem
  show FitsSigned _
  decide

theorem review_is_exact_and_lossless_when_nested :
    ∃ scheduling, nested.toScheduling = .ok scheduling ∧ nested.Fits ∧
      (ofJson? .plain scheduling.toJson).map toScheduling = some (.ok scheduling) := by
  have accepted : nested.toScheduling = .ok ⟨nested.metadata, _, ()⟩ := rfl
  exact ⟨_, accepted, fits_nested,
    ((review_is_exact_and_lossless nested).2.2 _ accepted).2.2 fits_nested .plain⟩

end SchedulingDraft

end TenantFleet
