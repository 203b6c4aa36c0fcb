import TenantFleet.Proofs.Codec.Objects
import TenantFleet.Selector.DraftCodec

/-!
# Selectors and drafts are read back as they were written
-/

namespace TenantFleet

open Json

variable {dialect : Dialect} {json : Json}

/-! ### Selectors -/

namespace Selector

mutual

theorem ofJson?_toJson : (selector : Selector) → ofJson? selector.toJson = some selector
  | .matchTenant id => by simp [toJson, ofJson?, tenantOfEntries?, required]
  | .matchLabel name value => by simp [toJson, ofJson?, labelOfEntries?, required]
  | .allOf children => by simp [toJson, ofJson?, listOfJson?_listToJson children]
  | .anyOf children => by simp [toJson, ofJson?, listOfJson?_listToJson children]
  | .negation child => by simp [toJson, ofJson?, ofJson?_toJson child]

theorem listOfJson?_listToJson :
    (selectors : List Selector) → listOfJson? (listToJson selectors) = some selectors
  | [] => rfl
  | child :: rest => by
      simp [listToJson, listOfJson?, ofJson?_toJson child, listOfJson?_listToJson rest]

end

theorem listToJson_eq_map (selectors : List Selector) :
    listToJson selectors = selectors.map toJson := by
  induction selectors with
  | nil => rfl
  | cons child rest ih => simp [listToJson, ih]

@[simp]
theorem list?_listToJson (selectors : List Selector) :
    list? ofJson? (.array (listToJson selectors)) = some selectors := by
  rw [listToJson_eq_map]
  exact list?_map fun selector _ => ofJson?_toJson selector

end Selector

/-! ### Drafts of selectors -/

@[simp]
theorem LabelMatch.toJson_ne_null (label : LabelMatch) : label.toJson ≠ .null := by
  simp [toJson]

@[simp]
theorem LabelMatch.ofJson?_toJson (label : LabelMatch) :
    ofJson? dialect label.toJson = some label := by
  simp [ofJson?, toJson, record?]

namespace SelectorDraft

@[simp]
theorem tenantOfJson?_tenantToJson (id : String) :
    tenantOfJson? dialect (tenantToJson id) = some id := by
  simp [tenantOfJson?, tenantToJson, record?]

@[simp]
theorem tenantToJson_ne_null (id : String) : tenantToJson id ≠ .null := by
  simp [tenantToJson]

theorem toJson_ne_null (draft : SelectorDraft) : draft.toJson ≠ .null := by
  cases draft
  simp [toJson]

section Places

variable {value : Json} {matchTenant : Option String} {matchLabel : Option LabelMatch}
  {allOf anyOf : Option (List SelectorDraft)} {negation : Option SelectorDraft}
  {asDraft : Unit → Option SelectorDraft} {asList : Unit → Option (List SelectorDraft)}

/-- A value that is not null fills in the place that its entry names. -/
theorem fill_of_ne_null {name : String} (solid : value ≠ .null) :
    fill dialect name value asDraft asList
        (.node matchTenant matchLabel allOf anyOf negation) =
      if name = "matchTenant" then
        (tenantOfJson? dialect value).map (.node · matchLabel allOf anyOf negation)
      else if name = "matchLabel" then
        (LabelMatch.ofJson? dialect value).map (.node matchTenant · allOf anyOf negation)
      else if name = "and" then (asList ()).map (.node matchTenant matchLabel · anyOf negation)
      else if name = "or" then (asList ()).map (.node matchTenant matchLabel allOf · negation)
      else if name = "not" then (asDraft ()).map (.node matchTenant matchLabel allOf anyOf ·)
      else some (.node matchTenant matchLabel allOf anyOf negation) := by
  have filled {α : Type} (found : Option α) (place : α → SelectorDraft) :
      (do return place (← found)) = found.map place := by
    cases found <;> rfl
  cases value with
  | null => exact absurd rfl solid
  | bool | integer | real | string | array | object | garbled => simp only [fill, filled]

end Places

/-- A node is read back if its children are: each entry fills in its own place, and the entries
that are left out leave theirs empty. -/
theorem ofJson?_toJson_node {matchTenant : Option String} {matchLabel : Option LabelMatch}
    {allOf anyOf : Option (List SelectorDraft)} {negation : Option SelectorDraft}
    (conditions : (listPlace allOf).map (ofArray? dialect) = allOf.map some)
    (alternatives : (listPlace anyOf).map (ofArray? dialect) = anyOf.map some)
    (negated : (place negation).map (ofJson? dialect) = negation.map some) :
    ofJson? dialect (toJson (.node matchTenant matchLabel allOf anyOf negation)) =
      some (.node matchTenant matchLabel allOf anyOf negation) := by
  have readNegation : ofEntries? dialect (present "not" (place negation)) =
      some (.node none none none none negation) := by
    cases negation with
    | none => rfl
    | some child =>
        have childRead : ofJson? dialect child.toJson = some child := by simpa [place] using negated
        simp [place, ofEntries?, blank, fill_of_ne_null, toJson_ne_null, childRead]
  have readAlternatives : ofEntries? dialect
      (present "or" (listPlace anyOf) ++ present "not" (place negation)) =
        some (.node none none none anyOf negation) := by
    cases anyOf with
    | none => exact readNegation
    | some children =>
        have childrenRead : ofArray? dialect (.array (listToJson children)) = some children := by
          simpa [listPlace] using alternatives
        simp [listPlace, ofEntries?, readNegation, fill_of_ne_null, childrenRead]
  have readConditions : ofEntries? dialect
      (present "and" (listPlace allOf) ++ (present "or" (listPlace anyOf) ++
        present "not" (place negation))) = some (.node none none allOf anyOf negation) := by
    cases allOf with
    | none => exact readAlternatives
    | some children =>
        have childrenRead : ofArray? dialect (.array (listToJson children)) = some children := by
          simpa [listPlace] using conditions
        simp [listPlace, ofEntries?, readAlternatives, fill_of_ne_null, childrenRead]
  cases matchTenant <;> cases matchLabel <;>
    simp [toJson, ofJson?, ofEntries?, places, readConditions, fill_of_ne_null]

mutual

theorem ofJson?_toJson : (draft : SelectorDraft) → ofJson? dialect draft.toJson = some draft
  | .node _ _ allOf anyOf negation =>
      ofJson?_toJson_node (map_listPlace allOf) (map_listPlace anyOf) (map_place negation)

theorem map_place : (child : Option SelectorDraft) →
    (place child).map (ofJson? dialect) = child.map some
  | none => rfl
  | some child => by simp [place, ofJson?_toJson child]

theorem map_listPlace : (children : Option (List SelectorDraft)) →
    (listPlace children).map (ofArray? dialect) = children.map some
  | none => rfl
  | some children => by simp [listPlace, ofArray?, listOfJson?_listToJson children]

theorem listOfJson?_listToJson :
    (drafts : List SelectorDraft) → listOfJson? dialect (listToJson drafts) = some drafts
  | [] => rfl
  | child :: rest => by
      simp [listToJson, listOfJson?, ofJson?_toJson child, listOfJson?_listToJson rest]

end

@[simp]
theorem ofArray?_listToJson (drafts : List SelectorDraft) :
    ofArray? dialect (.array (listToJson drafts)) = some drafts :=
  listOfJson?_listToJson drafts

end SelectorDraft

/-! ### Rules and documents -/

namespace SchedulingRule

def Fits (rule : SchedulingRule) : Prop :=
  FitsSigned rule.priority

theorem ofJson?_toJson {rule : SchedulingRule} (fits : rule.Fits) :
    ofJson? dialect rule.toJson = some rule := by
  have priority : FitsSigned rule.priority := fits
  simp -implicitDefEqProofs [ofJson?, toJson, record?, required, list?_map, priority]

theorem fits_of_ofJson? {rule : SchedulingRule} (read : ofJson? dialect json = some rule) :
    rule.Fits := by
  simp only [ofJson?, Option.bind_eq_bind, Option.bind_eq_some_iff, Option.pure_def,
    Option.some.injEq] at read
  obtain ⟨_, -, priority, readPriority, _, -, _, -, rfl⟩ := read
  have priorityFits : FitsSigned priority := of_required fitsSigned_of_signed? readPriority
  exact priorityFits

end SchedulingRule

namespace SchedulingSpec

def Fits (spec : SchedulingSpec) : Prop :=
  ∀ rule ∈ spec.rules, rule.Fits

theorem ofJson?_toJson {spec : SchedulingSpec} (fits : spec.Fits) :
    ofJson? dialect spec.toJson = some spec := by
  have rules : list? (SchedulingRule.ofJson? dialect)
      (.array (spec.rules.map SchedulingRule.toJson)) = some spec.rules :=
    list?_map fun rule ruleMem => SchedulingRule.ofJson?_toJson (fits rule ruleMem)
  simp [ofJson?, toJson, record?, rules]

theorem fits_of_ofJson? {spec : SchedulingSpec} (read : ofJson? dialect json = some spec) :
    spec.Fits := by
  simp only [ofJson?, Option.bind_eq_bind, Option.bind_eq_some_iff, Option.pure_def,
    Option.some.injEq] at read
  obtain ⟨_, -, rules, readRules, rfl⟩ := read
  have rulesFit : ∀ rule ∈ rules, rule.Fits :=
    of_defaulted (by simp) (of_list? SchedulingRule.fits_of_ofJson?) readRules
  exact rulesFit

end SchedulingSpec

namespace RuleDraft

def Fits (rule : RuleDraft) : Prop :=
  FitsSigned rule.priority

theorem ofJson?_toJson {rule : RuleDraft} (fits : rule.Fits) :
    ofJson? dialect rule.toJson = some rule := by
  have priority : FitsSigned rule.priority := fits
  simp -implicitDefEqProofs [ofJson?, toJson, record?, list?_map, priority]

theorem fits_of_ofJson? {rule : RuleDraft} (read : ofJson? dialect json = some rule) :
    rule.Fits := by
  simp only [ofJson?, Option.bind_eq_bind, Option.bind_eq_some_iff, Option.pure_def,
    Option.some.injEq] at read
  obtain ⟨_, -, priority, readPriority, _, -, _, -, rfl⟩ := read
  have priorityFits : FitsSigned priority :=
    of_defaulted (by decide) fitsSigned_of_signed? readPriority
  exact priorityFits

end RuleDraft

namespace RulesDraft

def Fits (rules : RulesDraft) : Prop :=
  ∀ rule ∈ rules.rules, rule.Fits

theorem ofJson?_toJson {rules : RulesDraft} (fits : rules.Fits) :
    ofJson? dialect rules.toJson = some rules := by
  have items : list? (RuleDraft.ofJson? dialect)
      (.array (rules.rules.map RuleDraft.toJson)) = some rules.rules :=
    list?_map fun rule ruleMem => RuleDraft.ofJson?_toJson (fits rule ruleMem)
  simp [ofJson?, toJson, record?, items]

theorem fits_of_ofJson? {rules : RulesDraft} (read : ofJson? dialect json = some rules) :
    rules.Fits := by
  simp only [ofJson?, Option.bind_eq_bind, Option.bind_eq_some_iff, Option.pure_def,
    Option.some.injEq] at read
  obtain ⟨_, -, items, readItems, rfl⟩ := read
  have itemsFit : ∀ rule ∈ items, rule.Fits :=
    of_defaulted (by simp) (of_list? RuleDraft.fits_of_ofJson?) readItems
  exact itemsFit

end RulesDraft

namespace SchedulingDraft

/-- The numbers in the document fit into 64 bits. -/
structure Fits (draft : SchedulingDraft) : Prop where
  metadata : draft.metadata.Fits
  spec : draft.spec.Fits

theorem ofJson?_toJson {draft : SchedulingDraft} (fits : draft.Fits) :
    ofJson? dialect draft.toJson = some draft := by
  simp [ofJson?, toJson, record?, Metadata.ofJson?_toJson fits.metadata,
    RulesDraft.ofJson?_toJson fits.spec]

theorem fits_of_ofJson? {draft : SchedulingDraft} (read : ofJson? dialect json = some draft) :
    draft.Fits := by
  simp only [ofJson?, Option.bind_eq_bind, Option.bind_eq_some_iff, Option.pure_def,
    Option.some.injEq] at read
  obtain ⟨_, -, metadata, readMetadata, spec, readSpec, rfl⟩ := read
  have blankSpec : RulesDraft.Fits {} := by simp [RulesDraft.Fits]
  exact ⟨of_defaulted Metadata.fits_blank Metadata.fits_of_ofJson? readMetadata,
    of_defaulted blankSpec RulesDraft.fits_of_ofJson? readSpec⟩

end SchedulingDraft

end TenantFleet
