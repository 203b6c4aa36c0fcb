import TenantFleet.Field.Error
import TenantFleet.Object.Basic

/-!
# Scheduling drafts

The form in which users write scheduling rules.  A node of a selector draft has
a place for each of the five forms, and any number of them may be filled in;
validation reports every node that does not fill in exactly one, and every
empty name in a test.  Only a draft without errors becomes a selector.
-/

namespace TenantFleet

/-- A test of a label, as written. -/
structure LabelMatch where
  name : String := ""
  value : String := ""
deriving DecidableEq, Repr, Inhabited

/-- A selector as written: five places of which exactly one has to be filled in. -/
inductive SelectorDraft where
  | node (matchTenant : Option String) (matchLabel : Option LabelMatch)
      (allOf anyOf : Option (List SelectorDraft)) (negation : Option SelectorDraft)
deriving Repr, Inhabited

/-- A scheduling rule as written. -/
structure RuleDraft where
  priority : Int := 0
  targets : List ObjectKey := []
  selectors : List SelectorDraft := []
deriving Repr, Inhabited

/-- The rules of a scheduling document as written. -/
structure RulesDraft where
  rules : List RuleDraft := []
deriving Repr, Inhabited

/-- A scheduling document as written. -/
structure SchedulingDraft where
  metadata : Metadata := {}
  spec : RulesDraft := {}
deriving Inhabited

namespace SelectorDraft

/-- How many of the five places are filled in. -/
def filled : SelectorDraft → Nat
  | .node matchTenant matchLabel allOf anyOf negation =>
      matchTenant.isSome.toNat + matchLabel.isSome.toNat + allOf.isSome.toNat +
        anyOf.isSome.toNat + negation.isSome.toNat

/-- What is said of a node that does not fill in exactly one place. -/
def miscountError (path : FieldPath) (count : Nat) : FieldError :=
  .invalid path (toString count ++ " selectors set")
    "exactly one of matchTenant, matchLabel, and, or, not must be set"

def tenantErrors (path : FieldPath) (id : String) : List FieldError :=
  reportIf (id = "") (.required (path.field "id") "tenant id may not be empty")

def labelErrors (path : FieldPath) (label : LabelMatch) : List FieldError :=
  reportIf (label.name = "") (.required (path.field "name") "label name may not be empty") ++
    reportIf (label.value = "") (.required (path.field "value") "label value may not be empty")

mutual

/-- The errors of a selector draft at `path`. -/
def errors (path : FieldPath) : SelectorDraft → List FieldError
  | .node (some id) none none none none => tenantErrors (path.field "matchTenant") id
  | .node none (some label) none none none => labelErrors (path.field "matchLabel") label
  | .node none none (some children) none none => errorsFrom (path.field "and") 0 children
  | .node none none none (some children) none => errorsFrom (path.field "or") 0 children
  | .node none none none none (some child) => errors (path.field "not") child
  | .node matchTenant matchLabel allOf anyOf negation =>
      [miscountError path (filled (.node matchTenant matchLabel allOf anyOf negation))]

/-- The errors of the drafts in the list at `path`, of which the first stands at `position`. -/
def errorsFrom (path : FieldPath) (position : Nat) : List SelectorDraft → List FieldError
  | [] => []
  | child :: rest => errors (path.item position) child ++ errorsFrom path (position + 1) rest

end

mutual

/-- The selector that a draft spells, if each of its nodes fills in exactly one place. -/
def toSelector? : SelectorDraft → Option Selector
  | .node (some id) none none none none => some (.matchTenant id)
  | .node none (some label) none none none => some (.matchLabel label.name label.value)
  | .node none none (some children) none none => (toSelectors? children).map .allOf
  | .node none none none (some children) none => (toSelectors? children).map .anyOf
  | .node none none none none (some child) => (toSelector? child).map .negation
  | _ => none

/-- The selectors that drafts spell, if all of them do. -/
def toSelectors? : List SelectorDraft → Option (List Selector)
  | [] => some []
  | child :: rest =>
      match toSelector? child, toSelectors? rest with
      | some selector, some selectors => some (selector :: selectors)
      | _, _ => none

end

mutual

def ofSelector : Selector → SelectorDraft
  | .matchTenant id => .node (some id) none none none none
  | .matchLabel name value => .node none (some ⟨name, value⟩) none none none
  | .allOf children => .node none none (some (ofSelectors children)) none none
  | .anyOf children => .node none none none (some (ofSelectors children)) none
  | .negation child => .node none none none none (some (ofSelector child))

/-- The drafts that spell selectors, one after the other. -/
def ofSelectors : List Selector → List SelectorDraft
  | [] => []
  | child :: rest => ofSelector child :: ofSelectors rest

end

end SelectorDraft

/-- The errors of a reference to a target in the list at `path`. -/
def RuleDraft.targetErrors (path : FieldPath) (target : ObjectKey) : List FieldError :=
  reportIf (target.name = "") (.required (path.field "name") "name may not be empty") ++
    reportIf (target.scope = "") (.required (path.field "namespace") "namespace may not be empty")

/-- The errors that `check` finds in the items of the list at `path`. -/
def itemErrors {α : Type} (check : FieldPath → α → List FieldError) (path : FieldPath)
    (items : List α) : List FieldError :=
  items.zipIdx.flatMap fun (item, position) => check (path.item position) item

namespace RuleDraft

/-- The errors of a rule at `path`: the priority is not negative, there is a target, every target
has a name and a namespace, and the selectors have no errors. -/
def errors (path : FieldPath) (rule : RuleDraft) : List FieldError :=
  reportIf (rule.priority < 0)
    (.invalid (path.field "priority") (toString rule.priority)
      "priority must be an integer >= 0") ++
  reportIf rule.targets.isEmpty
    (.required (path.field "targets") "at least one target reference is required") ++
  itemErrors targetErrors (path.field "targets") rule.targets ++
  itemErrors SelectorDraft.errors (path.field "selectors") rule.selectors

/-- The rule that a draft spells, if its selectors are well formed. -/
def toRule? (rule : RuleDraft) : Option SchedulingRule :=
  (SelectorDraft.toSelectors? rule.selectors).map fun selectors =>
    ⟨rule.priority, rule.targets, selectors⟩

def ofRule (rule : SchedulingRule) : RuleDraft :=
  ⟨rule.priority, rule.targets, SelectorDraft.ofSelectors rule.selectors⟩

end RuleDraft

namespace SchedulingDraft

def rulesPath : FieldPath := FieldPath.spec.field "rules"

def errors (draft : SchedulingDraft) : List FieldError :=
  reportIf (draft.metadata.name = "")
    (.required (FieldPath.metadata.field "name") "name may not be empty") ++
  itemErrors RuleDraft.errors rulesPath draft.spec.rules

/-- The scheduling object that a document spells; any error in it refuses the whole document. -/
def toScheduling (draft : SchedulingDraft) : Except (List FieldError) Scheduling :=
  match draft.errors with
  | [] =>
      match draft.spec.rules.mapM RuleDraft.toRule? with
      | some rules => .ok ⟨draft.metadata, ⟨rules⟩, ()⟩
      | none => .error [.invalid rulesPath "selector" "malformed selector"]
  | errors => .error errors

/-- The document that spells a scheduling object. -/
def ofScheduling (scheduling : Scheduling) : SchedulingDraft :=
  ⟨scheduling.metadata, ⟨scheduling.spec.rules.map RuleDraft.ofRule⟩⟩

end SchedulingDraft

end TenantFleet
