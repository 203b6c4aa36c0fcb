import TenantFleet.Object.Codec
import TenantFleet.Selector.Draft

/-!
# Scheduling drafts as JSON

How scheduling documents are written and read in the form that users give them.
A selector draft is a record with five places that may be missing or null.
-/

namespace TenantFleet

open Json

/-- A test of a label as a record. -/
def LabelMatch.toJson (label : LabelMatch) : Json :=
  .object [("name", .string label.name), ("value", .string label.value)]

/-- The test of a label that a record spells. -/
def LabelMatch.ofJson? (dialect : Dialect) (json : Json) : Option LabelMatch := do
  let entries ← json.record? dialect ["name", "value"]
  let name ← defaulted entries "name" "" text?
  let value ← defaulted entries "value" "" text?
  return { name, value }

namespace SelectorDraft

/-- The draft in which no place is filled in. -/
def blank : SelectorDraft := .node none none none none none

def places : List String := ["matchTenant", "matchLabel", "and", "or", "not"]

/-- The test of a tenant as a record. -/
def tenantToJson (id : String) : Json :=
  .object [("id", .string id)]

/-- The tenant that a record asks for. -/
def tenantOfJson? (dialect : Dialect) (json : Json) : Option String := do
  let entries ← json.record? dialect ["id"]
  defaulted entries "id" "" text?

mutual

/-- A draft as a record of the places that are filled in. -/
def toJson : SelectorDraft → Json
  | .node matchTenant matchLabel allOf anyOf negation =>
      .object (present "matchTenant" (matchTenant.map tenantToJson) ++
        present "matchLabel" (matchLabel.map LabelMatch.toJson) ++
        present "and" (listPlace allOf) ++
        present "or" (listPlace anyOf) ++
        present "not" (place negation))

def listPlace : Option (List SelectorDraft) → Option Json
  | none => none
  | some children => some (.array (listToJson children))

def place : Option SelectorDraft → Option Json
  | none => none
  | some child => some (toJson child)

/-- Drafts, one after the other. -/
def listToJson : List SelectorDraft → List Json
  | [] => []
  | child :: rest => toJson child :: listToJson rest

end

/-- The draft with one more place filled in from an entry; `asDraft` and `asList` read its value
as a draft and as a list of drafts.  Null leaves the place empty, and unknown entries are
ignored. -/
def fill (dialect : Dialect) (name : String) (value : Json)
    (asDraft : Unit → Option SelectorDraft) (asList : Unit → Option (List SelectorDraft)) :
    SelectorDraft → Option SelectorDraft
  | .node matchTenant matchLabel allOf anyOf negation =>
      match value with
      | .null => some (.node matchTenant matchLabel allOf anyOf negation)
      | _ =>
          if name = "matchTenant" then do
            return .node (some (← tenantOfJson? dialect value)) matchLabel allOf anyOf negation
          else if name = "matchLabel" then do
            let label ← LabelMatch.ofJson? dialect value
            return .node matchTenant (some label) allOf anyOf negation
          else if name = "and" then do
            return .node matchTenant matchLabel (some (← asList ())) anyOf negation
          else if name = "or" then do
            return .node matchTenant matchLabel allOf (some (← asList ())) negation
          else if name = "not" then do
            return .node matchTenant matchLabel allOf anyOf (some (← asDraft ()))
          else
            some (.node matchTenant matchLabel allOf anyOf negation)

mutual

/-- The draft that a record spells. -/
def ofJson? (dialect : Dialect) : Json → Option SelectorDraft
  | .object entries => if hasRepeated places entries then none else ofEntries? dialect entries
  | .array items =>
      if items.length ≤ places.length || dialect.extraItemsIgnored then
        ofItems? dialect places items
      else
        none
  | _ => none

def ofArray? (dialect : Dialect) : Json → Option (List SelectorDraft)
  | .array items => listOfJson? dialect items
  | _ => none

/-- The drafts that the items spell, one after the other. -/
def listOfJson? (dialect : Dialect) : List Json → Option (List SelectorDraft)
  | [] => some []
  | item :: rest => do
      let child ← ofJson? dialect item
      let children ← listOfJson? dialect rest
      return child :: children

def ofEntries? (dialect : Dialect) : List (String × Json) → Option SelectorDraft
  | [] => some blank
  | (name, value) :: rest => do
      let draft ← ofEntries? dialect rest
      fill dialect name value (fun _ => ofJson? dialect value)
        (fun _ => ofArray? dialect value) draft

/-- The draft whose places the items fill in, in the order of the given names. -/
def ofItems? (dialect : Dialect) : List String → List Json → Option SelectorDraft
  | name :: names, item :: rest => do
      let draft ← ofItems? dialect names rest
      fill dialect name item (fun _ => ofJson? dialect item)
        (fun _ => ofArray? dialect item) draft
  | _, _ => some blank

end

end SelectorDraft

def RuleDraft.toJson (rule : RuleDraft) : Json :=
  .object [("priority", .integer rule.priority),
    ("targets", .array (rule.targets.map ObjectKey.toJson)),
    ("selectors", .array (SelectorDraft.listToJson rule.selectors))]

def RuleDraft.ofJson? (dialect : Dialect) (json : Json) : Option RuleDraft := do
  let entries ← json.record? dialect ["priority", "targets", "selectors"]
  let priority ← defaulted entries "priority" 0 signed?
  let targets ← defaulted entries "targets" [] (list? (ObjectKey.ofJson? dialect))
  let selectors ← defaulted entries "selectors" [] (SelectorDraft.ofArray? dialect)
  return { priority, targets, selectors }

/-- The rules of a document as a record. -/
def RulesDraft.toJson (rules : RulesDraft) : Json :=
  .object [("rules", .array (rules.rules.map RuleDraft.toJson))]

/-- The rules of a document that a record spells. -/
def RulesDraft.ofJson? (dialect : Dialect) (json : Json) : Option RulesDraft := do
  let entries ← json.record? dialect ["rules"]
  let rules ← defaulted entries "rules" [] (list? (RuleDraft.ofJson? dialect))
  return { rules }

/-- A scheduling document as a record. -/
def SchedulingDraft.toJson (draft : SchedulingDraft) : Json :=
  .object [("metadata", draft.metadata.toJson), ("spec", draft.spec.toJson)]

/-- The scheduling document that a record spells. -/
def SchedulingDraft.ofJson? (dialect : Dialect) (json : Json) : Option SchedulingDraft := do
  let entries ← json.record? dialect ["metadata", "spec"]
  let metadata ← defaulted entries "metadata" {} (Metadata.ofJson? dialect)
  let spec ← defaulted entries "spec" {} (RulesDraft.ofJson? dialect)
  return { metadata, spec }

end TenantFleet
