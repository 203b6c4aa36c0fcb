import TenantFleet.Selector.Draft

/-!
# The nodes of a selector draft

A draft is a tree in which a node may have children in several of its places at
once.  A property of drafts holds of all of them if it holds of a node whenever it
holds of the node's children.  Where a node fills in exactly one place, it has one
of the five forms of a selector.
-/

namespace TenantFleet.SelectorDraft

/-- The drafts right below the node, in whatever place they stand. -/
def children : SelectorDraft → List SelectorDraft
  | .node _ _ allOf anyOf negation => allOf.getD [] ++ anyOf.getD [] ++ negation.toList

/-- A draft has itself and the nodes of its children as nodes. -/
inductive HasNode : SelectorDraft → SelectorDraft → Prop where
  | root (draft : SelectorDraft) : HasNode draft draft
  | deeper {draft child inner : SelectorDraft} (childMem : child ∈ draft.children)
      (inside : HasNode child inner) : HasNode draft inner

theorem forall_hasNode_iff {draft : SelectorDraft} {property : SelectorDraft → Prop} :
    (∀ inner, draft.HasNode inner → property inner) ↔
      property draft ∧ ∀ child ∈ draft.children, ∀ inner, child.HasNode inner → property inner := by
  constructor
  · intro all
    exact ⟨all draft (.root draft), fun child childMem inner inside =>
      all inner (.deeper childMem inside)⟩
  · rintro ⟨atRoot, inChildren⟩ inner inside
    cases inside with
    | root => exact atRoot
    | deeper childMem inside => exact inChildren _ childMem inner inside

theorem sizeOf_lt_of_mem_children {draft child : SelectorDraft}
    (childMem : child ∈ draft.children) : sizeOf child < sizeOf draft := by
  obtain ⟨matchTenant, matchLabel, allOf, anyOf, negation⟩ := draft
  simp only [children, List.mem_append, Option.mem_toList] at childMem
  rcases childMem with (inAll | inAny) | isNegated
  · cases allOf with
    | none => simp at inAll
    | some drafts =>
        have smaller := List.sizeOf_lt_of_mem inAll
        simp at smaller ⊢
        omega
  · cases anyOf with
    | none => simp at inAny
    | some drafts =>
        have smaller := List.sizeOf_lt_of_mem inAny
        simp at smaller ⊢
        omega
  · cases negation with
    | none => simp at isNegated
    | some other =>
        obtain rfl := Option.some.inj isNegated
        simp
        omega

/-- What a node inherits from its children holds of every draft. -/
theorem inherits {motive : SelectorDraft → Prop}
    (step : ∀ draft, (∀ child ∈ draft.children, motive child) → motive draft)
    (draft : SelectorDraft) : motive draft :=
  step draft fun child childMem =>
    have := sizeOf_lt_of_mem_children childMem
    inherits step child
termination_by sizeOf draft

/-- A node that fills in exactly one place has one of five forms. -/
theorem forms_of_filled_eq_one {draft : SelectorDraft} (single : draft.filled = 1) :
    (∃ id, draft = .node (some id) none none none none) ∨
      (∃ label, draft = .node none (some label) none none none) ∨
      (∃ drafts, draft = .node none none (some drafts) none none) ∨
      (∃ drafts, draft = .node none none none (some drafts) none) ∨
      ∃ child, draft = .node none none none none (some child) := by
  obtain ⟨matchTenant, matchLabel, allOf, anyOf, negation⟩ := draft
  cases matchTenant <;> cases matchLabel <;> cases allOf <;> cases anyOf <;> cases negation <;>
    simp_all [filled]

end TenantFleet.SelectorDraft
