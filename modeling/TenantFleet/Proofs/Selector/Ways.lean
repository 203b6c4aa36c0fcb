import Mathlib.Data.List.Lex
import TenantFleet.Proofs.Selector.Nodes
import TenantFleet.Proofs.Store.Index

/-!
# Ways through a selector draft

A way leads from the root of a draft down to one of its nodes, or to a text of a
test, by the turns that are taken.  The path of what it leads to is the path of
the root with the turns written behind it.  No turn is written like the
beginning of another one, so the text of one path begins with that of another
only where the way does, and different ways have paths of different texts.  The
order of ways is the order in which a document shows what they lead to.
-/

namespace TenantFleet

namespace SelectorDraft

/-- A turn from a node to a text of one of its tests, or to one of its children: by the place that
holds the child and, where the place is a list, by the position in there. -/
inductive Turn where
  | tenantId
  | labelName
  | labelValue
  | conjunct (position : Nat)
  | disjunct (position : Nat)
  | negated
deriving DecidableEq, Repr

namespace Turn

/-- The path of what the turn leads to, when `path` is that of the node. -/
def onto (path : FieldPath) : Turn → FieldPath
  | .tenantId => (path.field "matchTenant").field "id"
  | .labelName => (path.field "matchLabel").field "name"
  | .labelValue => (path.field "matchLabel").field "value"
  | .conjunct position => (path.field "and").item position
  | .disjunct position => (path.field "or").item position
  | .negated => path.field "not"

/-- The turn as paths show it. -/
def text : Turn → String
  | .tenantId => "matchTenant.id"
  | .labelName => "matchLabel.name"
  | .labelValue => "matchLabel.value"
  | .conjunct position => "and[" ++ toString position ++ "]"
  | .disjunct position => "or[" ++ toString position ++ "]"
  | .negated => "not"

theorem text_ne_empty (turn : Turn) : turn.text ≠ "" := by
  cases turn <;> simp [text]

theorem text_onto (path : FieldPath) (turn : Turn) :
    (turn.onto path).text =
      if path.text = "" then turn.text else path.text ++ "." ++ turn.text := by
  apply String.toList_inj.1
  cases turn <;> by_cases isRoot : path.text = "" <;> simp [onto, FieldPath.text, text, isRoot]

/-- The digits of a position end at the bracket. -/
theorem position_eq_of_begins {first second : Nat}
    (begins : Nat.toDigits 10 first ++ [']'] <+: Nat.toDigits 10 second ++ [']']) :
    first = second := by
  have bracketFree (position : Nat) : ']' ∉ Nat.toDigits 10 position := fun bracketMem =>
    absurd (Nat.isDigit_of_mem_toDigits (by decide) (by decide) bracketMem) (by decide)
  obtain ⟨rest, whole⟩ := begins
  rw [List.append_assoc] at whole
  have sameDigits : Nat.toDigits 10 first = Nat.toDigits 10 second :=
    (parts_eq_of_append_eq (bracketFree first) (bracketFree second) whole).1
  calc first = Nat.ofDigitChars 10 (Nat.toDigits 10 first) 0 :=
        Nat.ofDigitChars_ten_toDigits.symm
    _ = Nat.ofDigitChars 10 (Nat.toDigits 10 second) 0 := by rw [sameDigits]
    _ = second := Nat.ofDigitChars_ten_toDigits

/-- No turn is written like the beginning of another. -/
theorem eq_of_begins {first second : Turn} (begins : first.text.toList <+: second.text.toList) :
    first = second := by
  cases first <;> cases second
  case conjunct.conjunct first second | disjunct.disjunct first second =>
    exact congrArg _ (position_eq_of_begins (by simpa [text] using begins))
  all_goals simp [text] at begins ⊢

theorem eq_of_append_begins {first second : Turn} {rest others : List Char}
    (begins : first.text.toList ++ rest <+: second.text.toList ++ others) : first = second := by
  have firstBegins := (List.prefix_append first.text.toList rest).trans begins
  have secondBegins := List.prefix_append second.text.toList others
  rcases Nat.le_total first.text.toList.length second.text.toList.length with shorter | longer
  · exact eq_of_begins (List.prefix_of_prefix_length_le firstBegins secondBegins shorter)
  · exact (eq_of_begins (List.prefix_of_prefix_length_le secondBegins firstBegins longer)).symm

/-- Which of the texts and places of a node the turn begins with, in the order in which documents
list them. -/
def rank : Turn → Nat
  | .tenantId => 0
  | .labelName => 1
  | .labelValue => 2
  | .conjunct _ => 3
  | .disjunct _ => 4
  | .negated => 5

/-- The position of the child in its place. -/
def position : Turn → Nat
  | .conjunct position | .disjunct position => position
  | .tenantId | .labelName | .labelValue | .negated => 0

/-- What the first turn leads to stands before what the second one leads to. -/
def Before (first second : Turn) : Prop :=
  first.rank < second.rank ∨ first.rank = second.rank ∧ first.position < second.position

theorem before_irrefl (turn : Turn) : ¬ turn.Before turn := by
  simp [Before]

end Turn

/-- In the order of a document a node comes before all that it holds. -/
def StandsBefore : List Turn → List Turn → Prop :=
  List.Lex Turn.Before

theorem standsBefore_irrefl (way : List Turn) : ¬ StandsBefore way way :=
  List.lex_irrefl Turn.before_irrefl way

/-- The turns as paths show them, one after the other. -/
def trail (way : List Turn) : List Char :=
  way.flatMap fun turn => '.' :: turn.text.toList

@[simp]
theorem trail_nil : trail [] = [] := rfl

@[simp]
theorem trail_cons (turn : Turn) (way : List Turn) :
    trail (turn :: way) = '.' :: (turn.text.toList ++ trail way) := by
  simp [trail]

theorem trail_prefix_iff {first second : List Turn} :
    trail first <+: trail second ↔ first <+: second := by
  induction first generalizing second with
  | nil => simp
  | cons turn rest ih =>
      cases second with
      | nil => simp
      | cons other others =>
          rw [trail_cons, trail_cons, List.cons_prefix_cons, List.cons_prefix_cons]
          constructor
          · rintro ⟨-, begins⟩
            obtain rfl := Turn.eq_of_append_begins begins
            exact ⟨rfl, ih.1 ((List.prefix_append_right_inj _).1 begins)⟩
          · rintro ⟨rfl, begins⟩
            exact ⟨rfl, (List.prefix_append_right_inj _).2 (ih.2 begins)⟩

/-- The same without the dot in front. -/
theorem tail_trail_prefix_iff {first second : List Turn} :
    (trail first).tail <+: (trail second).tail ↔ first <+: second := by
  rw [← trail_prefix_iff]
  cases first with
  | nil => simp
  | cons turn rest =>
      cases second with
      | nil => simp [Turn.text_ne_empty]
      | cons other others => simp

end SelectorDraft

namespace FieldPath

open SelectorDraft

variable {path : FieldPath} {first second : List Turn}

/-- The path of what the way leads to, when `path` is that of the root. -/
def along (path : FieldPath) (way : List Turn) : FieldPath :=
  way.foldl Turn.onto path

@[simp]
theorem along_nil : path.along [] = path := rfl

@[simp]
theorem along_cons (turn : Turn) (way : List Turn) :
    path.along (turn :: way) = (turn.onto path).along way := rfl

theorem along_append (way rest : List Turn) :
    path.along (way ++ rest) = (path.along way).along rest :=
  List.foldl_append

theorem toList_text_along (path : FieldPath) (way : List Turn) :
    (path.along way).text.toList =
      if path.text = "" then (trail way).tail else path.text.toList ++ trail way := by
  induction way generalizing path with
  | nil => by_cases isRoot : path.text = "" <;> simp [isRoot]
  | cons turn way ih =>
      have shown : (turn.onto path).text ≠ "" := by
        rw [Turn.text_onto]
        split <;> simp [turn.text_ne_empty]
      rw [along_cons, ih, if_neg shown, Turn.text_onto, trail_cons]
      split <;> simp

/-- The text of a path begins with that of another just if the way does. -/
theorem beginsWith_text_along_iff :
    beginsWith (path.along first).text (path.along second).text = true ↔ first <+: second := by
  rw [beginsWith, List.isPrefixOf_iff_prefix, toList_text_along, toList_text_along]
  split
  · exact tail_trail_prefix_iff
  · rw [List.prefix_append_right_inj]
    exact trail_prefix_iff

theorem begins_of_text_along_eq
    (sameText : (path.along first).text = (path.along second).text) : first <+: second := by
  have begins : beginsWith (path.along first).text (path.along second).text = true := by
    rw [sameText]
    exact beginsWith_text_along_iff.2 List.prefix_rfl
  exact beginsWith_text_along_iff.1 begins

/-- Different ways have paths of different texts. -/
theorem text_along_injective (path : FieldPath) :
    Function.Injective fun way => (path.along way).text := by
  intro first second sameText
  have begins : first <+: second := begins_of_text_along_eq sameText
  have covers : second <+: first := begins_of_text_along_eq sameText.symm
  exact begins.eq_of_length_le covers.length_le

end FieldPath

namespace SelectorDraft

variable {draft node child : SelectorDraft} {turn : Turn} {way : List Turn}

/-- The child that the turn leads to. -/
def child? : SelectorDraft → Turn → Option SelectorDraft
  | .node _ _ allOf _ _, .conjunct position => (allOf.getD [])[position]?
  | .node _ _ _ anyOf _, .disjunct position => (anyOf.getD [])[position]?
  | .node _ _ _ _ negation, .negated => negation
  | _, .tenantId | _, .labelName | _, .labelValue => none

theorem mem_children_of_child? (isChild : draft.child? turn = some child) :
    child ∈ draft.children := by
  obtain ⟨matchTenant, matchLabel, allOf, anyOf, negation⟩ := draft
  simp only [children, List.mem_append]
  cases turn with
  | conjunct position => exact .inl (.inl (List.mem_of_getElem? isChild))
  | disjunct position => exact .inl (.inr (List.mem_of_getElem? isChild))
  | negated => exact .inr (Option.mem_toList.2 isChild)
  | tenantId | labelName | labelValue => simp [child?] at isChild

/-- The node that the way leads to. -/
def node? (draft : SelectorDraft) : List Turn → Option SelectorDraft
  | [] => some draft
  | turn :: way => (draft.child? turn).bind fun child => child.node? way

/-- The way leads to the node, and every node above it fills in exactly one place. -/
structure IsReached (draft : SelectorDraft) (way : List Turn) (node : SelectorDraft) : Prop where
  isFound : draft.node? way = some node
  single : ∀ above, above <+: way → above ≠ way → ∀ ancestor, draft.node? above = some ancestor →
    ancestor.filled = 1

theorem isReached_nil : draft.IsReached [] node ↔ node = draft := by
  constructor
  · intro reached
    exact (Option.some.inj reached.isFound).symm
  · rintro rfl
    exact ⟨rfl, fun above begins proper => absurd (List.prefix_nil.1 begins) proper⟩

theorem isReached_cons :
    draft.IsReached (turn :: way) node ↔
      draft.filled = 1 ∧ ∃ child, draft.child? turn = some child ∧ child.IsReached way node := by
  constructor
  · intro reached
    obtain ⟨child, isChild, isFound⟩ := Option.bind_eq_some_iff.1 reached.isFound
    refine ⟨reached.single [] List.nil_prefix (by simp) draft rfl, child, isChild, isFound, ?_⟩
    intro above begins proper ancestor isAncestor
    exact reached.single (turn :: above) (List.cons_prefix_cons.2 ⟨rfl, begins⟩) (by simpa)
      ancestor (by simpa [node?, isChild])
  · rintro ⟨single, child, isChild, reached⟩
    refine ⟨by simpa [node?, isChild] using reached.isFound, ?_⟩
    intro above begins proper ancestor isAncestor
    cases above with
    | nil => exact Option.some.inj isAncestor ▸ single
    | cons first above =>
        obtain ⟨rfl, beginsBelow⟩ := List.cons_prefix_cons.1 begins
        exact reached.single above beginsBelow (by simpa using proper) ancestor
          (by simpa [node?, isChild] using isAncestor)

end SelectorDraft

end TenantFleet
