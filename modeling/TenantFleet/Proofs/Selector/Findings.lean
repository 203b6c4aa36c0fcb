import Mathlib.Data.List.Nodup
import TenantFleet.Proofs.Selector.Review
import TenantFleet.Proofs.Selector.Ways

/-!
# What the review finds in a selector draft

The review goes down from the root through nodes that fill in exactly one place.
It stops at a node that does not, and says so of that node; in the tests that it
comes to it finds the texts that are empty.  Main statement: the errors are
exactly these, one for each, in the order of the document, and their paths lead
to different texts.
-/

namespace TenantFleet.SelectorDraft

variable {path : FieldPath} {draft node child : SelectorDraft} {turn : Turn}
  {way rest later : List Turn} {error other : FieldError}

/-- A text that a test may not leave empty: the turn to it, and what is said when it is empty. -/
structure RequiredText where
  turn : Turn
  text : String
  detail : String

/-- The texts that the node asks for: those of its test, where it is nothing but a test. -/
def requiredTexts : SelectorDraft → List RequiredText
  | .node (some id) none none none none => [⟨.tenantId, id, "tenant id may not be empty"⟩]
  | .node none (some label) none none none =>
      [⟨.labelName, label.name, "label name may not be empty"⟩,
        ⟨.labelValue, label.value, "label value may not be empty"⟩]
  | _ => []

/-- The children of the node with the turns to them. -/
def branches : SelectorDraft → List (Turn × SelectorDraft)
  | .node _ _ allOf anyOf negation =>
      (allOf.getD []).zipIdx.map (fun (child, position) => (.conjunct position, child)) ++
        (anyOf.getD []).zipIdx.map (fun (child, position) => (.disjunct position, child)) ++
        negation.toList.map fun child => (.negated, child)

theorem mem_branches_iff : (turn, child) ∈ draft.branches ↔ draft.child? turn = some child := by
  obtain ⟨matchTenant, matchLabel, allOf, anyOf, negation⟩ := draft
  cases turn <;> simp [branches, child?, List.mk_mem_zipIdx_iff_getElem?]

theorem pairwise_zipIdx (drafts : List SelectorDraft) :
    drafts.zipIdx.Pairwise fun first second => first.2 < second.2 := by
  have positions : (drafts.zipIdx.map Prod.snd).Pairwise (· < ·) := by
    rw [List.zipIdx_map_snd]
    exact List.pairwise_lt_range'
  exact List.pairwise_map.1 positions

theorem pairwise_branches (draft : SelectorDraft) :
    draft.branches.Pairwise fun first second => first.1.Before second.1 := by
  obtain ⟨matchTenant, matchLabel, allOf, anyOf, negation⟩ := draft
  simp only [branches, List.pairwise_append, List.pairwise_map]
  refine ⟨⟨(pairwise_zipIdx _).imp fun less => .inr ⟨rfl, less⟩,
    (pairwise_zipIdx _).imp fun less => .inr ⟨rfl, less⟩, ?_⟩, ?_, ?_⟩
  · intro first firstMem second secondMem
    obtain ⟨_, -, rfl⟩ := List.mem_map.1 firstMem
    obtain ⟨_, -, rfl⟩ := List.mem_map.1 secondMem
    exact .inl (by decide : 3 < 4)
  · cases negation <;> simp
  · intro first firstMem second secondMem
    obtain ⟨_, -, rfl⟩ := List.mem_map.1 secondMem
    rcases List.mem_append.1 firstMem with inAll | inAny
    · obtain ⟨_, -, rfl⟩ := List.mem_map.1 inAll
      exact .inl (by decide : 3 < 5)
    · obtain ⟨_, -, rfl⟩ := List.mem_map.1 inAny
      exact .inl (by decide : 4 < 5)

theorem filled_of_mem_requiredTexts {required : RequiredText}
    (asked : required ∈ draft.requiredTexts) : draft.filled = 1 := by
  unfold requiredTexts at asked
  split at asked
  · rfl
  · rfl
  · contradiction

theorem rank_of_mem_requiredTexts {required : RequiredText}
    (asked : required ∈ draft.requiredTexts) : required.turn.rank < 3 := by
  unfold requiredTexts at asked
  split at asked
  · simp_all [Turn.rank]
  · rcases List.mem_pair.1 asked with rfl | rfl <;> simp [Turn.rank]
  · contradiction

theorem rank_of_child? (isChild : draft.child? turn = some child) : 3 ≤ turn.rank := by
  cases turn <;> simp_all [child?, Turn.rank]

theorem child?_of_mem_requiredTexts {required : RequiredText}
    (asked : required ∈ draft.requiredTexts) : draft.child? required.turn ≠ some child := by
  intro isChild
  have := rank_of_mem_requiredTexts asked
  have := rank_of_child? isChild
  omega

/-- The texts of a test come in the order of the document. -/
theorem pairwise_requiredTexts (draft : SelectorDraft) :
    draft.requiredTexts.Pairwise fun first second => first.turn.Before second.turn := by
  unfold requiredTexts
  split <;> simp [Turn.Before, Turn.rank]

theorem errorsFrom_eq (path : FieldPath) (position : Nat) (drafts : List SelectorDraft) :
    errorsFrom path position drafts =
      (drafts.zipIdx position).flatMap fun (child, index) => child.errors (path.item index) := by
  induction drafts generalizing position with
  | nil => rfl
  | cons child rest ih => simp [errorsFrom, ih]

/-- The errors of a node that fills in one place are those of its test and of its children. -/
theorem errors_of_filled_eq_one (single : draft.filled = 1) :
    draft.errors path =
      (draft.requiredTexts.filter (·.text = "")).map
          (fun required => .required (required.turn.onto path) required.detail) ++
        draft.branches.flatMap fun branch => branch.2.errors (branch.1.onto path) := by
  obtain ⟨id, rfl⟩ | ⟨label, rfl⟩ | ⟨drafts, rfl⟩ | ⟨drafts, rfl⟩ | ⟨child, rfl⟩ :=
    forms_of_filled_eq_one single
  · by_cases empty : id = "" <;>
      simp [errors, tenantErrors, requiredTexts, branches, reportIf, Turn.onto, empty]
  · by_cases unnamed : label.name = "" <;> by_cases unvalued : label.value = "" <;>
      simp [errors, labelErrors, requiredTexts, branches, reportIf, Turn.onto, unnamed, unvalued]
  · simp [errors, errorsFrom_eq, requiredTexts, branches, Turn.onto, List.flatMap_map]
  · simp [errors, errorsFrom_eq, requiredTexts, branches, Turn.onto, List.flatMap_map]
  · simp [errors, requiredTexts, branches, Turn.onto]

/-- The error is to be reported of the node that the way leads to, or of the text. -/
inductive IsDue : FieldPath → SelectorDraft → List Turn → FieldError → Prop where
  | miscounted {path : FieldPath} {draft : SelectorDraft} (miscounted : draft.filled ≠ 1) :
      IsDue path draft [] (miscountError path draft.filled)
  | missing {path : FieldPath} {draft : SelectorDraft} {required : RequiredText}
      (asked : required ∈ draft.requiredTexts) (isEmpty : required.text = "") :
      IsDue path draft [required.turn] (.required (required.turn.onto path) required.detail)
  | deeper {path : FieldPath} {draft child : SelectorDraft} {turn : Turn} {way : List Turn}
      {error : FieldError} (single : draft.filled = 1) (isChild : draft.child? turn = some child)
      (isDue : IsDue (turn.onto path) child way error) : IsDue path draft (turn :: way) error

theorem IsDue.path_eq (isDue : IsDue path draft way error) : error.path = path.along way := by
  induction isDue with
  | miscounted => rfl
  | missing => rfl
  | deeper _ _ _ ih => exact ih

/-- Nothing is due below a node or a text of which an error is due. -/
theorem IsDue.eq_of_begins (isDue : IsDue path draft way error)
    (isDueToo : IsDue path draft later other) (begins : way <+: later) : way = later := by
  induction isDue generalizing later with
  | miscounted miscounted =>
      cases isDueToo with
      | miscounted => rfl
      | missing asked => exact absurd (filled_of_mem_requiredTexts asked) miscounted
      | deeper single => exact absurd single miscounted
  | missing asked =>
      cases isDueToo with
      | miscounted => simp at begins
      | missing => exact begins.eq_of_length rfl
      | deeper _ isChild =>
          obtain ⟨rfl, -⟩ := List.cons_prefix_cons.1 begins
          exact absurd isChild (child?_of_mem_requiredTexts asked)
  | deeper single isChild _ ih =>
      cases isDueToo with
      | miscounted => simp at begins
      | missing asked =>
          obtain ⟨rfl, -⟩ := List.cons_prefix_cons.1 begins
          exact absurd isChild (child?_of_mem_requiredTexts asked)
      | deeper _ isChildToo isDueBelow =>
          obtain ⟨rfl, beginsBelow⟩ := List.cons_prefix_cons.1 begins
          obtain rfl := Option.some.inj (isChild.symm.trans isChildToo)
          rw [ih isDueBelow beginsBelow]

theorem isDue_cons_iff (single : draft.filled = 1) (isChild : draft.child? turn = some child) :
    IsDue path draft (turn :: way) error ↔ IsDue (turn.onto path) child way error := by
  constructor
  · intro isDue
    cases isDue with
    | missing asked => exact absurd isChild (child?_of_mem_requiredTexts asked)
    | deeper _ isChildToo isDue =>
        obtain rfl := Option.some.inj (isChild.symm.trans isChildToo)
        exact isDue
  · exact .deeper single isChild

/-- What is due where there is no child is that a text is missing. -/
theorem IsDue.exists_missing (isDue : IsDue path draft [turn] error)
    (childless : draft.child? turn = none) :
    ∃ required ∈ draft.requiredTexts, required.turn = turn ∧ required.text = "" := by
  cases isDue with
  | missing asked isEmpty => exact ⟨_, asked, rfl, isEmpty⟩
  | deeper _ isChild => simp [childless] at isChild

/-- What is due at or below a node that is reached is what is due in the node itself. -/
theorem IsReached.isDue_append_iff (reached : draft.IsReached way node) :
    IsDue path draft (way ++ rest) error ↔ IsDue (path.along way) node rest error := by
  induction way generalizing path draft with
  | nil =>
      obtain rfl := isReached_nil.1 reached
      rfl
  | cons turn way ih =>
      obtain ⟨single, child, isChild, reachedBelow⟩ := isReached_cons.1 reached
      rw [List.cons_append, isDue_cons_iff single isChild, FieldPath.along_cons, ih reachedBelow]

/-- Every error that is due is that of a node that is reached, or of an empty text of one. -/
theorem IsDue.exists_reached (isDue : IsDue path draft way error) :
    ∃ above node, draft.IsReached above node ∧
      (node.filled ≠ 1 ∧ error = miscountError (path.along above) node.filled ∨
        ∃ required ∈ node.requiredTexts, required.text = "" ∧
          error = .required (path.along (above ++ [required.turn])) required.detail) := by
  induction isDue with
  | @miscounted path draft miscounted =>
      exact ⟨[], draft, isReached_nil.2 rfl, .inl ⟨miscounted, rfl⟩⟩
  | @missing path draft required asked isEmpty =>
      exact ⟨[], draft, isReached_nil.2 rfl, .inr ⟨required, asked, isEmpty, rfl⟩⟩
  | deeper single isChild _ ih =>
      obtain ⟨above, node, reached, said⟩ := ih
      exact ⟨_ :: above, node, isReached_cons.2 ⟨single, _, isChild, reached⟩, said⟩

theorem mem_errors_of_isDue (isDue : IsDue path draft way error) :
    error ∈ draft.errors path := by
  induction isDue with
  | miscounted miscounted =>
      rw [errors_of_filled_ne_one miscounted]
      exact List.mem_singleton_self _
  | missing asked isEmpty =>
      rw [errors_of_filled_eq_one (filled_of_mem_requiredTexts asked), List.mem_append,
        List.mem_map]
      exact .inl ⟨_, List.mem_filter.2 ⟨asked, by simpa using isEmpty⟩, rfl⟩
  | deeper single isChild _ ih =>
      rw [errors_of_filled_eq_one single, List.mem_append, List.mem_flatMap]
      exact .inr ⟨(_, _), mem_branches_iff.2 isChild, ih⟩

theorem exists_isDue_of_mem_errors (reported : error ∈ draft.errors path) :
    ∃ way, IsDue path draft way error := by
  induction draft using inherits generalizing path with
  | step draft ih =>
      by_cases single : draft.filled = 1
      · rw [errors_of_filled_eq_one single, List.mem_append, List.mem_map, List.mem_flatMap]
          at reported
        rcases reported with ⟨required, isMissing, rfl⟩ | ⟨⟨turn, child⟩, isBranch, below⟩
        · obtain ⟨asked, isEmpty⟩ := List.mem_filter.1 isMissing
          exact ⟨_, .missing asked (by simpa using isEmpty)⟩
        · have isChild := mem_branches_iff.1 isBranch
          obtain ⟨way, isDue⟩ := ih child (mem_children_of_child? isChild) below
          exact ⟨turn :: way, .deeper single isChild isDue⟩
      · rw [errors_of_filled_ne_one single, List.mem_singleton] at reported
        exact ⟨[], reported ▸ .miscounted single⟩

/-- The errors are due, the first one earlier in the document than the second. -/
def AreInOrder (path : FieldPath) (draft : SelectorDraft) (first second : FieldError) : Prop :=
  ∃ earlier later, IsDue path draft earlier first ∧ IsDue path draft later second ∧
    StandsBefore earlier later

theorem AreInOrder.deeper {first second : FieldError} (single : draft.filled = 1)
    (isChild : draft.child? turn = some child)
    (inOrder : AreInOrder (turn.onto path) child first second) :
    AreInOrder path draft first second := by
  obtain ⟨earlier, later, firstDue, secondDue, before⟩ := inOrder
  exact ⟨turn :: earlier, turn :: later, .deeper single isChild firstDue,
    .deeper single isChild secondDue, .cons before⟩

/-- The errors come in the order of the document. -/
theorem pairwise_errors (path : FieldPath) (draft : SelectorDraft) :
    (draft.errors path).Pairwise (AreInOrder path draft) := by
  induction draft using inherits generalizing path with
  | step draft ih =>
      by_cases single : draft.filled = 1
      · rw [errors_of_filled_eq_one single, List.pairwise_append, List.pairwise_map,
          List.pairwise_flatMap]
        refine ⟨?texts, ⟨?inside, ?across⟩, ?between⟩
        case texts =>
          refine ((pairwise_requiredTexts draft).filter _).imp_of_mem ?_
          intro first second firstMem secondMem before
          obtain ⟨firstAsked, firstEmpty⟩ := List.mem_filter.1 firstMem
          obtain ⟨secondAsked, secondEmpty⟩ := List.mem_filter.1 secondMem
          exact ⟨_, _, .missing firstAsked (by simpa using firstEmpty),
            .missing secondAsked (by simpa using secondEmpty), .rel before⟩
        case inside =>
          rintro ⟨turn, child⟩ isBranch
          have isChild := mem_branches_iff.1 isBranch
          exact (ih child (mem_children_of_child? isChild) _).imp (.deeper single isChild)
        case across =>
          refine (pairwise_branches draft).imp_of_mem ?_
          rintro ⟨turn, child⟩ ⟨otherTurn, otherChild⟩ isBranch isBranchToo before first firstMem
            second secondMem
          obtain ⟨earlier, firstDue⟩ := exists_isDue_of_mem_errors firstMem
          obtain ⟨later, secondDue⟩ := exists_isDue_of_mem_errors secondMem
          exact ⟨_, _, .deeper single (mem_branches_iff.1 isBranch) firstDue,
            .deeper single (mem_branches_iff.1 isBranchToo) secondDue, .rel before⟩
        case between =>
          intro first firstMem second secondMem
          obtain ⟨required, isMissing, rfl⟩ := List.mem_map.1 firstMem
          obtain ⟨asked, isEmpty⟩ := List.mem_filter.1 isMissing
          obtain ⟨⟨turn, child⟩, isBranch, below⟩ := List.mem_flatMap.1 secondMem
          have isChild := mem_branches_iff.1 isBranch
          obtain ⟨later, isDue⟩ := exists_isDue_of_mem_errors below
          have before : required.turn.Before turn :=
            .inl (Nat.lt_of_lt_of_le (rank_of_mem_requiredTexts asked) (rank_of_child? isChild))
          exact ⟨_, _, .missing asked (by simpa using isEmpty), .deeper single isChild isDue,
            .rel before⟩
      · rw [errors_of_filled_ne_one single]
        exact List.pairwise_singleton _ _

/-- No two errors have paths of one text. -/
theorem nodup_path_texts (path : FieldPath) (draft : SelectorDraft) :
    ((draft.errors path).map fun error => error.path.text).Nodup := by
  rw [List.Nodup, List.pairwise_map]
  refine (pairwise_errors path draft).imp ?_
  rintro first second ⟨earlier, later, firstDue, secondDue, before⟩ sameText
  rw [firstDue.path_eq, secondDue.path_eq] at sameText
  obtain rfl := path.text_along_injective sameText
  exact standsBefore_irrefl earlier before

/-- An error that is due is the only one whose path begins like its own. -/
theorem IsDue.filter_eq (isDue : IsDue path draft way error) {isAsked : FieldError → Bool}
    (asked : isAsked error = true)
    (begins : ∀ other, isAsked other = true →
      beginsWith error.path.text other.path.text = true) :
    (draft.errors path).filter isAsked = [error] := by
  have reported := mem_errors_of_isDue isDue
  have isOnly : ∀ other ∈ draft.errors path, isAsked other = decide (other = error) := by
    intro other reportedToo
    obtain ⟨later, isDueToo⟩ := exists_isDue_of_mem_errors reportedToo
    rw [Bool.eq_iff_iff, decide_eq_true_iff]
    refine ⟨fun askedToo => ?_, fun same => same ▸ asked⟩
    have longer := begins other askedToo
    rw [isDue.path_eq, isDueToo.path_eq, FieldPath.beginsWith_text_along_iff] at longer
    have sameWay := isDue.eq_of_begins isDueToo longer
    have sameText : other.path.text = error.path.text := by
      rw [isDue.path_eq, isDueToo.path_eq, sameWay]
    exact List.inj_on_of_nodup_map (nodup_path_texts path draft) reportedToo reported sameText
  rw [List.filter_congr isOnly, List.filter_eq,
    List.count_eq_one_of_mem (nodup_path_texts path draft).of_map reported]
  rfl

theorem eq_of_mem_requiredTexts {first second : RequiredText}
    (firstAsked : first ∈ draft.requiredTexts) (secondAsked : second ∈ draft.requiredTexts)
    (sameTurn : first.turn = second.turn) : first = second := by
  have distinct : (draft.requiredTexts.map RequiredText.turn).Nodup := by
    unfold requiredTexts
    split <;> simp
  exact List.inj_on_of_nodup_map distinct firstAsked secondAsked sameTurn

/-- Of a node that is reached and does not fill in exactly one place there is one error, and none
of what is below it. -/
theorem IsReached.filter_of_miscounted (reached : draft.IsReached way node)
    (miscounted : node.filled ≠ 1) :
    (draft.errors path).filter
        (fun error => beginsWith (path.along way).text error.path.text) =
      [miscountError (path.along way) node.filled] := by
  have isDue : IsDue path draft (way ++ []) (miscountError (path.along way) node.filled) :=
    reached.isDue_append_iff.2 (.miscounted miscounted)
  refine isDue.filter_eq ?_ fun other begins => begins
  exact FieldPath.beginsWith_text_along_iff.2 List.prefix_rfl

/-- Of a text of a test that is reached there is one error if the text is empty, and else none. -/
theorem IsReached.filter_of_required (reached : draft.IsReached way node)
    {required : RequiredText} (asked : required ∈ node.requiredTexts) :
    (draft.errors path).filter
        (fun error => error.path.text = (path.along (way ++ [required.turn])).text) =
      reportIf (required.text = "")
        (.required (path.along (way ++ [required.turn])) required.detail) := by
  by_cases isEmpty : required.text = ""
  · have isDue : IsDue path draft (way ++ [required.turn])
        (.required (path.along (way ++ [required.turn])) required.detail) := by
      rw [FieldPath.along_append]
      exact reached.isDue_append_iff.2 (.missing asked isEmpty)
    simp only [isEmpty, decide_true, reportIf, if_true]
    refine isDue.filter_eq (decide_eq_true rfl) fun other sameText => ?_
    rw [of_decide_eq_true sameText]
    exact FieldPath.beginsWith_text_along_iff.2 List.prefix_rfl
  · simp only [isEmpty, decide_false, reportIf, Bool.false_eq_true, if_false,
      List.filter_eq_nil_iff, decide_eq_true_iff]
    intro error reported sameText
    obtain ⟨other, isDue⟩ := exists_isDue_of_mem_errors reported
    rw [isDue.path_eq] at sameText
    obtain rfl := path.text_along_injective sameText
    obtain ⟨missing, askedToo, sameTurn, isMissing⟩ :=
      (reached.isDue_append_iff.1 isDue).exists_missing
        (Option.eq_none_iff_forall_ne_some.2 fun _ => child?_of_mem_requiredTexts asked)
    rw [eq_of_mem_requiredTexts askedToo asked sameTurn] at isMissing
    exact isEmpty isMissing

/-- The errors of a selector draft point at what is wrong with it, and at nothing else.  Of a node
that does not fill in exactly one place, while all above it do, there is one error, and none of
what is below it; of each text of a test that is come to in this way there is one if the text is
empty; and there are no others.  They come in the order of the document, and no two of them have
paths of one text, since different ways have paths of different texts. -/
theorem errors_point_at_malformed_nodes (path : FieldPath) (draft : SelectorDraft) :
    (∀ way node, draft.IsReached way node → node.filled ≠ 1 →
      (draft.errors path).filter
          (fun error => beginsWith (path.along way).text error.path.text) =
        [miscountError (path.along way) node.filled]) ∧
    (∀ way node, draft.IsReached way node → ∀ required ∈ node.requiredTexts,
      (draft.errors path).filter
          (fun error => error.path.text = (path.along (way ++ [required.turn])).text) =
        reportIf (required.text = "")
          (.required (path.along (way ++ [required.turn])) required.detail)) ∧
    (∀ error ∈ draft.errors path, ∃ way node, draft.IsReached way node ∧
      (node.filled ≠ 1 ∧ error = miscountError (path.along way) node.filled ∨
        ∃ required ∈ node.requiredTexts, required.text = "" ∧
          error = .required (path.along (way ++ [required.turn])) required.detail)) ∧
    (draft.errors path).Pairwise (fun first second => ∃ earlier later,
      first.path = path.along earlier ∧ second.path = path.along later ∧
        StandsBefore earlier later) ∧
    ((draft.errors path).map fun error => error.path.text).Nodup ∧
    Function.Injective fun way => (path.along way).text := by
  refine ⟨fun way node reached => reached.filter_of_miscounted,
    fun way node reached required => reached.filter_of_required, ?_, ?_,
    nodup_path_texts path draft, path.text_along_injective⟩
  · intro error reported
    obtain ⟨way, isDue⟩ := exists_isDue_of_mem_errors reported
    exact isDue.exists_reached
  · refine (pairwise_errors path draft).imp ?_
    rintro first second ⟨earlier, later, firstDue, secondDue, before⟩
    exact ⟨earlier, later, firstDue.path_eq, secondDue.path_eq, before⟩

/-- A node with two places filled in, one of them by a list that begins with a blank one. -/
def overfull : SelectorDraft :=
  .node none none (some [blank]) none (some blank)

/-- Alternatives, of which the first is a test that says nothing. -/
def alternatives : SelectorDraft :=
  .node none none none
    (some [.node (some "") none none none none,
      .node none none none none (some (.node none none
        (some [.node none (some ⟨"tier", "gold"⟩) none none none, overfull]) none none))])
    none

theorem errors_point_at_malformed_nodes_when_overfull :
    let path : FieldPath := .root "selector"
    let way : List Turn := [.disjunct 1, .negated, .conjunct 1]
    (path.along way).text = "selector.or[1].not.and[1]" ∧
      alternatives.IsReached way overfull ∧ overfull.filled ≠ 1 ∧
      (alternatives.errors path).filter
          (fun error => beginsWith (path.along way).text error.path.text) =
        [miscountError (path.along way) 2] := by
  intro path way
  have reached : alternatives.IsReached way overfull := by
    simp [way, alternatives, isReached_cons, isReached_nil, child?, filled]
  refine ⟨by decide, reached, by decide, ?_⟩
  exact (errors_point_at_malformed_nodes path alternatives).1 way overfull reached (by decide)

end TenantFleet.SelectorDraft
