import Mathlib.Data.List.Nodup
import TenantFleet.Proofs.Store.Requests

/-!
# What a resource version stands for

One counter serves the objects of all kinds.  In every history the versions are
issued in increasing order, and each stored object is the one that the write
with its version left; so a version names one content of one object for ever,
also when the object has gone and another has come under its key.  A change
that succeeds has therefore seen what it replaces.
-/

namespace TenantFleet

variable {kind : Kind}

/-- The issue on which a stored object rests. -/
def Issue.of (object : Object kind) : Issue :=
  ⟨kind, object.key, object.metadata.resourceVersion, some object⟩

namespace History

variable {history : History} {store : Store} {request : Request} {version : Nat}

/-- Versions are issued in increasing order, up to the counter, and every stored object rests on
one of the issues. -/
structure IsBacked (history : History) : Prop where
  increasing : history.issued.Pairwise fun earlier later => earlier.version < later.version
  counted : ∀ issue ∈ history.issued, issue.version ≤ history.store.lastVersion
  backed : ∀ kind, ∀ object ∈ history.store.list kind, Issue.of object ∈ history.issued

/-- An issue of the next version, on which all new objects rest. -/
theorem IsBacked.issue (isBacked : history.IsBacked) {issue : Issue}
    (isNext : issue.version = history.store.lastVersion + 1)
    (isCounted : store.lastVersion = history.store.lastVersion + 1)
    (stored : ∀ kind, ∀ object ∈ store.list kind,
      object ∈ history.store.list kind ∨ Issue.of object = issue) :
    IsBacked ⟨store, history.issued ++ [issue]⟩ where
  increasing := by
    refine List.pairwise_append.2 ⟨isBacked.increasing, List.pairwise_singleton _ _, ?_⟩
    intro earlier earlierMem later laterMem
    obtain rfl := List.mem_singleton.1 laterMem
    have bound := isBacked.counted earlier earlierMem
    omega
  counted := by
    intro other otherMem
    change other.version ≤ store.lastVersion
    rcases List.mem_append.1 otherMem with earlier | last
    · have bound := isBacked.counted other earlier
      omega
    · obtain rfl := List.mem_singleton.1 last
      omega
  backed := by
    intro kind object present
    rcases stored kind object present with before | new
    · exact List.mem_append_left _ (isBacked.backed kind object before)
    · exact List.mem_append_right _ (List.mem_singleton.2 new)

theorem IsBacked.change (isBacked : history.IsBacked) {issue : Option Issue}
    (change : history.store.Change request issue store) :
    IsBacked ⟨store, history.issued ++ issue.toList⟩ := by
  cases change with
  | idle => simpa using isBacked
  | @written kind previous next isPrevious isNext header =>
      refine isBacked.issue rfl rfl (Store.forall_mem_list_write ?_ ?_)
      · exact fun read object present => .inl present
      · exact .inr (by rw [Issue.of, isNext])
  | spent stored present key =>
      refine isBacked.issue rfl rfl fun read object remains => .inl ?_
      rw [Store.list_with_lastVersion] at remains
      exact Store.mem_list_of_mem_list_remove remains
  | purged stored present =>
      have sameIssues : history.issued ++ (none : Option Issue).toList = history.issued :=
        List.append_nil _
      rw [sameIssues]
      refine ⟨isBacked.increasing, ?_, ?_⟩
      · intro issue issueMem
        change issue.version ≤ (history.store.remove stored).lastVersion
        rw [Store.lastVersion_remove]
        exact isBacked.counted issue issueMem
      · intro read object remains
        exact isBacked.backed read object (Store.mem_list_of_mem_list_remove remains)

theorem isBacked_ofRequests (requests : List Request) : (ofRequests requests).IsBacked := by
  have start : IsBacked {} := by
    refine ⟨List.Pairwise.nil, fun _ issueMem => absurd issueMem List.not_mem_nil, ?_⟩
    intro kind object present
    rw [Store.list_empty] at present
    exact absurd present List.not_mem_nil
  refine foldl_induction IsBacked (fun _ => True) ?_ start fun _ _ => trivial
  intro history request _ isBacked issue store change
  exact isBacked.change change

theorem IsBacked.version_le (isBacked : history.IsBacked) {object : Object kind}
    (present : object ∈ history.store.list kind) :
    object.metadata.resourceVersion ≤ history.store.lastVersion :=
  isBacked.counted _ (isBacked.backed kind object present)

theorem IsBacked.issue_eq (isBacked : history.IsBacked) {first second : Issue}
    (firstMem : first ∈ history.issued) (secondMem : second ∈ history.issued)
    (sameVersion : first.version = second.version) : first = second := by
  have distinct : (history.issued.map Issue.version).Nodup :=
    List.pairwise_map.2 (isBacked.increasing.imp Nat.ne_of_lt)
  exact List.inj_on_of_nodup_map distinct firstMem secondMem sameVersion

/-- Stored objects of whatever kinds that bear one version are one object. -/
theorem IsBacked.object_eq (isBacked : history.IsBacked) {other : Kind} {first : Object kind}
    {second : Object other} (firstPresent : first ∈ history.store.list kind)
    (secondPresent : second ∈ history.store.list other)
    (sameVersion : first.metadata.resourceVersion = second.metadata.resourceVersion) :
    (⟨kind, first⟩ : Σ kind, Object kind) = ⟨other, second⟩ := by
  have sameIssue := isBacked.issue_eq (isBacked.backed kind first firstPresent)
    (isBacked.backed other second secondPresent) sameVersion
  rw [Issue.of, Issue.of, Issue.mk.injEq] at sameIssue
  obtain ⟨rfl, -, -, sameObject⟩ := sameIssue
  rw [Option.some.inj (eq_of_heq sameObject)]

end History

namespace Store

variable {store after : Store} {request : Request} {version : Nat}

/-- The version has been issued, and no stored object bears it. -/
def Retires (store : Store) (version : Nat) : Prop :=
  version ≤ store.lastVersion ∧
    ∀ kind, ∀ object ∈ store.list kind, object.metadata.resourceVersion ≠ version

/-- A version that has gone does not come back. -/
theorem Retires.change (retires : store.Retires version) {issue : Option Issue}
    (change : store.Change request issue after) : after.Retires version := by
  obtain ⟨counted, unborne⟩ := retires
  cases change with
  | idle => exact ⟨counted, unborne⟩
  | written previous next isPrevious isNext header =>
      have ofNext : next.metadata.resourceVersion ≠ version := by omega
      exact ⟨Nat.le_succ_of_le counted, forall_mem_list_write unborne ofNext⟩
  | spent stored present key =>
      refine ⟨Nat.le_succ_of_le counted, fun read object remains => ?_⟩
      rw [list_with_lastVersion] at remains
      exact unborne read object (mem_list_of_mem_list_remove remains)
  | purged stored present =>
      refine ⟨by rwa [lastVersion_remove], fun read object remains => ?_⟩
      exact unborne read object (mem_list_of_mem_list_remove remains)

/-- Nobody who has seen an object at a version that has gone can change it. -/
theorem Retires.refuses (retires : store.Retires version) (seen : request.seen? = some version) :
    ¬ request.Succeeds store := by
  rintro ⟨outcome, done⟩
  cases request with
  | create | delete => contradiction
  | update object =>
      obtain rfl := Option.some.inj seen
      obtain ⟨updated, isUpdated, -⟩ := exists_of_bind_eq_ok done
      obtain ⟨stored, found, sameVersion⟩ := find?_of_update isUpdated
      exact retires.2 _ stored (mem_list_of_find? found) sameVersion
  | setStatus object =>
      obtain rfl := Option.some.inj seen
      obtain ⟨updated, isUpdated, -⟩ := exists_of_bind_eq_ok done
      obtain ⟨stored, found, sameVersion⟩ := find?_of_setStatus isUpdated
      exact retires.2 _ stored (mem_list_of_find? found) sameVersion

end Store

namespace History

variable {history : History} {request : Request} {version : Nat}

/-- The version of an object that is removed goes with it. -/
theorem IsBacked.version_ne (isBacked : history.IsBacked) {stored : Object kind}
    (present : stored ∈ history.store.list kind) {read : Kind} {object : Object read}
    (remains : object ∈ (history.store.remove stored).list read) :
    object.metadata.resourceVersion ≠ stored.metadata.resourceVersion := by
  intro sameVersion
  have sameObject := isBacked.object_eq (Store.mem_list_of_mem_list_remove remains) present
    sameVersion
  cases sameObject
  exact (Store.mem_list_remove.1 remains).2 rfl

/-- What is written over an object has the next version, so the one before is gone. -/
theorem IsBacked.retires_write (isBacked : history.IsBacked) {stored next : Object kind}
    (present : stored ∈ history.store.list kind) (sameText : next.keyText = stored.keyText)
    (isNext : next.metadata.resourceVersion = history.store.lastVersion + 1) :
    (history.store.write (some stored) next).Retires stored.metadata.resourceVersion := by
  have counted := isBacked.version_le present
  refine ⟨Nat.le_succ_of_le counted, fun read object presentAfter => ?_⟩
  by_cases sameKind : read = kind
  · subst sameKind
    rcases Store.mem_list_write.1 presentAfter with rfl | ⟨before, otherText⟩
    · omega
    · rw [sameText] at otherText
      exact isBacked.version_ne present (Store.mem_list_remove.2 ⟨before, otherText⟩)
  · rw [Store.list_write_of_ne _ _ next sameKind,
      ← Store.list_remove_of_ne history.store stored sameKind] at presentAfter
    exact isBacked.version_ne present presentAfter

theorem IsBacked.retires_supplant (isBacked : history.IsBacked) {stored next : Object kind}
    (present : stored ∈ history.store.list kind) (sameText : next.keyText = stored.keyText)
    (isNext : next.metadata.resourceVersion = history.store.lastVersion + 1) :
    (history.store.supplant stored next).Retires stored.metadata.resourceVersion := by
  unfold Store.supplant
  split
  · have counted := isBacked.version_le present
    refine ⟨Nat.le_succ_of_le counted, fun read object remains => ?_⟩
    rw [Store.list_with_lastVersion] at remains
    exact isBacked.version_ne present remains
  · exact isBacked.retires_write present sameText isNext

/-- A change that succeeds does away with the version that its writer has seen. -/
theorem IsBacked.retires_after (isBacked : history.IsBacked)
    (seen : request.seen? = some version) (succeeds : request.Succeeds history.store) :
    (history.after request).store.Retires version := by
  obtain ⟨⟨issue, store⟩, done⟩ := succeeds
  simp only [after, done]
  cases request with
  | create | delete => contradiction
  | update object =>
      obtain rfl := Option.some.inj seen
      obtain ⟨⟨updated, left⟩, isUpdated, answered⟩ := exists_of_bind_eq_ok done
      obtain ⟨-, rfl⟩ := Prod.mk.inj (Except.ok.inj answered)
      obtain ⟨stored, found, sameVersion⟩ := Store.find?_of_update isUpdated
      obtain ⟨other, present, sameText, -, rfl⟩ := Store.stored_of_update isUpdated
      obtain rfl := Store.eq_of_keyText_eq present (Store.mem_list_of_find? found)
        (sameText.trans (Store.keyText_of_find? found).symm)
      rw [← sameVersion]
      exact isBacked.retires_supplant present sameText.symm rfl
  | setStatus object =>
      obtain rfl := Option.some.inj seen
      obtain ⟨⟨updated, left⟩, isUpdated, answered⟩ := exists_of_bind_eq_ok done
      obtain ⟨-, rfl⟩ := Prod.mk.inj (Except.ok.inj answered)
      obtain ⟨stored, found, sameVersion⟩ := Store.find?_of_setStatus isUpdated
      obtain ⟨other, present, sameText, -, rfl⟩ := Store.stored_of_setStatus isUpdated
      obtain rfl := Store.eq_of_keyText_eq present (Store.mem_list_of_find? found)
        (sameText.trans (Store.keyText_of_find? found).symm)
      rw [← sameVersion]
      exact isBacked.retires_write present rfl rfl

/-- What versions are worth once the requests have been made. -/
structure VersionsAreSound (requests : List Request) : Prop where
  /-- No two writes share a version; each has a greater one than all before. -/
  increasing : (ofRequests requests).issued.Pairwise fun earlier later =>
    earlier.version < later.version
  /-- Whatever succeeds next is given a greater version than all before, at which the counter
  then stands; only deletions that do not mark are given none. -/
  given : ∀ (request : Request) issue after,
    request.perform (ofRequests requests).store = .ok (issue, after) →
      (∃ next, issue = some next ∧ next.version = after.lastVersion ∧
        ∀ earlier ∈ (ofRequests requests).issued, earlier.version < next.version) ∨
      issue = none ∧ ∃ kind key now removal, request = .delete kind key now ∧
        removal ≠ .marked ∧
          (ofRequests requests).store.delete kind key now = .ok (removal, after)
  counted : ∀ kind, ∀ object ∈ (ofRequests requests).store.list kind,
    object.metadata.resourceVersion ≤ (ofRequests requests).store.lastVersion
  /-- No two stored objects of any kinds share a version. -/
  distinct : ∀ kind, ∀ first ∈ (ofRequests requests).store.list kind,
    ∀ other, ∀ second ∈ (ofRequests requests).store.list other,
      first.metadata.resourceVersion = second.metadata.resourceVersion →
        (⟨kind, first⟩ : Σ kind, Object kind) = ⟨other, second⟩
  /-- A change that succeeds replaces what the write with its version stored. -/
  seen : ∀ kind (object : Object kind),
    (Request.update object).Succeeds (ofRequests requests).store ∨
      (Request.setStatus object).Succeeds (ofRequests requests).store →
    ∃ stored, (ofRequests requests).store.find? kind object.key = some stored ∧
      ⟨kind, stored.key, object.metadata.resourceVersion, some stored⟩ ∈
        (ofRequests requests).issued
  /-- Of all changes that are made at one version, one succeeds at most, whatever is asked for in
  between. -/
  once : ∀ (request : Request) version, request.seen? = some version →
    request.Succeeds (ofRequests requests).store →
      ∀ later (other : Request), other.seen? = some version →
        ¬ other.Succeeds (ofRequests (requests ++ request :: later)).store

theorem IsBacked.seen (isBacked : history.IsBacked) {object stored : Object kind}
    (found : history.store.find? kind object.key = some stored)
    (sameVersion : stored.metadata.resourceVersion = object.metadata.resourceVersion) :
    ⟨kind, stored.key, object.metadata.resourceVersion, some stored⟩ ∈ history.issued := by
  rw [← sameVersion]
  exact isBacked.backed kind stored (Store.mem_list_of_find? found)

/-- Optimistic concurrency is sound: a writer that succeeds overwrites no change that it has not
seen. -/
theorem versions_are_sound (requests : List Request) : VersionsAreSound requests where
  increasing := (isBacked_ofRequests requests).increasing
  given := by
    intro request issue after done
    cases issue with
    | none => exact .inr ⟨rfl, Store.delete_of_unissued done⟩
    | some next =>
        obtain ⟨isNext, isCounted⟩ := (Store.change_of_perform done).version_eq
        refine .inl ⟨next, rfl, isNext.trans isCounted.symm, fun earlier earlierMem => ?_⟩
        have bound := (isBacked_ofRequests requests).counted earlier earlierMem
        omega
  counted := fun _ _ present => (isBacked_ofRequests requests).version_le present
  distinct := fun _ _ firstPresent _ _ secondPresent =>
    (isBacked_ofRequests requests).object_eq firstPresent secondPresent
  seen := by
    have isBacked := isBacked_ofRequests requests
    rintro kind object (⟨outcome, done⟩ | ⟨outcome, done⟩)
    · obtain ⟨updated, isUpdated, -⟩ := exists_of_bind_eq_ok done
      obtain ⟨stored, found, sameVersion⟩ := Store.find?_of_update isUpdated
      exact ⟨stored, found, isBacked.seen found sameVersion⟩
    · obtain ⟨updated, isUpdated, -⟩ := exists_of_bind_eq_ok done
      obtain ⟨stored, found, sameVersion⟩ := Store.find?_of_setStatus isUpdated
      exact ⟨stored, found, isBacked.seen found sameVersion⟩
  once := by
    intro request version seen succeeds later other otherSeen
    have retires := (isBacked_ofRequests requests).retires_after seen succeeds
    have kept :
        (later.foldl after ((ofRequests requests).after request)).store.Retires version := by
      refine foldl_induction (fun history => history.store.Retires version) (fun _ => True) ?_
        retires fun _ _ => trivial
      intro history request _ retires issue store change
      exact retires.change change
    rw [ofRequests_append, List.foldl_cons]
    exact kept.refuses otherSeen

/-- Of two writers who have seen one version the second is refused, and both are when the object
has gone and another has come under its key. -/
example :
    let target (version : Nat) : Target :=
      { metadata := { name := "east", resourceVersion := version }
        spec := { priority := 1 }
        status := {} }
    let creation : Request := .create (target 0) 5 fun _ => 0
    let change : Request := .setStatus (target 1)
    (change.perform (ofRequests [creation]).store).isOk = true ∧
      (change.perform (ofRequests [creation, change]).store).isOk = false ∧
        (change.perform (ofRequests
          [creation, .delete .target ⟨"", "east"⟩ 6, creation]).store).isOk = false := by
  decide +kernel

end History

end TenantFleet
