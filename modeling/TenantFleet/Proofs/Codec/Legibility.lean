import TenantFleet.Proofs.Codec.RoundTrip
import TenantFleet.Proofs.Codec.Text
import TenantFleet.Proofs.Store.Listing
import TenantFleet.Store.Reading

/-!
# Which objects can be read back from their texts

The text of a stored object is read as the object or not at all, and which of
the two is told by how deep its selectors nest.  A rule that nests too deep is
not cut short: where its reader stops following, there stands a selector, and
without it nothing is made of the rules.
-/

namespace TenantFleet

open Json

variable {depth : Nat} {dialect : Dialect} {kind : Kind}

/-! ### What lies too deep -/

namespace Json

theorem truncatedItems_eq_map (depth : Nat) (items : List Json) :
    truncatedItems depth items = items.map (truncated depth) := by
  induction items with
  | nil => rfl
  | cons item rest ih => rw [truncatedItems, ih, List.map_cons]

@[simp]
theorem truncated_array_succ (depth : Nat) (items : List Json) :
    truncated (depth + 1) (.array items) = .array (items.map (truncated depth)) := by
  rw [truncated, if_neg (Nat.succ_ne_zero depth), Nat.add_sub_cancel, truncatedItems_eq_map]

@[simp]
theorem truncated_object_succ (depth : Nat) (entries : List (String × Json)) :
    truncated (depth + 1) (.object entries) = .object (truncatedEntries depth entries) := by
  rw [truncated, if_neg (Nat.succ_ne_zero depth), Nat.add_sub_cancel]

@[simp]
theorem truncated_array_zero (items : List Json) : truncated 0 (.array items) = .garbled := rfl

@[simp]
theorem truncated_object_zero (entries : List (String × Json)) :
    truncated 0 (.object entries) = .garbled := rfl

@[simp]
theorem truncatedEntries_nil (depth : Nat) : truncatedEntries depth [] = [] := rfl

@[simp]
theorem truncatedEntries_cons (depth : Nat) (name : String) (value : Json)
    (entries : List (String × Json)) :
    truncatedEntries depth ((name, value) :: entries) =
      (name, truncated depth value) :: truncatedEntries depth entries := rfl

theorem lt_nestingOfItems_iff {items : List Json} :
    depth < nestingOfItems items ↔ ∃ item ∈ items, depth < item.nesting := by
  rw [← Nat.not_le, nestingOfItems_le_iff]
  simp

/-- A list cannot be read if one of its items cannot. -/
theorem mapM_eq_none {α β : Type} {decode : α → Option β} {items : List α} {item : α}
    (itemMem : item ∈ items) (unread : decode item = none) : items.mapM decode = none := by
  induction items with
  | nil => exact absurd itemMem List.not_mem_nil
  | cons first rest ih =>
      rw [List.mapM_cons]
      rcases List.mem_cons.1 itemMem with rfl | inRest
      · rw [unread]
        rfl
      · rw [ih inRest]
        cases decode first <;> rfl

end Json

namespace Selector

theorem listOfJson?_eq_mapM (items : List Json) : listOfJson? items = items.mapM ofJson? := by
  induction items with
  | nil => rfl
  | cons item rest ih =>
      rw [listOfJson?, List.mapM_cons, ih]

/-- A selector that is cut at its first or second container is no selector. -/
theorem ofJson?_truncated_of_lt_two (selector : Selector) (shallow : depth < 2)
    (deep : depth < selector.toJson.nesting) :
    ofJson? (truncated depth selector.toJson) = none := by
  match depth with
  | 0 => cases selector <;> simp [toJson, ofJson?]
  | 1 =>
      cases selector with
      | negation child => cases child <;> simp [toJson, ofJson?]
      | matchTenant | matchLabel | allOf | anyOf => simp [toJson, ofJson?]

mutual

/-- Nothing is made of a selector of which a part is too deep for the reader. -/
theorem ofJson?_truncated {depth : Nat} (selector : Selector)
    (deep : depth < selector.toJson.nesting) :
    ofJson? (truncated depth selector.toJson) = none := by
  match depth with
  | 0 | 1 => exact ofJson?_truncated_of_lt_two selector (by decide) deep
  | depth + 2 =>
      cases selector with
      | matchTenant | matchLabel =>
          have flat : ¬ depth + 2 < 2 := by omega
          exact absurd deep flat
      | allOf children | anyOf children =>
          have inside : depth < nestingOfItems (listToJson children) := by
            rw [toJson, nesting_object_singleton, nesting_array] at deep
            omega
          simp [toJson, ofJson?, listOfJson?_truncated children inside]
      | negation child =>
          have inside : depth + 1 < child.toJson.nesting := by
            rw [toJson, nesting_object_singleton] at deep
            omega
          simp [toJson, ofJson?, ofJson?_truncated child inside]

theorem listOfJson?_truncated {depth : Nat} (children : List Selector)
    (deep : depth < nestingOfItems (listToJson children)) :
    listOfJson? ((listToJson children).map (truncated depth)) = none := by
  cases children with
  | nil => simp [listToJson, nestingOfItems] at deep
  | cons child rest =>
      rw [listToJson, nestingOfItems] at deep
      have somewhere : depth < child.toJson.nesting ∨ depth < nestingOfItems (listToJson rest) := by
        omega
      rcases somewhere with first | inRest
      · simp [listToJson, listOfJson?, ofJson?_truncated child first]
      · simp [listToJson, listOfJson?, listOfJson?_truncated rest inRest]

end

end Selector

/-- With the targets in reach, only a selector can lie too deep in a rule. -/
theorem SchedulingRule.ofJson?_truncated (rule : SchedulingRule) (far : 3 ≤ depth)
    (deep : depth < rule.toJson.nesting) :
    ofJson? dialect (truncated depth rule.toJson) = none := by
  obtain ⟨depth, rfl⟩ := Nat.exists_eq_add_of_le' (Nat.le_trans (by decide : 2 ≤ 3) far)
  have targets : nestingOfItems (rule.targets.map ObjectKey.toJson) ≤ 1 := by
    simp [nestingOfItems_le_iff]
  have inside : depth < nestingOfItems (Selector.listToJson rule.selectors) := by
    simp only [toJson, nesting_object, nestingOfEntries_cons, nestingOfEntries_nil, nesting_array,
      nesting_integer] at deep
    omega
  have unread : list? Selector.ofJson?
      (.array ((Selector.listToJson rule.selectors).map (truncated depth))) = none := by
    rw [list?, ← Selector.listOfJson?_eq_mapM]
    exact Selector.listOfJson?_truncated rule.selectors inside
  simp [toJson, ofJson?, record?, unread]

theorem SchedulingSpec.ofJson?_truncated (spec : SchedulingSpec) (far : 5 ≤ depth)
    (deep : depth < spec.toJson.nesting) :
    ofJson? dialect (truncated depth spec.toJson) = none := by
  obtain ⟨depth, rfl⟩ := Nat.exists_eq_add_of_le' (Nat.le_trans (by decide : 2 ≤ 5) far)
  have inside : depth < nestingOfItems (spec.rules.map SchedulingRule.toJson) := by
    rw [toJson, nesting_object_singleton, nesting_array] at deep
    omega
  obtain ⟨json, jsonMem, jsonDeep⟩ := lt_nestingOfItems_iff.1 inside
  obtain ⟨rule, ruleMem, rfl⟩ := List.mem_map.1 jsonMem
  have unread : list? (SchedulingRule.ofJson? dialect)
      (.array ((spec.rules.map SchedulingRule.toJson).map (truncated depth))) = none :=
    mapM_eq_none (List.mem_map_of_mem jsonMem) (rule.ofJson?_truncated (by omega) jsonDeep)
  simp [-List.map_map, toJson, ofJson?, record?, unread]

/-! ### Objects and their texts -/

theorem Json.isShort_of_fitsSigned {value : Int} (fits : FitsSigned value) : IsShort value := by
  obtain ⟨least, most⟩ := fits
  have least : -(9223372036854775808 : Int) ≤ value := least
  have most : value < (9223372036854775808 : Int) := most
  change value.natAbs < 18446744073709551616
  omega

theorem Json.isShort_of_fitsNatural {value : Nat} (fits : FitsNatural value) :
    IsShort (value : Int) := by
  have most : (value : Int) < (18446744073709551616 : Int) := fits
  change (value : Int).natAbs < 18446744073709551616
  omega

theorem FailureRecord.Fits.holdsOnly {failure : FailureRecord} (fits : failure.Fits) :
    failure.toJson.HoldsOnly IsShort :=
  failure.holdsOnly_toJson.2 ⟨isShort_of_fitsNatural fits.1, isShort_of_fitsNatural fits.2⟩

namespace Kind

theorem SpecFits.holdsOnly {spec : kind.Spec} (fits : kind.SpecFits spec) :
    (kind.specToJson spec).HoldsOnly IsShort := by
  cases kind with
  | tenantSpace => exact holdsOnly_null
  | target => exact (TargetSpec.holdsOnly_toJson spec).2 (isShort_of_fitsSigned fits)
  | deployment => exact DeploymentSpec.holdsOnly_toJson spec
  | tenantInstance => exact InstanceSpec.holdsOnly_toJson spec
  | registration => exact RegistrationSpec.holdsOnly_toJson spec
  | scheduling =>
      exact (SchedulingSpec.holdsOnly_toJson spec).2 fun rule ruleMem =>
        isShort_of_fitsSigned (fits rule ruleMem)

theorem StatusFits.holdsOnly {status : kind.Status} (fits : kind.StatusFits status) :
    (kind.statusToJson status).HoldsOnly IsShort := by
  cases kind with
  | tenantSpace | scheduling => exact holdsOnly_null
  | target =>
      exact (TargetStatus.holdsOnly_toJson status).2 fun places placesMem =>
        isShort_of_fitsSigned (fits places placesMem)
  | deployment =>
      exact (DeploymentStatus.holdsOnly_toJson status).2
        ⟨isShort_of_fitsSigned fits.observedGeneration,
          fun failure failureMem => (fits.lastError failure failureMem).holdsOnly⟩
  | tenantInstance =>
      exact (InstanceStatus.holdsOnly_toJson status).2 fun failure failureMem =>
        FailureRecord.Fits.holdsOnly (fits failure failureMem)
  | registration =>
      exact (RegistrationStatus.holdsOnly_toJson status).2
        ⟨isShort_of_fitsSigned fits.observedGeneration,
          fun failure failureMem => (fits.lastError failure failureMem).holdsOnly⟩

theorem nesting_specToJson_le (spec : kind.Spec) (other : kind ≠ .scheduling) :
    (kind.specToJson spec).nesting ≤ 3 := by
  cases kind with
  | tenantSpace => exact Nat.zero_le 3
  | target => exact TargetSpec.nesting_toJson_le spec
  | deployment => exact DeploymentSpec.nesting_toJson_le spec
  | tenantInstance => exact InstanceSpec.nesting_toJson_le spec
  | registration => exact RegistrationSpec.nesting_toJson_le spec
  | scheduling => exact absurd rfl other

theorem nesting_statusToJson_le (status : kind.Status) :
    (kind.statusToJson status).nesting ≤ 3 := by
  cases kind with
  | tenantSpace | scheduling => exact Nat.zero_le 3
  | target => exact TargetStatus.nesting_toJson_le status
  | deployment => exact DeploymentStatus.nesting_toJson_le status
  | tenantInstance => exact InstanceStatus.nesting_toJson_le status
  | registration => exact RegistrationStatus.nesting_toJson_le status

end Kind

namespace Object

variable {object : Object kind}

theorem Fits.holdsOnly (fits : object.Fits) : object.toJson.HoldsOnly IsShort := by
  obtain ⟨metadata, spec, status⟩ := fits
  have ofMetadata : object.metadata.toJson.HoldsOnly IsShort :=
    (Metadata.holdsOnly_toJson object.metadata).2 ⟨isShort_of_fitsSigned metadata.generation,
      isShort_of_fitsNatural metadata.resourceVersion,
      isShort_of_fitsNatural metadata.creationTime,
      fun time timeMem => isShort_of_fitsNatural (metadata.deletionTime time timeMem)⟩
  exact object.holdsOnly_toJson.2 ⟨ofMetadata, spec.holdsOnly, status.holdsOnly⟩

/-- An object is legible just if it nests no deeper than a reader follows. -/
theorem isLegible_iff_nesting_le (object : Object kind) :
    object.isLegible = true ↔ object.toJson.nesting ≤ nestingLimit := by
  have metadata := object.metadata.nesting_toJson_le
  have status := kind.nesting_statusToJson_le object.status
  have limit : nestingLimit = 127 := rfl
  have nests : object.toJson.nesting ≤ nestingLimit ↔
      (kind.specToJson object.spec).nesting < nestingLimit := by
    simp only [toJson, nesting_object, nestingOfEntries_cons, nestingOfEntries_nil]
    omega
  rw [nests]
  by_cases isScheduling : kind = .scheduling
  · subst isScheduling
    simp [isLegible, Kind.specToJson]
  · have spec := kind.nesting_specToJson_le object.spec isScheduling
    rw [object.isLegible_of_ne isScheduling]
    exact iff_of_true rfl (by omega)

/-- What a reader makes of the text of the object. -/
def reread (object : Object kind) : Option (Object kind) :=
  (Json.read object.toJson.render).bind (Object.ofJson? .plain kind)

theorem reread_eq_of_fits (fits : object.Fits) :
    object.reread = Object.ofJson? .plain kind (truncated nestingLimit object.toJson) := by
  rw [reread, Json.read, readWithin_render fits.holdsOnly, Option.bind_some]

/-- Nothing is made of an object that nests too deep. -/
theorem ofJson?_truncated {scheduling : Scheduling}
    (deep : Object.isLegible scheduling = false) :
    Object.ofJson? dialect .scheduling (truncated nestingLimit (Object.toJson scheduling)) =
      none := by
  have limit : nestingLimit = 126 + 1 := rfl
  have specDeep : 126 < (SchedulingSpec.toJson scheduling.spec).nesting := by
    rw [isLegible, decide_eq_false_iff_not, limit] at deep
    omega
  have unread : SchedulingSpec.ofJson? dialect
      (truncated 126 (SchedulingSpec.toJson scheduling.spec)) = none :=
    SchedulingSpec.ofJson?_truncated _ (by decide) specDeep
  rw [limit]
  simp [toJson, ofJson?, record?, required, Kind.specToJson, Kind.specOf?, unread]

/-- A reader makes of the text of an object the object if it is legible, and else nothing. -/
theorem reread_eq (fits : object.Fits) :
    object.reread = if object.isLegible then some object else none := by
  rw [reread_eq_of_fits fits]
  by_cases legible : object.isLegible = true
  · have whole := object.isLegible_iff_nesting_le.1 legible
    rw [if_pos legible, (truncated_eq_self_iff nestingLimit object.toJson).2 whole]
    exact Object.ofJson?_toJson fits
  · rw [if_neg legible]
    have isScheduling : kind = .scheduling :=
      Decidable.byContradiction fun other => legible (object.isLegible_of_ne other)
    subst isScheduling
    exact ofJson?_truncated (Bool.eq_false_iff.2 legible)

end Object

namespace Store

variable {store : Store}

/-- Reading under a key is reading the text of the object that is stored there. -/
theorem toOption_read (key : ObjectKey) (fits : ∀ object ∈ store.list kind, object.Fits) :
    (store.read kind key).toOption =
      match store.find? kind key with
      | none => some none
      | some stored => stored.reread.map some := by
  unfold read
  cases isStored : store.find? kind key with
  | none => rfl
  | some stored =>
      have storedFits := fits stored (mem_list_of_find? isStored)
      dsimp only
      rw [Object.reread_eq storedFits]
      cases stored.isLegible <;> rfl

/-- Reading objects is reading the text of each of them. -/
theorem toOption_readAll {objects : List (Object kind)}
    (fits : ∀ object ∈ objects, object.Fits) :
    (readAll objects).toOption = objects.mapM Object.reread := by
  rw [readAll]
  cases legible : objects.all Object.isLegible with
  | true =>
      have readBack : ∀ object ∈ objects, object.reread = some (id object) := by
        intro object objectMem
        have isLegible := List.all_eq_true.1 legible object objectMem
        rw [Object.reread_eq (fits object objectMem), if_pos isLegible]
        rfl
      have allRead : (objects.map id).mapM Object.reread = some objects :=
        mapM_map_eq_some readBack
      rw [List.map_id] at allRead
      rw [allRead]
      rfl
  | false =>
      obtain ⟨object, objectMem, illegible⟩ := List.all_eq_false.1 legible
      have unread : object.reread = none := by
        rw [Object.reread_eq (fits object objectMem), if_neg illegible]
      rw [mapM_eq_none objectMem unread]
      rfl

end Store

end TenantFleet
