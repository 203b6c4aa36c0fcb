import TenantFleet.Object.Key

/-!
# Selectors

A selector is a condition on deployments, built from tests of the tenant and of
labels.  Exactly one of the forms stands at each node, so every selector can be
evaluated.  Scheduling rules gather selectors and the targets that they lead to.
-/

namespace TenantFleet

/-- A condition on deployments. -/
inductive Selector where
  | matchTenant (id : String)
  | matchLabel (name value : String)
  | allOf (children : List Selector)
  | anyOf (children : List Selector)
  | negation (child : Selector)
deriving Repr, Inhabited

namespace Selector

mutual

def decideEq : (first second : Selector) → Decidable (first = second)
  | .matchTenant first, .matchTenant second =>
      if same : first = second then isTrue (by rw [same])
      else isFalse fun equal => same (by injection equal)
  | .matchLabel firstName firstValue, .matchLabel secondName secondValue =>
      if same : firstName = secondName ∧ firstValue = secondValue then
        isTrue (by rw [same.1, same.2])
      else
        isFalse fun equal => same (by injection equal with names values; exact ⟨names, values⟩)
  | .allOf first, .allOf second =>
      match decideEqList first second with
      | isTrue same => isTrue (by rw [same])
      | isFalse different => isFalse fun equal => different (by injection equal)
  | .anyOf first, .anyOf second =>
      match decideEqList first second with
      | isTrue same => isTrue (by rw [same])
      | isFalse different => isFalse fun equal => different (by injection equal)
  | .negation first, .negation second =>
      match decideEq first second with
      | isTrue same => isTrue (by rw [same])
      | isFalse different => isFalse fun equal => different (by injection equal)
  | .matchTenant _, .matchLabel _ _ | .matchTenant _, .allOf _ | .matchTenant _, .anyOf _
  | .matchTenant _, .negation _ | .matchLabel _ _, .matchTenant _ | .matchLabel _ _, .allOf _
  | .matchLabel _ _, .anyOf _ | .matchLabel _ _, .negation _ | .allOf _, .matchTenant _
  | .allOf _, .matchLabel _ _ | .allOf _, .anyOf _ | .allOf _, .negation _
  | .anyOf _, .matchTenant _ | .anyOf _, .matchLabel _ _ | .anyOf _, .allOf _
  | .anyOf _, .negation _ | .negation _, .matchTenant _ | .negation _, .matchLabel _ _
  | .negation _, .allOf _ | .negation _, .anyOf _ => isFalse (by simp)

def decideEqList : (first second : List Selector) → Decidable (first = second)
  | [], [] => isTrue rfl
  | [], _ :: _ => isFalse (by simp)
  | _ :: _, [] => isFalse (by simp)
  | first :: firsts, second :: seconds =>
      match decideEq first second, decideEqList firsts seconds with
      | isTrue same, isTrue sameRest => isTrue (by rw [same, sameRest])
      | isFalse different, _ => isFalse fun equal => different (by injection equal)
      | _, isFalse different => isFalse fun equal => different (by injection equal)

end

instance : DecidableEq Selector := decideEq

end Selector

/-- A rule that names the targets of the deployments that meet all of its selectors. -/
structure SchedulingRule where
  priority : Int
  targets : List ObjectKey
  selectors : List Selector := []
deriving DecidableEq, Repr, Inhabited

/-- The rules of a scheduling object. -/
structure SchedulingSpec where
  rules : List SchedulingRule := []
deriving DecidableEq, Repr, Inhabited

end TenantFleet
