import TenantFleet.Object.Basic

/-!
# Evaluation of selectors

What it means for a deployment to meet a selector, and for a scheduling rule to
apply to it.
-/

namespace TenantFleet

namespace Selector

mutual

/-- Whether the deployment meets the condition. -/
def holds (deployment : Deployment) : Selector → Bool
  | .matchTenant id => deployment.spec.tenantId = id
  | .matchLabel name value => deployment.metadata.hasLabel name value
  | .allOf children => allHold deployment children
  | .anyOf children => anyHolds deployment children
  | .negation child => !holds deployment child

/-- Whether the deployment meets every one of the conditions. -/
def allHold (deployment : Deployment) : List Selector → Bool
  | [] => true
  | child :: rest => holds deployment child && allHold deployment rest

/-- Whether the deployment meets one of the conditions. -/
def anyHolds (deployment : Deployment) : List Selector → Bool
  | [] => false
  | child :: rest => holds deployment child || anyHolds deployment rest

end

end Selector

def SchedulingRule.appliesTo (rule : SchedulingRule) (deployment : Deployment) : Bool :=
  rule.selectors.all (Selector.holds deployment)

end TenantFleet
