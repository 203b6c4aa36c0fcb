import TenantFleet.Placement.Score
import TenantFleet.Selector.Evaluation

/-!
# The choice of a target

The target of a deployment is chosen among candidates.  One pass through the
scheduling rules gathers the targets that the applicable rules of the highest
priority name.  If a rule applies, these are the candidates; else they are the
targets that are not restricted.  The best ranked of the candidates that can
take the deployment is chosen.
-/

namespace TenantFleet

/-- What a search through the rules has found so far: the highest priority of those that apply, if
one does, and the targets that the applicable rules of this priority name. -/
structure RuleSearch where
  priority? : Option Int := none
  targets : List ObjectKey := []
deriving DecidableEq, Repr

/-- Go on to one more rule.  A rule of a lower priority is passed over before its selectors are
looked at, and then a rule that does not apply.  A rule of the same priority adds its targets, and
one of a higher priority, or the first one, puts its own in the place of all others. -/
def RuleSearch.consider (deployment : Deployment) (search : RuleSearch) (rule : SchedulingRule) :
    RuleSearch :=
  if search.priority?.any (rule.priority < ·) then
    search
  else if !rule.appliesTo deployment then
    search
  else if search.priority? = some rule.priority then
    { search with targets := search.targets ++ rule.targets }
  else
    { priority? := some rule.priority, targets := rule.targets }

namespace Deployment

/-- Whether the target can take the deployment: it is visible, in the region that the deployment
asks for, and carries the labels that it asks for. -/
def fits (deployment : Deployment) (target : Target) : Bool :=
  target.spec.visible &&
    (match deployment.spec.region with
      | none => true
      | some region => target.spec.region == some region) &&
    deployment.spec.targetLabels.entries.all fun (name, value) =>
      target.metadata.hasLabel name value

def bestFitting? (deployment : Deployment) (pool : List Target) : Option Target :=
  (ranked (pool.filter deployment.fits)).head?

/-- The rules, gone through one after the other. -/
def searchRules (deployment : Deployment) (rules : List SchedulingRule) : RuleSearch :=
  rules.foldl (RuleSearch.consider deployment) {}

/-- The targets of the pool among which the choice is made.  Each name counts once, and names of
targets that are not in the pool are passed over. -/
def candidates (deployment : Deployment) (rules : List SchedulingRule) (pool : List Target) :
    List Target :=
  match deployment.searchRules rules with
  | ⟨none, _⟩ => pool.filter fun target => !target.spec.restricted
  | ⟨some _, named⟩ =>
      named.eraseDups.filterMap fun key => pool.find? fun target => target.key == key

/-- The target that the deployment's instance is placed on. -/
def chosenTarget? (deployment : Deployment) (rules : List SchedulingRule) (pool : List Target) :
    Option Target :=
  deployment.bestFitting? (deployment.candidates rules pool)

end Deployment

end TenantFleet
