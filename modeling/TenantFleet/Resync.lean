import TenantFleet.Lifecycle.Deployment
import TenantFleet.Lifecycle.TenantInstance
import TenantFleet.Onboarding.Registration
import TenantFleet.Onboarding.StatusReport

/-!
# Resync

A tick hands every stored object to its controller, one after the other:
registrations, deployments, then status reports for the deployments whose status
or whose instance's status has changed since the tick before, instances, and at
last targets, when the deletion of instances has given their places back.  A
pass that fails is counted and left to the next tick.
-/

namespace TenantFleet

/-- What a status report of a deployment rests on. -/
structure ReportBasis where
  deployment : DeploymentStatus
  realised : Option InstanceStatus
deriving DecidableEq, Repr

/-- The statuses of the deployments as of the last tick. -/
abbrev Seen := List (ObjectKey × ReportBasis)

structure TickTally where
  reconciled : Nat := 0
  failed : Nat := 0
  statusSynced : Nat := 0
deriving DecidableEq, Repr

namespace TickTally

/-- The report with one more pass that came to an outcome or failed. -/
def countPass {α : Type} (report : TickTally) : Except PassFailure α → TickTally
  | .ok _ => { report with reconciled := report.reconciled + 1 }
  | .error _ => { report with failed := report.failed + 1 }

def countReport (report : TickTally) : Except PassFailure Bool → TickTally
  | .ok true => { report with statusSynced := report.statusSynced + 1 }
  | .ok false => report
  | .error _ => { report with failed := report.failed + 1 }

end TickTally

namespace Resync

def visit {α : Type} (pass : ObjectKey → Pass PassFailure α) :
    TickTally → List ObjectKey → StateM World TickTally
  | report, [] => return report
  | report, key :: rest => do
      let outcome ← (pass key).run
      visit pass (report.countPass outcome) rest

/-- Run a pass on every object of a kind that is stored at the start. -/
def visitAll {α : Type} (kind : Kind) (pass : ObjectKey → Pass PassFailure α)
    (report : TickTally) : StateM World TickTally := do
  visit pass report (((← World.readStore).list kind).map Object.key)

/-- The statuses that a report of the deployment would rest on. -/
def observe (store : Store) (deployment : Deployment) : ReportBasis where
  deployment := deployment.status
  realised :=
    (deployment.status.instanceKey.bind (store.find? .tenantInstance)).map (·.status)

/-- Report the statuses of the deployments that differ from those seen before.  Yields the
statuses seen now, without those whose report failed, so that it is tried again. -/
def reportChanges (seen : Seen) :
    Seen → TickTally → List Deployment → StateM World (Seen × TickTally)
  | current, report, [] => return (current, report)
  | current, report, deployment :: rest => do
      let observed := observe (← World.readStore) deployment
      if seen.lookup deployment.key = some observed then
        reportChanges seen (current ++ [(deployment.key, observed)]) report rest
      else do
        let outcome ← (Deployment.reportStatus deployment.key).run
        let noted := match outcome with
          | .ok _ => current ++ [(deployment.key, observed)]
          | .error _ => current
        reportChanges seen noted (report.countReport outcome) rest

/-- One tick.  Yields its report and the statuses seen. -/
def tick (settings : Settings) (seen : Seen) : StateM World (TickTally × Seen) := do
  let report ← visitAll .registration Registration.reconcile {}
  let report ← visitAll .deployment (Deployment.reconcile settings) report
  let (current, report) ← reportChanges seen [] report ((← World.readStore).list .deployment)
  let report ← visitAll .tenantInstance (TenantInstance.reconcile settings) report
  let report ← visitAll .target (reconcileTarget settings) report
  return (report, current)

/-- Ticks one after the other; yields the statuses seen by the last. -/
def ticks (settings : Settings) : Nat → Seen → StateM World Seen
  | 0, seen => return seen
  | count + 1, seen => do
      let (_, current) ← tick settings seen
      ticks settings count current

end Resync

end TenantFleet
