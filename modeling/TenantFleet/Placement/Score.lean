import TenantFleet.Object.Basic

/-!
# Scores of targets

The score of a target is its priority divided by its load, so that a busy target
of high priority gives way to an idle one of lower priority.  Targets are ranked
by score, and those of equal score by their keys, so the order in which they
were listed never shows.
-/

namespace TenantFleet

/-- What the ranking of a target rests on. -/
structure TargetStanding where
  target : ObjectKey
  score : Int
  priority : Int
  assigned : Nat
deriving DecidableEq, Repr

/-- The places that a target is sized for. -/
def nominalPlaces : Int := 10

def Target.hostedCount (target : Target) : Nat :=
  target.status.assigned.length

def Target.hosts (target : Target) (instanceKey : ObjectKey) : Bool :=
  target.status.assigned.contains instanceKey

/-- The places left on the target; negative once it hosts more than it is sized for. -/
def Target.placesLeft (target : Target) : Int :=
  nominalPlaces - target.hostedCount

namespace TargetStanding

/-- The score of a target: its priority over the number of instances it would host with one
more, rounded toward zero. -/
def of (target : Target) : TargetStanding where
  target := target.key
  score := target.spec.priority.tdiv (target.hostedCount + 1)
  priority := target.spec.priority
  assigned := target.hostedCount

/-- Whether `first` is ranked before `second`, or at the same place. -/
def ranksBefore (first second : TargetStanding) : Bool :=
  second.score < first.score ||
    (first.score = second.score && first.target.notAfter second.target)

end TargetStanding

/-- The targets from the best to the worst. -/
def ranked (targets : List Target) : List Target :=
  targets.mergeSort fun first second =>
    (TargetStanding.of first).ranksBefore (TargetStanding.of second)

end TenantFleet
