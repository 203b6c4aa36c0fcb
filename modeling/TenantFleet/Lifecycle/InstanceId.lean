import TenantFleet.Lifecycle.Failure

/-!
# Instance ids

Ids are drawn from a supply and cut to their fixed length; the first that is not
taken is used.
-/

namespace TenantFleet

/-- How many ids are drawn before giving up. -/
def idAttempts : Nat := 64

def cutId (id : String) : String :=
  String.ofList (id.toList.take idLength)

/-- The first of the ids drawn that is not taken, in the given number of attempts. -/
def freshIdWithin (taken : List String) : (attempts : Nat) → Pass PassFailure String
  | 0 => throw ⟨.reconcile, .generateId, .idsExhausted idAttempts⟩
  | attempts + 1 => do
      let id := cutId (← World.drawId)
      if taken.contains id then freshIdWithin taken attempts else return id

def freshId (taken : List String) : Pass PassFailure String :=
  freshIdWithin taken idAttempts

end TenantFleet
