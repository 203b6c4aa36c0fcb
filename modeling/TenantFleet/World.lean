import TenantFleet.Store.Change

/-!
# Work on the store

A world is a store together with what work on it draws from outside: the time,
suffixes for generated names, and instance ids.  A pass is a piece of work that
may read and write the store and may fail; what it wrote before it failed stays
written.  The journal of a world has the store that each write left, so the
state in which a pass would be cut off after any number of writes can be read
from it.
-/

namespace TenantFleet

/-- An endless supply of values, of which the first `drawn` are used up. -/
structure Supply (α : Type) where
  value : Nat → α
  drawn : Nat := 0

namespace Supply

variable {α : Type}

/-- The value that is drawn next. -/
def next (supply : Supply α) : α :=
  supply.value supply.drawn

/-- The value that is drawn after `skipped` others. -/
def ahead (supply : Supply α) (skipped : Nat) : α :=
  supply.value (supply.drawn + skipped)

/-- The supply with `count` more values used up. -/
def advance (supply : Supply α) (count : Nat) : Supply α :=
  { supply with drawn := supply.drawn + count }

end Supply

/-- A store, the stores that the writes so far have left, and what work on it draws from. -/
structure World where
  store : Store := {}
  journal : List Store := []
  clock : Supply Nat
  suffixes : Supply NameSuffix
  ids : Supply String

/-- A piece of work on a world, which may fail; a failure undoes nothing. -/
abbrev Pass (ε α : Type) := ExceptT ε (StateM World) α

namespace World

variable {kind : Kind}

/-- The world after a write that left `store`. -/
def commit (world : World) (store : Store) : World :=
  { world with store := store, journal := world.journal ++ [store] }

/-- The world with the time and the name suffixes of one creation used up. -/
def afterDraws (world : World) : World :=
  { world with
    clock := world.clock.advance 1
    suffixes := world.suffixes.advance nameAttempts }

def create (object : Object kind) : Pass StoreError (Object kind) := fun world =>
  match world.store.create object world.clock.next world.suffixes.ahead with
  | .ok (created, store) => (.ok created, world.afterDraws.commit store)
  | .error error => (.error error, world.afterDraws)

/-- Replace the metadata and the spec of an object. -/
def update (object : Object kind) : Pass StoreError (Object kind) := fun world =>
  match world.store.update object with
  | .ok (updated, store) => (.ok updated, world.commit store)
  | .error error => (.error error, world)

def setStatus (object : Object kind) : Pass StoreError (Object kind) := fun world =>
  match world.store.setStatus object with
  | .ok (updated, store) => (.ok updated, world.commit store)
  | .error error => (.error error, world)

/-- The world after the deletion of an object, which writes unless it was marked before. -/
def afterRemoval (world : World) (store : Store) : Removal → World
  | .pending => world
  | .purged | .marked => { world.commit store with clock := world.clock.advance 1 }

def delete (kind : Kind) (key : ObjectKey) : Pass StoreError Removal := fun world =>
  match world.store.delete kind key world.clock.next with
  | .ok (removal, store) => (.ok removal, world.afterRemoval store removal)
  | .error error => (.error error, world)

/-- The time. -/
def now : StateM World Nat := fun world =>
  (world.clock.next, { world with clock := world.clock.advance 1 })

/-- The next instance id of the supply. -/
def drawId : StateM World String := fun world =>
  (world.ids.next, { world with ids := world.ids.advance 1 })

/-- What a reading of the store yields. -/
def reading {α : Type} (read : Store → Except StoreError α) : Pass StoreError α := fun world =>
  (read world.store, world)

def readStore : StateM World Store := fun world => (world.store, world)

end World

namespace Pass

variable {ε δ α : Type}

/-- The work with its failure in other terms. -/
def mapError (convert : ε → δ) (pass : Pass ε α) : Pass δ α :=
  ExceptT.adapt convert pass

/-- The work with its failure as an outcome. -/
def attempt (pass : Pass ε α) : Pass δ (Except ε α) :=
  ExceptT.mk do return .ok (← pass.run)

/-- The work, after whose failure something else is done that cannot fail. -/
def onFailure (pass : Pass ε α) (record : ε → StateM World Unit) : Pass ε α :=
  ExceptT.mk do
    match ← pass.run with
    | .ok outcome => return .ok outcome
    | .error error =>
        record error
        return .error error

/-- The work with its outcome and its failure left out. -/
def ignoreOutcome (pass : Pass ε α) : StateM World Unit := do
  discard pass.run

end Pass

end TenantFleet
