import TenantFleet.Json.Basic

/-!
# Tables under construction

A TOML document is a tree of tables that its lines fill in.  Headers open
tables, and dotted keys run through them.  A table is opened by one header only;
tables that a header or a dotted key merely runs through may be opened later, or
run through again in the same manner.
-/

namespace TenantFleet.Toml

/-- How a table came about. -/
inductive Origin where
  /-- It was opened by a header, or is the document. -/
  | opened
  /-- A header ran through it. -/
  | implied
  /-- A dotted key ran through it. -/
  | dotted
deriving DecidableEq, Repr

/-- What stands under a key: a value, a table, or tables one after the other. -/
inductive Node where
  | value (json : Json)
  | table (origin : Origin) (entries : List (String × Node))
  | tables (items : List (List (String × Node)))
deriving Inhabited

/-- What stands in a table. -/
abbrev Entries := List (String × Node)

/-- The entries with `node` under `name`, in place of what stands there or at the end. -/
def setNode (name : String) (node : Node) : Entries → Entries
  | [] => [(name, node)]
  | (other, current) :: rest =>
      if other = name then (name, node) :: rest else (other, current) :: setNode name node rest

/-- The entries of a table after a change of the table that a path leads to.  Missing tables on
the way are made; of tables one after the other, the path runs through the last.  A dotted key
does not run through a table that a header opened. -/
def changeAt (isDotted : Bool) (change : Origin → Entries → Option Entries) :
    (path : List String) → Origin → Entries → Option Entries
  | [], origin, entries => change origin entries
  | name :: path, _, entries =>
      match entries.lookup name with
      | none => do
          let origin := if isDotted then Origin.dotted else Origin.implied
          let inner ← changeAt isDotted change path origin []
          return setNode name (.table origin inner) entries
      | some (.value _) => none
      | some (.table origin inner) =>
          if isDotted && origin = .opened then
            none
          else do
            let changed ← changeAt isDotted change path origin inner
            return setNode name (.table origin changed) entries
      | some (.tables items) =>
          match items.reverse with
          | [] => none
          | last :: before => do
              let changed ← changeAt isDotted change path .opened last
              return setNode name (.tables (changed :: before).reverse) entries

/-- The entries with a value under a dotted key.  The key may not be taken, and a dotted key adds
only to tables that dotted keys have made. -/
def addValue (path : List String) (name : String) (value : Json) (origin : Origin)
    (entries : Entries) : Option Entries :=
  changeAt true
    (fun reached entries =>
      if (decide (reached = .dotted) == path.isEmpty) || (entries.lookup name).isSome then none
      else some (entries ++ [(name, .value value)]))
    path origin entries

/-- The entries after the header of a table under `name`. -/
def openTable (name : String) (_ : Origin) (entries : Entries) : Option Entries :=
  match entries.lookup name with
  | none => some (entries ++ [(name, .table .opened [])])
  | some (.table .implied inner) => some (setNode name (.table .opened inner) entries)
  | some _ => none

/-- The entries after the header of one more table under `name`. -/
def appendTable (name : String) (_ : Origin) (entries : Entries) : Option Entries :=
  match entries.lookup name with
  | none => some (entries ++ [(name, .tables [[]])])
  | some (.tables items) => some (setNode name (.tables (items ++ [[]])) entries)
  | some _ => none

mutual

def Node.toJson : Node → Json
  | .value json => json
  | .table _ entries => .object (entriesToJson entries)
  | .tables items => .array (tablesToJson items)

def entriesToJson : List (String × Node) → List (String × Json)
  | [] => []
  | (name, node) :: rest => (name, node.toJson) :: entriesToJson rest

/-- The values that finished tables stand for. -/
def tablesToJson : List (List (String × Node)) → List Json
  | [] => []
  | entries :: rest => .object (entriesToJson entries) :: tablesToJson rest

end

end TenantFleet.Toml
