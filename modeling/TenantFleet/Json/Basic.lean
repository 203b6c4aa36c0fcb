/-!
# JSON values

Values as documents and messages carry them.  Entries of an object keep the
order and the repetitions of the text, because some readers of an object refuse
a repeated name.  Numbers are integers, or keep their spelling: no field of the
model holds a number that is not an integer.
-/

namespace TenantFleet

inductive Json where
  | null
  | bool (value : Bool)
  | integer (value : Int)
  /-- A number that is not written as an integer. -/
  | real (spelling : String)
  | string (value : String)
  | array (items : List Json)
  | object (entries : List (String × Json))
  /-- A value whose text is well formed and denotes nothing: half of a surrogate pair, a number
  past the largest double, or nesting past the reader's limit.  It may be skipped, never read. -/
  | garbled
deriving Inhabited

namespace Json

mutual

/-- Whether no part of the value is garbled. -/
def isSound : Json → Bool
  | .garbled => false
  | .array items => areSound items
  | .object entries => entriesAreSound entries
  | .null | .bool _ | .integer _ | .real _ | .string _ => true

/-- Whether no part of any item is garbled. -/
def areSound : List Json → Bool
  | [] => true
  | item :: rest => isSound item && areSound rest

/-- Whether no part of any entry is garbled. -/
def entriesAreSound : List (String × Json) → Bool
  | [] => true
  | (_, value) :: rest => isSound value && entriesAreSound rest

end

/-- Containers that a text may nest for its readers. -/
def nestingLimit : Nat := 127

mutual

/-- How many containers the value nests. -/
def nesting : Json → Nat
  | .array items => nestingOfItems items + 1
  | .object entries => nestingOfEntries entries + 1
  | .null | .bool _ | .integer _ | .real _ | .string _ | .garbled => 0

def nestingOfItems : List Json → Nat
  | [] => 0
  | item :: rest => max (nesting item) (nestingOfItems rest)

def nestingOfEntries : List (String × Json) → Nat
  | [] => 0
  | (_, value) :: rest => max (nesting value) (nestingOfEntries rest)

end

end Json

end TenantFleet
