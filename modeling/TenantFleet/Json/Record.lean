import TenantFleet.Json.Basic
import TenantFleet.Table

/-!
# Reading records from JSON

A record of the model is written as an object with one entry for each of its
fields, and may also be given as an array of its fields in the order of their
declaration.  Unknown entries are ignored, a repeated entry of a field is
refused, and fields that have a default may be missing, in an array only at its
end.  The few points in which the sources of a document differ are gathered in
a dialect.
-/

namespace TenantFleet.Json

/-- How a source of documents departs from the plain form. -/
structure Dialect where
  /-- Whether an empty object stands for the value without content, as null does. -/
  emptyObjectIsUnit : Bool
  /-- Whether a record given as an array may have items after its last field. -/
  extraItemsIgnored : Bool
deriving DecidableEq, Repr

/-- The form of stored objects, of messages and of documents without a kind in JSON. -/
def Dialect.plain : Dialect := ⟨false, false⟩

/-- The form of what stands in a document beside the kind that it names. -/
def Dialect.tagged : Dialect := ⟨true, false⟩

/-- The form of documents without a kind that are tables of keys and values. -/
def Dialect.tabular : Dialect := ⟨false, true⟩

def hasRepeated (names : List String) : List (String × Json) → Bool
  | [] => false
  | (name, _) :: rest =>
      (names.contains name && rest.any fun entry => entry.1 == name) || hasRepeated names rest

/-- The entries of the record with the given fields that the value stands for. -/
def record? (dialect : Dialect) (names : List String) : Json → Option (List (String × Json))
  | .object entries => if hasRepeated names entries then none else some entries
  | .array items =>
      if items.length ≤ names.length || dialect.extraItemsIgnored then
        some (names.zip items)
      else
        none
  | _ => none

variable {α : Type}

/-- The value of a field that must be there. -/
def required (entries : List (String × Json)) (name : String) (decode : Json → Option α) :
    Option α :=
  (entries.lookup name).bind decode

/-- The value of a field that takes its default when it is missing. -/
def defaulted (entries : List (String × Json)) (name : String) (default : α)
    (decode : Json → Option α) : Option α :=
  match entries.lookup name with
  | none => some default
  | some value => decode value

/-- The value of a field that may be missing or null. -/
def optional (entries : List (String × Json)) (name : String) (decode : Json → Option α) :
    Option (Option α) :=
  match entries.lookup name with
  | none => some none
  | some .null => some none
  | some value => (decode value).map some

def text? : Json → Option String
  | .string value => some value
  | _ => none

def flag? : Json → Option Bool
  | .bool value => some value
  | _ => none

def signed? : Json → Option Int
  | .integer value => if -(Int.pow 2 63) ≤ value && value < Int.pow 2 63 then some value else none
  | _ => none

/-- A natural number of as many bits as `width` says. -/
def natural? (width : Nat) : Json → Option Nat
  | .integer value => if 0 ≤ value && value < Int.pow 2 width then some value.toNat else none
  | _ => none

def list? (decode : Json → Option α) : Json → Option (List α)
  | .array items => items.mapM decode
  | _ => none

/-- Texts under names, of which the last of one name stands. -/
def texts? : Json → Option (Table (α := String × String) Prod.fst)
  | .object entries => do
      let pairs ← entries.mapM fun (name, value) => do return (name, ← text? value)
      return Table.ofList Prod.fst pairs
  | _ => none

/-- The value without content. -/
def unit? (dialect : Dialect) : Json → Option Unit
  | .null => some ()
  | .object [] => if dialect.emptyObjectIsUnit then some () else none
  | _ => none

/-- An entry that is written only when its value is there. -/
def present (name : String) (value : Option Json) : List (String × Json) :=
  match value with
  | none => []
  | some value => [(name, value)]

/-- A text that is written only when it is not empty. -/
def presentText (name : String) (value : String) : List (String × Json) :=
  if value = "" then [] else [(name, .string value)]

/-- Texts under names as an object in the order of the names. -/
def ofTexts (texts : Table (α := String × String) Prod.fst) : Json :=
  .object (texts.entries.map fun (name, value) => (name, .string value))

end TenantFleet.Json
