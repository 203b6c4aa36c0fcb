/-!
# Paths to fields

A path leads from the root of an object to one of its fields, by names of
fields and positions in lists.  Its text is what error messages show, such as
`spec.rules[0].targets`.
-/

namespace TenantFleet

/-- The way from the root of an object to a field. -/
inductive FieldPath where
  /-- A path given by its text; the empty text is the object itself. -/
  | root (text : String)
  /-- A field of what the path leads to. -/
  | field (parent : FieldPath) (name : String)
  /-- An item of the list that the path leads to. -/
  | item (parent : FieldPath) (position : Nat)
deriving DecidableEq, Repr, Inhabited

namespace FieldPath

/-- The path as messages show it. -/
def text : FieldPath → String
  | .root text => text
  | .field parent name =>
      let parentText := parent.text
      if parentText = "" then name else parentText ++ "." ++ name
  | .item parent position => parent.text ++ "[" ++ toString position ++ "]"

def metadata : FieldPath := .root "metadata"

def spec : FieldPath := .root "spec"

end FieldPath

end TenantFleet
