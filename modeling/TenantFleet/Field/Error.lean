import TenantFleet.Field.Path
import TenantFleet.Text.Quoted

/-!
# Field errors

A field error says what is wrong with one field of an object.  Validation
gathers all of them in a list, in the order in which it looks at the fields; the
object is valid when the list is empty.
-/

namespace TenantFleet

/-- What is wrong with the field at a path. -/
inductive FieldError where
  /-- The field has to be set. -/
  | required (path : FieldPath) (detail : String)
  /-- The value of the field is wrong. -/
  | invalid (path : FieldPath) (value detail : String)
  /-- The field may not be set, or not be changed. -/
  | forbidden (path : FieldPath) (detail : String)
  /-- The value of the field is none of the supported ones. -/
  | notSupported (path : FieldPath) (value : String) (supported : List String)
deriving DecidableEq, Repr

namespace FieldError

def path : FieldError → FieldPath
  | .required path _ | .invalid path _ _ | .forbidden path _ | .notSupported path _ _ => path

/-- The offending value, if the error has one. -/
def value? : FieldError → Option String
  | .required _ _ | .forbidden _ _ => none
  | .invalid _ value _ | .notSupported _ value _ => some value

/-- What would be right. -/
def detail : FieldError → String
  | .required _ detail | .invalid _ _ detail | .forbidden _ detail => detail
  | .notSupported _ _ supported =>
      "supported values: " ++ ", ".intercalate (supported.map Text.quoted)

/-- The kind of the error as messages name it. -/
def title : FieldError → String
  | .required _ _ => "Required value"
  | .invalid _ _ _ => "Invalid value"
  | .forbidden _ _ => "Forbidden"
  | .notSupported _ _ _ => "Unsupported value"

def message (error : FieldError) : String :=
  let value := match error.value? with
    | some value => ": " ++ Text.quoted value
    | none => ""
  let detail := if error.detail = "" then "" else ": " ++ error.detail
  error.path.text ++ ": " ++ error.title ++ value ++ detail

def messages (errors : List FieldError) : String :=
  "[" ++ ", ".intercalate (errors.map message) ++ "]"

end FieldError

/-- The error, if the condition holds. -/
def reportIf (condition : Bool) (error : FieldError) : List FieldError :=
  if condition then [error] else []

end TenantFleet
