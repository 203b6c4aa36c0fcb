import TenantFleet.Document.Manifest

/-!
# Loading documents

What is done with the text of a document: a manifest is applied to the store,
and a scheduling document can be checked without one.
-/

namespace TenantFleet

/-- The value that a document spells by a reader of its form. -/
def decodeDocument {α : Type} (decode : Format → Json → Option α) (path text : String) :
    Except DocumentError α :=
  let format := Format.of path text
  match (format.read text).bind (decode format) with
  | some value => .ok value
  | none => .error (.malformed format)

/-- The scheduling document in a file with the given path, and its text if it has any. -/
def loadScheduling (path : String) (text : Option String) : Except DocumentError SchedulingDraft :=
  match text with
  | none => .error (.unreadable path)
  | some text => decodeDocument (fun format => SchedulingDraft.ofJson? format.dialect) path text

/-- The manifest in a file with the given path, and its text if it has any. -/
def loadManifest (path : String) (text : Option String) : Except DocumentError Manifest :=
  match text with
  | none => .error (.unreadable path)
  | some text => decodeDocument (fun _ => Manifest.ofJson?) path text

/-- Why a file is not applied. -/
inductive FileError where
  | document (error : DocumentError)
  | rejected (rejection : Rejection)
  | store (error : StoreError)
deriving DecidableEq, Repr

def FileError.ofWrite : WriteRefusal → FileError
  | .rejected rejection => .rejected rejection
  | .store error => .store error

/-- What is said when the store refuses what a file spells. -/
def storeRefusal : String := "writing to the state store"

def checkDocument (path : String) (text : Option String) : Except FileError Scheduling :=
  match loadScheduling path text with
  | .error error => .error (.document error)
  | .ok draft =>
      match draft.reviewed with
      | .error rejection => .error (.rejected rejection)
      | .ok scheduling => .ok scheduling

def applyDocument (path : String) (text : Option String) : Pass FileError Manifest.Report :=
  match loadManifest path text with
  | .error error => throw (.document error)
  | .ok manifest => manifest.apply.mapError .ofWrite

end TenantFleet
