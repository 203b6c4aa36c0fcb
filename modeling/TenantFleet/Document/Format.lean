import TenantFleet.Document.Path
import TenantFleet.Json.Reader
import TenantFleet.Json.Record
import TenantFleet.Text.Blank
import TenantFleet.Toml.Reader

/-!
# Formats of documents

A document is read as JSON when its file name ends in `.json` or its text begins
with a brace, and as TOML otherwise.
-/

namespace TenantFleet

/-- The formats in which documents are written. -/
inductive Format where
  | json
  | toml
deriving DecidableEq, Repr

/-- The format of a document with the given file name and text. -/
def Format.of (path text : String) : Format :=
  if extension? path = some ['j', 's', 'o', 'n'] ||
      (Text.skipBlank text.toList).head? = some '\x7b' then
    .json
  else
    .toml

/-- The value that a document's text spells. -/
def Format.read (format : Format) (text : String) : Option Json :=
  match format with
  | .json => Json.read text
  | .toml => Toml.read text

/-- How documents without a kind depart from the plain form. -/
def Format.dialect : Format → Json.Dialect
  | .json => .plain
  | .toml => .tabular

/-- Why a document cannot be read. -/
inductive DocumentError where
  /-- There is no text under the path. -/
  | unreadable (path : String)
  /-- The text is not a document of the format and kind that it should be. -/
  | malformed (format : Format)
deriving DecidableEq, Repr

def DocumentError.message : DocumentError → String
  | .unreadable path => "reading " ++ path
  | .malformed .json => "decoding JSON document"
  | .malformed .toml => "decoding TOML document"

end TenantFleet
