import TenantFleet.Document.Path
import TenantFleet.Json.Record
import TenantFleet.Lifecycle.Failure
import TenantFleet.Toml.Reader

/-!
# Configuration

The settings of the daemon, read from a TOML document.  Every setting has a
default, and a setting that is not known is refused.
-/

namespace TenantFleet

/-- How the daemon writes its log. -/
inductive LogFormat where
  | text
  | json
deriving DecidableEq, Repr

/-- The settings of the daemon. -/
structure Config where
  /-- The directory of the store. -/
  dataDirectory : String := "/var/lib/tenantgrid"
  /-- The seconds between two ticks. -/
  resyncSeconds : Nat := 30
  logFormat : LogFormat := .text
  /-- The scheduling object whose rules come before the automatic choice of a target. -/
  scheduling : Option ObjectKey := none
  conflictRetries : Nat := 5
deriving DecidableEq, Repr

/-- Why a configuration is refused. -/
inductive ConfigError where
  /-- There is no text under the path. -/
  | unreadable
  /-- The text is not a document with the known settings. -/
  | malformed
  /-- Ticks would follow each other without end. -/
  | noInterval
  /-- The scheduling object has no name. -/
  | unnamedScheduling
deriving DecidableEq, Repr

/-- What is said of a setting that is out of bounds. -/
def ConfigError.message? : ConfigError → Option String
  | .unreadable | .malformed => none
  | .noInterval => some "resync_interval_secs must be greater than zero"
  | .unnamedScheduling => some "scheduling.name must not be empty"

/-- What was done to the configuration at `path` when the error arose. -/
def ConfigError.context (path : String) : ConfigError → String
  | .unreadable => "reading config " ++ path
  | .malformed | .noInterval | .unnamedScheduling => "parsing config " ++ path

namespace LogFormat

/-- The format as configurations name it. -/
def title : LogFormat → String
  | .text => "text"
  | .json => "json"

def ofTitle? (title : String) : Option LogFormat :=
  if title = "text" then some .text
  else if title = "json" then some .json
  else none

/-- The format that a value names: by its title, or by an entry of that title with nothing in
it. -/
def ofJson? : Json → Option LogFormat
  | .string title => ofTitle? title
  | .object [(title, .object [])] => ofTitle? title
  | .object [(title, .array [])] => ofTitle? title
  | _ => none

end LogFormat

namespace Config

open Json

/-- The record of known fields that a value stands for. -/
def knownRecord? (names : List String) (json : Json) : Option (List (String × Json)) := do
  let entries ← json.record? .tabular names
  if entries.all fun entry => names.contains entry.1 then some entries else none

def schedulingOfJson? (json : Json) : Option ObjectKey := do
  let entries ← knownRecord? ["namespace", "name"] json
  let scope ← required entries "namespace" text?
  let name ← required entries "name" text?
  return ⟨scope, name⟩

/-- The configuration that a value spells, within bounds or not. -/
def ofJson? (json : Json) : Option Config := do
  let standard : Config := {}
  let entries ← knownRecord?
    ["data_dir", "resync_interval_secs", "log_format", "scheduling", "conflict_retries"] json
  let dataDirectory ← defaulted entries "data_dir" standard.dataDirectory text?
  let resyncSeconds ←
    defaulted entries "resync_interval_secs" standard.resyncSeconds (natural? 64)
  let logFormat ← defaulted entries "log_format" standard.logFormat LogFormat.ofJson?
  let scheduling ← optional entries "scheduling" schedulingOfJson?
  let conflictRetries ← defaulted entries "conflict_retries" standard.conflictRetries (natural? 32)
  return { dataDirectory, resyncSeconds, logFormat, scheduling, conflictRetries }

/-- The configuration that a document's text spells. -/
def ofText (text : String) : Except ConfigError Config :=
  match (Toml.read text).bind ofJson? with
  | none => .error .malformed
  | some config =>
      if config.resyncSeconds = 0 then
        .error .noInterval
      else if config.scheduling.any fun key => key.name = "" then
        .error .unnamedScheduling
      else
        .ok config

/-- The configuration in a file, of which the text is given if it has any. -/
def ofFile (text : Option String) : Except ConfigError Config :=
  match text with
  | none => .error .unreadable
  | some text => ofText text

def storePath (config : Config) : String :=
  pathWithin config.dataDirectory "tenantgrid.redb"

/-- Whether every setting has its default; the directory may be spelled in another way. -/
def isStandard (config : Config) : Bool :=
  let standard : Config := {}
  isSamePath config.dataDirectory standard.dataDirectory &&
    { config with dataDirectory := standard.dataDirectory } = standard

/-- What the controllers are set to. -/
def settings (config : Config) : Settings where
  scheduling := config.scheduling
  conflictRetries := config.conflictRetries

end Config

end TenantFleet
