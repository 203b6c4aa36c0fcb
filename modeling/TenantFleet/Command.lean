import TenantFleet.Config
import TenantFleet.Document.Loading

/-!
# The command line

What the daemon's program does for its arguments.  Files and the store are
reached through a host, so that the same commands run on a disk and in memory.
-/

namespace TenantFleet

/-- What the program is asked to do. -/
inductive Command where
  /-- Run ticks on the store until it is stopped. -/
  | run (config : Option String)
  /-- Apply the manifest in a file. -/
  | apply (config : Option String) (file : String)
  /-- Check the scheduling document in a file. -/
  | validateScheduling (file : String)
  /-- Say how the program is used. -/
  | help
deriving DecidableEq, Repr

namespace Command

/-- The arguments of a command, sorted into its options and its files. -/
structure Arguments where
  config : Option String := none
  files : List String := []
  wantsHelp : Bool := false
deriving DecidableEq, Repr

def isOption (argument : String) : Bool :=
  beginsWith "-" argument && argument ≠ "-"

/-- The arguments with one more file, which may not be empty and of which there are so many at
most. -/
def Arguments.addFile (arguments : Arguments) (most : Nat) (file : String) : Option Arguments :=
  if file = "" || arguments.files.length ≥ most then none
  else some { arguments with files := arguments.files ++ [file] }

def Arguments.setConfig (arguments : Arguments) (file : String) : Option Arguments :=
  if file = "" || arguments.config.isSome then none
  else some { arguments with config := some file }

/-- How the option of the configuration begins when its value stands in the same argument. -/
def configStem : String := "--config="

/-- Sort the arguments of a command that takes so many files, and the option of a configuration
or not.  Help comes before anything that follows it. -/
def sortArguments (takesConfig : Bool) (most : Nat) :
    Arguments → List String → Option Arguments
  | sorted, [] => some sorted
  | sorted, "--" :: files => files.foldlM (fun sorted file => sorted.addFile most file) sorted
  | sorted, "--help" :: _ => some { sorted with wantsHelp := true }
  | sorted, "-h" :: _ => some { sorted with wantsHelp := true }
  | sorted, "--config" :: file :: rest => do
      if !takesConfig || isOption file then none else
      sortArguments takesConfig most (← sorted.setConfig file) rest
  | sorted, argument :: rest => do
      if takesConfig && beginsWith configStem argument then
        let file := String.ofList (argument.toList.drop configStem.toList.length)
        sortArguments takesConfig most (← sorted.setConfig file) rest
      else if isOption argument then
        none
      else
        sortArguments takesConfig most (← sorted.addFile most argument) rest

def ofSorted? (arguments : Arguments) (command : Option Command) : Option Command :=
  if arguments.wantsHelp then some .help else command

/-- The command that the arguments of the program spell, if they spell one. -/
def ofArguments? : List String → Option Command
  | "run" :: rest => do
      let sorted ← sortArguments true 0 {} rest
      ofSorted? sorted (some (.run sorted.config))
  | "apply" :: rest => do
      let sorted ← sortArguments true 1 {} rest
      ofSorted? sorted (sorted.files.head?.map (.apply sorted.config))
  | "validate-scheduling" :: rest => do
      let sorted ← sortArguments false 1 {} rest
      ofSorted? sorted (sorted.files.head?.map .validateScheduling)
  | ["help"] => some .help
  | ["help", name] =>
      if ["run", "apply", "validate-scheduling", "help"].contains name then some .help else none
  | "--help" :: _ => some .help
  | "-h" :: _ => some .help
  | _ => none

end Command

/-- What a run of the program leaves: its exit code and the lines that it wrote. -/
structure Exit where
  code : Nat
  output : List String := []
  errors : List String := []
deriving DecidableEq, Repr

namespace Exit

/-- The program did what it was asked for. -/
def success (output : List String) : Exit := { code := 0, output }

/-- The program could not do what it was asked for. -/
def failure (message : String) (cause : Option String) : Exit where
  code := 1
  errors :=
    ("Error: " ++ message) ::
      match cause with
      | some cause => ["", "Caused by:", "    " ++ cause]
      | none => []

/-- The document was refused by review. -/
def rejected (rejection : Rejection) : Exit where
  code := 1
  errors := rejection.errors.map FieldError.message

/-- The arguments make no command. -/
def misuse : Exit where
  code := 2
  errors := ["Usage: tenantgridd <COMMAND>", "", "For more information, try '--help'."]

/-- How the program is used. -/
def usage : Exit :=
  .success
    ["tenantgrid daemon",
     "",
     "Usage: tenantgridd <COMMAND>",
     "",
     "Commands:",
     "  run                  Run the resync driver against the local store",
     "  apply                Admit a document and write it to the local store",
     "  validate-scheduling  Check a TargetScheduling document (JSON or TOML) without storing it",
     "  help                 Print this message or the help of the given subcommand(s)",
     "",
     "Options:",
     "  -h, --help  Print help"]

end Exit

/-- Where the program finds files and the store. -/
structure Host (m : Type → Type) where
  /-- The text of a file, if there is one and it is a text. -/
  readText : (path : String) → m (Option String)
  /-- The world around the store of a configuration, which is made if it is not there. -/
  openWorld : Config → m World
  /-- Keep the store of a configuration. -/
  saveStore : Config → Store → m Unit

/-- What a command comes to: an exit, or ticks without end. -/
inductive Reply where
  | done (exit : Exit)
  | serve (config : Config)

namespace Command

variable {m : Type → Type} [Monad m]

def configurationAt (host : Host m) : Option String → m (Except Exit Config)
  | none => return .ok {}
  | some path => do
      match Config.ofFile (← host.readText path) with
      | .ok config => return .ok config
      | .error error => return .error (.failure (error.context path) error.message?)

def fileExit {α : Type} (report : α → String) : Except FileError α → Exit
  | .ok outcome => .success [report outcome]
  | .error (.document error) => .failure error.message none
  | .error (.rejected rejection) => .rejected rejection
  | .error (.store error) => .failure storeRefusal (some error.message)

def applyTo (host : Host m) (config : Config) (file : String) : m Exit := do
  let world ← host.openWorld config
  let (outcome, after) := (applyDocument file (← host.readText file)).run.run world
  host.saveStore config after.store
  return fileExit Manifest.Report.message outcome

/-- The line on a scheduling document without errors. -/
def validLine (file : String) (scheduling : Scheduling) : String :=
  file ++ ": valid, " ++ toString scheduling.spec.rules.length ++ " rule(s)"

def execute (host : Host m) : Command → m Reply
  | .help => return .done .usage
  | .run configFile => do
      match ← configurationAt host configFile with
      | .ok config => return .serve config
      | .error exit => return .done exit
  | .apply configFile file => do
      match ← configurationAt host configFile with
      | .ok config => return .done (← applyTo host config file)
      | .error exit => return .done exit
  | .validateScheduling file => do
      return .done (fileExit (validLine file) (checkDocument file (← host.readText file)))

/-- Carry out what the arguments of the program spell. -/
def executeArguments (host : Host m) (arguments : List String) : m Reply :=
  match ofArguments? arguments with
  | some command => execute host command
  | none => return .done .misuse

end Command

end TenantFleet
