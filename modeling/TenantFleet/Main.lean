import TenantFleet.Command
import TenantFleet.Draws
import TenantFleet.Json.Printer
import TenantFleet.Resync
import TenantFleet.Store.Snapshot

/-!
# The program

The daemon on a disk: the store is a snapshot in the directory that the
configuration names, the time is that of the snapshot's last touch, and draws
start from a seed that the system gives.
-/

namespace TenantFleet.Program

/-- The text of a file, if there is one and it is a text. -/
def readText (path : String) : IO (Option String) := do
  try
    return some (← IO.FS.readFile path)
  catch _ =>
    return none

/-- The time at which a file was written last, in seconds. -/
def writtenAt (path : String) : IO Nat := do
  let file ← IO.FS.realPath path
  return (← file.metadata).modified.sec.toNat

def saveStore (config : Config) (store : Store) : IO Unit :=
  IO.FS.writeFile config.storePath store.toJson.render

/-- A number that the system draws. -/
def drawSeed : IO Nat := do
  let bytes ← IO.getRandomBytes 8
  return bytes.toList.foldl (fun number byte => number * 256 + byte.toNat) 0

/-- The world around the store of a configuration, which is made if it is not there. -/
def openWorld (config : Config) : IO World := do
  if config.dataDirectory ≠ "" then
    IO.FS.createDirAll config.dataDirectory
  let store ← match ← readText config.storePath with
    | none => pure {}
    | some text =>
        match (Json.readWithin text.length text).bind Store.ofJson? with
        | some store => pure store
        | none => throw (IO.userError "the store cannot be read")
  saveStore config store
  return .around store (← writtenAt config.storePath) (← drawSeed)

/-- The files and the store on the disk. -/
def host : Host IO where
  readText := readText
  openWorld := openWorld
  saveStore := saveStore

def wait (seconds : Nat) : IO Unit := do
  for _ in [0:seconds] do
    IO.sleep 1000

/-- Run ticks on the store of a configuration, until the program is stopped. -/
def serve (config : Config) : IO Unit := do
  let mut seen : Seen := []
  repeat
    let world ← openWorld config
    let ((_, current), after) := (Resync.tick config.settings seen).run world
    saveStore config after.store
    seen := current
    wait config.resyncSeconds

/-- Carry out the arguments of the program; yields its exit code. -/
def run (arguments : List String) : IO UInt32 := do
  match ← Command.executeArguments host arguments with
  | .serve config =>
      serve config
      return 0
  | .done exit =>
      for line in exit.output do
        IO.println line
      for line in exit.errors do
        IO.eprintln line
      return exit.code.toUInt32

end TenantFleet.Program

/-- The program of the daemon. -/
def main (arguments : List String) : IO UInt32 :=
  TenantFleet.Program.run arguments
