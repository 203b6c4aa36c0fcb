/-!
# File paths

A path is a row of parts between slashes.  Empty parts and single dots lead
nowhere, so two paths that differ in such parts alone are the same; but a dot at
the front of a path that does not begin at the root is a part like any other.
-/

namespace TenantFleet

/-- The pieces of a text between slashes. -/
def splitAtSlashes : List Char → List (List Char)
  | [] => [[]]
  | character :: rest =>
      match character, splitAtSlashes rest with
      | '/', pieces => [] :: pieces
      | _, piece :: pieces => (character :: piece) :: pieces
      | _, [] => [[character]]

/-- The parts of a file path, without the empty ones and those that stay where they are. -/
def pathParts (path : String) : List (List Char) :=
  (splitAtSlashes path.toList).filter fun part => part ≠ [] && part ≠ ['.']

def beginsAtRoot (path : String) : Bool :=
  path.toList.head? = some '/'

def beginsWithDot (path : String) : Bool :=
  (splitAtSlashes path.toList).head? = some ['.']

/-- Whether two paths are the same, but for parts that lead nowhere. -/
def isSamePath (first second : String) : Bool :=
  beginsAtRoot first = beginsAtRoot second && beginsWithDot first = beginsWithDot second &&
    pathParts first = pathParts second

def pathWithin (directory file : String) : String :=
  if directory = "" then file
  else if directory.toList.getLast? = some '/' then directory ++ file
  else directory ++ "/" ++ file

/-- What stands behind the last dot of a file's name, unless nothing stands before it. -/
def extension? (path : String) : Option (List Char) := do
  let name ← (pathParts path).getLast?
  let ending := (name.reverse.takeWhile (· ≠ '.')).reverse
  if name = ['.', '.'] || name.length ≤ ending.length + 1 then none else some ending

end TenantFleet
