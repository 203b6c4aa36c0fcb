import TenantFleet.Toml.Scalar
import TenantFleet.Toml.Tables

/-!
# Reading TOML text

A reader of TOML documents: arrays and inline tables, and the lines that fill in
the tables of the document.  Arrays and inline tables nest to a limit, and keys
have so many parts at most.  Recursion is bounded by a count that the length of
the text supplies.
-/

namespace TenantFleet.Toml

/-- The arrays and inline tables that may nest, and the parts that a key may have. -/
def nestingLimit : Nat := 79

/-- The text after blanks, ends of lines and comments. -/
def skipFiller : (fuel : Nat) → List Char → List Char
  | 0, text => text
  | fuel + 1, text =>
      let rest := skipComment (skipBlanks text)
      match lineEnd? rest with
      | some further => skipFiller fuel further
      | none => rest

/-- A dotted key, split before its last part, and what follows it. -/
def readSplitKey (text : List Char) : Option (List String × String × List Char) := do
  let (parts, rest) ← readKey (text.length + 1) text
  let name ← parts.getLast?
  if parts.length ≤ nestingLimit then some (parts.dropLast, name, rest) else none

mutual

/-- A value at the front of the text, where `depth` more containers may nest, and what follows
it. -/
def readValue : (fuel depth : Nat) → List Char → Option (Json × List Char)
  | 0, _, _ => none
  | fuel + 1, depth, text =>
      match text with
      | '"' :: _ => (readText text).map fun (value, rest) => (.string value, rest)
      | '\'' :: _ => (readText text).map fun (value, rest) => (.string value, rest)
      | '[' :: rest =>
          if depth = 0 then none else do
            let (items, further) ← readItems fuel (depth - 1) rest
            return (.array items, further)
      | '\x7b' :: rest =>
          if depth = 0 then
            none
          else
            match skipBlanks rest with
            | '\x7d' :: further => some (.object [], further)
            | inner => do
                let (entries, further) ← readPairs fuel (depth - 1) [] inner
                return (.object (entriesToJson entries), further)
      | _ => readWord text

/-- The items of an array up to its closing bracket; a comma may stand behind the last. -/
def readItems : (fuel depth : Nat) → List Char → Option (List Json × List Char)
  | 0, _, _ => none
  | fuel + 1, depth, text =>
      match skipFiller (text.length + 1) text with
      | ']' :: rest => some ([], rest)
      | inner => do
          let (item, afterItem) ← readValue fuel depth inner
          match skipFiller (afterItem.length + 1) afterItem with
          | ']' :: rest => return ([item], rest)
          | ',' :: rest => do
              let (items, further) ← readItems fuel depth rest
              return (item :: items, further)
          | _ => none

/-- The pairs of an inline table up to its closing brace, added to `entries`. -/
def readPairs : (fuel depth : Nat) → Entries → List Char → Option (Entries × List Char)
  | 0, _, _, _ => none
  | fuel + 1, depth, entries, text => do
      let (path, name, afterKey) ← readSplitKey text
      match afterKey with
      | '=' :: afterEquals => do
          let (value, afterValue) ← readValue fuel depth (skipBlanks afterEquals)
          let extended ← addValue path name value .opened entries
          match skipBlanks afterValue with
          | '\x7d' :: rest => return (extended, rest)
          | ',' :: rest => readPairs fuel depth extended rest
          | _ => none
      | _ => none

end

/-- What follows the rest of a line in which only blanks and a comment may stand. -/
def finishLine (text : List Char) : Option (List Char) :=
  match skipComment (skipBlanks text) with
  | [] => some []
  | rest => lineEnd? rest

/-- The document after a header, and what follows the header's line. -/
def readHeader (change : String → Origin → Entries → Option Entries) (closing : List Char)
    (document : Entries) (text : List Char) :
    Option (Entries × List String × List Char) := do
  let (path, name, afterKey) ← readSplitKey text
  if closing.isPrefixOf afterKey then
    let changed ← changeAt false (change name) path .opened document
    let rest ← finishLine (afterKey.drop closing.length)
    return (changed, path ++ [name], rest)
  else
    none

/-- The document after its remaining lines, which fill in the table under `current` until the next
header. -/
def readLines : (fuel : Nat) → (document : Entries) → (current : List String) → List Char →
    Option Entries
  | 0, _, _, _ => none
  | fuel + 1, document, current, text =>
      match skipFiller (text.length + 1) text with
      | [] => some document
      | '[' :: '[' :: rest => do
          let (changed, path, further) ← readHeader appendTable [']', ']'] document rest
          readLines fuel changed path further
      | '[' :: rest => do
          let (changed, path, further) ← readHeader openTable [']'] document rest
          readLines fuel changed path further
      | line => do
          let (path, name, afterKey) ← readSplitKey line
          match afterKey with
          | '=' :: afterEquals => do
              let (value, afterValue) ←
                readValue (2 * line.length + 2) nestingLimit (skipBlanks afterEquals)
              let changed ← changeAt false (addValue path name value) current .opened document
              readLines fuel changed current (← finishLine afterValue)
          | _ => none

/-- The value that a document's text spells; a byte order mark may stand before it. -/
def read (text : String) : Option Json := do
  let characters := match text.toList with
    | '\ufeff' :: rest => rest
    | characters => characters
  let document ← readLines (characters.length + 1) [] [] characters
  return .object (entriesToJson document)

end TenantFleet.Toml
