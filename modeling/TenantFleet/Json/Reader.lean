import TenantFleet.Json.Number

/-!
# Reading JSON text

A reader of JSON text over its characters.  Containers may nest to a limit that
the caller sets; what lies deeper, a string with half of a surrogate pair and a
number past the largest double are read as garbled values, so that only a reader
of that value fails.  Recursion is bounded by a count that the length of the
text supplies.
-/

namespace TenantFleet.Json

/-- The text from its first character that is not white space. -/
def skipSpace : List Char → List Char
  | [] => []
  | character :: rest =>
      if character = ' ' || character = '\n' || character = '\t' || character = '\r' then
        skipSpace rest
      else
        character :: rest

/-- The value of a hexadecimal digit. -/
def hexDigit? (character : Char) : Option Nat :=
  if '0' ≤ character && character ≤ '9' then
    some (character.toNat - '0'.toNat)
  else if 'a' ≤ character && character ≤ 'f' then
    some (character.toNat - 'a'.toNat + 10)
  else if 'A' ≤ character && character ≤ 'F' then
    some (character.toNat - 'A'.toNat + 10)
  else
    none

def hexNumber? (digits : List Char) : Option Nat :=
  digits.foldlM (fun number digit => do return number * 16 + (← hexDigit? digit)) 0

/-- The character that a one-letter escape stands for. -/
def escaped? : Char → Option Char
  | '"' => some '"'
  | '\\' => some '\\'
  | '/' => some '/'
  | 'b' => some '\x08'
  | 'f' => some '\x0c'
  | 'n' => some '\n'
  | 'r' => some '\r'
  | 't' => some '\t'
  | _ => none

/-- Whether the code unit opens a surrogate pair. -/
def isHighSurrogate (unit : Nat) : Bool := 0xD800 ≤ unit && unit < 0xDC00

/-- Whether the code unit closes a surrogate pair. -/
def isLowSurrogate (unit : Nat) : Bool := 0xDC00 ≤ unit && unit < 0xE000

def surrogatePair (high low : Nat) : Char :=
  Char.ofNat (0x10000 + (high - 0xD800) * 0x400 + (low - 0xDC00))

/-- The rest of a string after its opening quote, and what follows it.  The characters read so
far stand in reverse, `pending` is a high surrogate that waits for its low one, and a string that
is not `sound` has half of a surrogate pair in it. -/
def readString : (text read : List Char) → (pending : Option Nat) → (sound : Bool) →
    Option (Option String × List Char)
  | [], _, _, _ => none
  | '"' :: rest, read, pending, sound =>
      some (if sound && pending.isNone then some (String.ofList read.reverse) else none, rest)
  | '\\' :: 'u' :: a :: b :: c :: d :: rest, read, pending, sound =>
      match hexNumber? [a, b, c, d] with
      | none => none
      | some unit =>
          if isLowSurrogate unit then
            match pending with
            | some high => readString rest (surrogatePair high unit :: read) none sound
            | none => readString rest read none false
          else if isHighSurrogate unit then
            readString rest read (some unit) (sound && pending.isNone)
          else
            readString rest (Char.ofNat unit :: read) none (sound && pending.isNone)
  | '\\' :: letter :: rest, read, pending, sound =>
      match escaped? letter with
      | none => none
      | some character => readString rest (character :: read) none (sound && pending.isNone)
  | character :: rest, read, pending, sound =>
      if character < ' ' || character = '\\' then none
      else readString rest (character :: read) none (sound && pending.isNone)

mutual

/-- A value at the front of the text, where `depth` more containers may nest. -/
def readValue : (fuel depth : Nat) → List Char → Option (Json × List Char)
  | 0, _, _ => none
  | fuel + 1, depth, text =>
      match skipSpace text with
      | 'n' :: 'u' :: 'l' :: 'l' :: rest => some (.null, rest)
      | 't' :: 'r' :: 'u' :: 'e' :: rest => some (.bool true, rest)
      | 'f' :: 'a' :: 'l' :: 's' :: 'e' :: rest => some (.bool false, rest)
      | '"' :: rest => do
          let (value, further) ← readString rest [] none true
          return (match value with
            | some value => .string value
            | none => .garbled, further)
      | '[' :: rest =>
          match skipSpace rest with
          | ']' :: further => some (if depth = 0 then .garbled else .array [], further)
          | _ => do
              let (items, further) ← readItems fuel (depth - 1) rest
              return (if depth = 0 then .garbled else .array items, further)
      | '\x7b' :: rest =>
          match skipSpace rest with
          | '\x7d' :: further => some (if depth = 0 then .garbled else .object [], further)
          | _ => do
              let (entries, further) ← readEntries fuel (depth - 1) rest
              return (match entries with
                | some entries => if depth = 0 then .garbled else .object entries
                | none => .garbled, further)
      | other => readNumber other

/-- The items of an array up to its closing bracket. -/
def readItems : (fuel depth : Nat) → List Char → Option (List Json × List Char)
  | 0, _, _ => none
  | fuel + 1, depth, text => do
      let (item, afterItem) ← readValue fuel depth text
      match skipSpace afterItem with
      | ']' :: rest => return ([item], rest)
      | ',' :: rest => do
          let (items, further) ← readItems fuel depth rest
          return (item :: items, further)
      | _ => none

/-- The entries of an object up to its closing brace; none stands for entries of which a name
has half of a surrogate pair in it. -/
def readEntries : (fuel depth : Nat) → List Char →
    Option (Option (List (String × Json)) × List Char)
  | 0, _, _ => none
  | fuel + 1, depth, text =>
      match skipSpace text with
      | '"' :: afterQuote => do
          let (name, afterName) ← readString afterQuote [] none true
          match skipSpace afterName with
          | ':' :: afterColon => do
              let (value, afterValue) ← readValue fuel depth afterColon
              match skipSpace afterValue with
              | '\x7d' :: rest => return (name.map fun name => [(name, value)], rest)
              | ',' :: rest => do
                  let (entries, further) ← readEntries fuel depth rest
                  return (name.bind fun name => entries.map ((name, value) :: ·), further)
              | _ => none
          | _ => none
      | _ => none

end

/-- The value that a text spells, where `depth` containers may nest; nothing but white space may
follow it. -/
def readWithin (depth : Nat) (text : String) : Option Json := do
  let characters := text.toList
  let (value, rest) ← readValue (2 * characters.length + 2) depth characters
  if (skipSpace rest).isEmpty then some value else none

/-- The value that a document's text spells. -/
def read (text : String) : Option Json :=
  readWithin nestingLimit text

end TenantFleet.Json
