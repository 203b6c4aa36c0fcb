import TenantFleet.Json.Reader
import TenantFleet.Toml.Moment

/-!
# TOML scalars

Strings of the four kinds, keys, and the words that stand for numbers, moments
and truth values.
-/

namespace TenantFleet.Toml

open Json (hexNumber? decimalNumber doubleBound)

/-- A blank within a line. -/
def isBlank (character : Char) : Bool :=
  character = ' ' || character = '\t'

def skipBlanks (text : List Char) : List Char :=
  text.dropWhile isBlank

/-- What follows the end of a line at the front of the text. -/
def lineEnd? : List Char → Option (List Char)
  | '\n' :: rest => some rest
  | '\r' :: '\n' :: rest => some rest
  | _ => none

/-- Whether the character may stand in a comment or, quotes and escapes apart, in a string. -/
def isPlain (character : Char) : Bool :=
  character = '\t' || (' ' ≤ character && character ≠ '\x7f')

/-- The text after the comment at its front, if there is one. -/
def skipComment : List Char → List Char
  | '#' :: rest => rest.dropWhile isPlain
  | text => text

/-- The character that hexadecimal digits name, if it is one. -/
def codePoint? (digits : List Char) : Option Char := do
  let code ← hexNumber? digits
  if code < 0xD800 || (0xDFFF < code && code < 0x110000) then some (Char.ofNat code) else none

/-- The character that a one-letter escape stands for. -/
def escaped? : Char → Option Char
  | '"' => some '"'
  | '\\' => some '\\'
  | 'b' => some '\x08'
  | 'f' => some '\x0c'
  | 'n' => some '\n'
  | 'r' => some '\r'
  | 't' => some '\t'
  | _ => none

/-- The rest of a basic string after its quote, and what follows it. -/
def readBasic : (text read : List Char) → Option (String × List Char)
  | [], _ => none
  | '"' :: rest, read => some (String.ofList read.reverse, rest)
  | '\\' :: 'u' :: a :: b :: c :: d :: rest, read => do
      readBasic rest ((← codePoint? [a, b, c, d]) :: read)
  | '\\' :: 'U' :: a :: b :: c :: d :: e :: f :: g :: h :: rest, read => do
      readBasic rest ((← codePoint? [a, b, c, d, e, f, g, h]) :: read)
  | '\\' :: letter :: rest, read => do
      readBasic rest ((← escaped? letter) :: read)
  | character :: rest, read =>
      if isPlain character && character ≠ '\\' then readBasic rest (character :: read) else none

/-- The rest of a literal string after its quote, and what follows it. -/
def readLiteral : (text read : List Char) → Option (String × List Char)
  | [], _ => none
  | '\'' :: rest, read => some (String.ofList read.reverse, rest)
  | character :: rest, read =>
      if isPlain character then readLiteral rest (character :: read) else none

/-- Whether a backslash before this text ends a line: only blanks stand before its end. -/
def continuesLine (text : List Char) : Bool :=
  (lineEnd? (skipBlanks text)).isSome

/-- The rest of a basic string over several lines after its quotes, and what follows it.  While
`skipping`, blanks and ends of lines are left out.  One or two quotes may stand before the three
that close the string. -/
def readBasicLines : (text read : List Char) → (skipping : Bool) → Option (String × List Char)
  | [], _, _ => none
  | '"' :: '"' :: '"' :: '"' :: '"' :: rest, read, _ =>
      some (String.ofList ('"' :: '"' :: read).reverse, rest)
  | '"' :: '"' :: '"' :: '"' :: rest, read, _ => some (String.ofList ('"' :: read).reverse, rest)
  | '"' :: '"' :: '"' :: rest, read, _ => some (String.ofList read.reverse, rest)
  | '\r' :: '\n' :: rest, read, skipping =>
      readBasicLines rest (if skipping then read else '\n' :: read) skipping
  | '\n' :: rest, read, skipping =>
      readBasicLines rest (if skipping then read else '\n' :: read) skipping
  | '\\' :: 'u' :: a :: b :: c :: d :: rest, read, _ => do
      readBasicLines rest ((← codePoint? [a, b, c, d]) :: read) false
  | '\\' :: 'U' :: a :: b :: c :: d :: e :: f :: g :: h :: rest, read, _ => do
      readBasicLines rest ((← codePoint? [a, b, c, d, e, f, g, h]) :: read) false
  | '\\' :: letter :: rest, read, _ =>
      if continuesLine (letter :: rest) then readBasicLines (letter :: rest) read true
      else do readBasicLines rest ((← escaped? letter) :: read) false
  | character :: rest, read, skipping =>
      if skipping && isBlank character then
        readBasicLines rest read true
      else if isPlain character && character ≠ '\\' then
        readBasicLines rest (character :: read) false
      else
        none

/-- The rest of a literal string over several lines after its quotes, and what follows it. -/
def readLiteralLines : (text read : List Char) → Option (String × List Char)
  | [], _ => none
  | '\'' :: '\'' :: '\'' :: '\'' :: '\'' :: rest, read =>
      some (String.ofList ('\'' :: '\'' :: read).reverse, rest)
  | '\'' :: '\'' :: '\'' :: '\'' :: rest, read =>
      some (String.ofList ('\'' :: read).reverse, rest)
  | '\'' :: '\'' :: '\'' :: rest, read => some (String.ofList read.reverse, rest)
  | '\r' :: '\n' :: rest, read => readLiteralLines rest ('\n' :: read)
  | '\n' :: rest, read => readLiteralLines rest ('\n' :: read)
  | character :: rest, read =>
      if isPlain character then readLiteralLines rest (character :: read) else none

/-- The text after the end of a line at its front, if there is one. -/
def skipLineEnd (text : List Char) : List Char :=
  (lineEnd? text).getD text

/-- A string at the front of the text, and what follows it. -/
def readText : List Char → Option (String × List Char)
  | '"' :: '"' :: '"' :: rest => readBasicLines (skipLineEnd rest) [] false
  | '"' :: rest => readBasic rest []
  | '\'' :: '\'' :: '\'' :: rest => readLiteralLines (skipLineEnd rest) []
  | '\'' :: rest => readLiteral rest []
  | _ => none

/-- Whether the character may stand in a key without quotes. -/
def isBare (character : Char) : Bool :=
  character.isAlphanum || character = '_' || character = '-'

/-- One part of a key at the front of the text, and what follows it. -/
def readKeyPart (text : List Char) : Option (String × List Char) :=
  match text with
  | '"' :: rest => readBasic rest []
  | '\'' :: rest => readLiteral rest []
  | _ =>
      let part := text.takeWhile isBare
      if part.isEmpty then none else some (String.ofList part, text.dropWhile isBare)

/-- The parts of a dotted key at the front of the text, and what follows it and the blanks behind
it. -/
def readKey : (fuel : Nat) → List Char → Option (List String × List Char)
  | 0, _ => none
  | fuel + 1, text => do
      let (part, afterPart) ← readKeyPart (skipBlanks text)
      match skipBlanks afterPart with
      | '.' :: rest => do
          let (parts, further) ← readKey fuel rest
          return (part :: parts, further)
      | rest => return ([part], rest)

/-- Digits among which single underscores may stand, without these. -/
def groupedDigits? (isDigit : Char → Bool) (word : List Char) : Option (List Char) :=
  let isBroken := (word.zip (word.drop 1)).any fun (first, second) => first = '_' && second = '_'
  if word.head?.any isDigit && word.getLast?.any isDigit && !isBroken &&
      word.all (fun character => isDigit character || character = '_') then
    some (word.filter (· ≠ '_'))
  else
    none

/-- The digits of a decimal number that does not begin with a zero too many. -/
def decimalDigits? (word : List Char) : Option (List Char) := do
  let digits ← groupedDigits? Char.isDigit word
  if digits.head? = some '0' && word.length > 1 then none else some digits

/-- The number that digits of another base than ten spell, within the range of integers. -/
def basedNumber? (base : Nat) (isDigit : Char → Bool) (word : List Char) : Option Json := do
  let digits ← groupedDigits? isDigit word
  let number := digits.foldl (fun number digit => number * base + (hexNumber? [digit]).getD 0) 0
  if number < Nat.pow 2 63 then some (.integer number) else none

def splitSign : List Char → Bool × List Char
  | '-' :: rest => (true, rest)
  | '+' :: rest => (false, rest)
  | word => (false, word)

def integer? (word : List Char) : Option Json :=
  match word with
  | '0' :: 'x' :: digits =>
      basedNumber? 16 (fun character => (Json.hexDigit? character).isSome) digits
  | '0' :: 'o' :: digits =>
      basedNumber? 8 (fun character => '0' ≤ character && character ≤ '7') digits
  | '0' :: 'b' :: digits =>
      basedNumber? 2 (fun character => character = '0' || character = '1') digits
  | _ => do
      let (negative, unsigned) := splitSign word
      let number := decimalNumber (← decimalDigits? unsigned)
      if negative then
        if number ≤ Nat.pow 2 63 then some (.integer (-(number : Int))) else none
      else
        if number < Nat.pow 2 63 then some (.integer number) else none

/-- Whether `significand * 10 ^ exponent` rounds past the largest double. -/
def exceedsDouble (significand : Nat) (exponent : Int) : Bool :=
  if significand = 0 then
    false
  else if 0 ≤ exponent then
    exponent > 308 || significand * Nat.pow 10 exponent.toNat ≥ doubleBound
  else
    let shift := (-exponent).toNat
    let digitCount := (Nat.toDigits 10 significand).length
    shift < digitCount && significand ≥ doubleBound * Nat.pow 10 shift

/-- A number with a fraction or an exponent, or one of the special ones.  It may lie below the
least double, and not above the largest. -/
def real? (word : List Char) : Option Json := do
  let (negative, unsigned) := splitSign word
  if unsigned = ['i', 'n', 'f'] || unsigned = ['n', 'a', 'n'] then
    return .real (String.ofList word)
  let isExponentMark := fun character => character = 'e' || character = 'E'
  let mantissa := unsigned.takeWhile fun character => !isExponentMark character
  let exponentPart := unsigned.dropWhile fun character => !isExponentMark character
  let whole ← decimalDigits? (mantissa.takeWhile (· ≠ '.'))
  let fraction ← match mantissa.dropWhile (· ≠ '.') with
    | [] => some []
    | _ :: digits => groupedDigits? Char.isDigit digits
  let exponent : Int ← match exponentPart with
    | [] => some 0
    | _ :: rest => do
        let (negative, digits) := splitSign rest
        let size : Int := decimalNumber (← groupedDigits? Char.isDigit digits)
        some (if negative then -size else size)
  if exponentPart.isEmpty && !mantissa.contains '.' then
    none
  else if !negative &&
      exceedsDouble (decimalNumber (whole ++ fraction)) (exponent - fraction.length) then
    none
  else
    return .real (String.ofList word)

def isWordCharacter (character : Char) : Bool :=
  isBare character || character = '+' || character = '.' || character = ':'

/-- A number, a moment or a truth value at the front of the text, and what follows it. -/
def readWord (text : List Char) : Option (Json × List Char) :=
  match readMoment? text with
  | some (moment, rest) =>
      if rest.head?.any isWordCharacter then none else some (momentRecord moment, rest)
  | none =>
      let word := text.takeWhile isWordCharacter
      let rest := text.dropWhile isWordCharacter
      let value :=
        if word = ['t', 'r', 'u', 'e'] then some (.bool true)
        else if word = ['f', 'a', 'l', 's', 'e'] then some (.bool false)
        else (integer? word).or (real? word)
      value.map fun value => (value, rest)

end TenantFleet.Toml
