import TenantFleet.Json.Basic

/-!
# Numbers in JSON text

A number that is not written as an integer stands for a double.  Its digits are
gathered into a significand of 64 bits; the digits that no longer fit are left
out, and the significand is then scaled by a power of ten in one multiplication
of doubles.  Which numbers come out past the largest double follows from these
two steps, each of which rounds.
-/

namespace TenantFleet.Json

/-- The decimal digits at the front of the text, and what follows them. -/
def readDigits (text : List Char) : List Char × List Char :=
  (text.takeWhile Char.isDigit, text.dropWhile Char.isDigit)

def withDigit (number : Nat) (digit : Char) : Nat :=
  number * 10 + (digit.toNat - '0'.toNat)

def decimalNumber (digits : List Char) : Nat :=
  digits.foldl withDigit 0

/-- The significand with as many of the digits at its end as fit into 64 bits, and the digits from
the first that does not. -/
def gatherDigits (significand : Nat) : List Char → Nat × List Char
  | [] => (significand, [])
  | digit :: rest =>
      if withDigit significand digit < Nat.pow 2 64 then
        gatherDigits (withDigit significand digit) rest
      else (significand, digit :: rest)

/-- The double nearest to a number, and of two equally near ones the even one. -/
def nearestDouble (number : Nat) : Nat :=
  let unit := Nat.pow 2 (number.log2 - 52)
  let quotient := number / unit
  let excess := 2 * (number % unit)
  if excess < unit || (excess = unit && quotient % 2 = 0) then quotient * unit
  else (quotient + 1) * unit

/-- The least number that rounds past the largest double. -/
def doubleBound : Nat := Nat.pow 2 1024 - Nat.pow 2 970

/-- Whether the double of the significand, times the double of the power of ten, exceeds the
largest double. -/
def isPastDoubles (significand : Nat) (exponent : Int) : Bool :=
  if significand = 0 || exponent < 0 then
    false
  else
    exponent > 308 ||
      nearestDouble significand * nearestDouble (Nat.pow 10 exponent.toNat) ≥ doubleBound

/-- A fraction part at the front of the text: its digits, and what follows. -/
def readFraction : List Char → Option (List Char × List Char)
  | '.' :: rest =>
      let (digits, further) := readDigits rest
      if digits.isEmpty then none else some (digits, further)
  | text => some ([], text)

/-- An exponent part at the front of the text, if there is one, and what follows. -/
def readExponent : List Char → Option (Option Int × List Char)
  | letter :: rest =>
      if letter = 'e' || letter = 'E' then
        let (negative, unsigned) := match rest with
          | '-' :: further => (true, further)
          | '+' :: further => (false, further)
          | _ => (false, rest)
        let (digits, further) := readDigits unsigned
        if digits.isEmpty then
          none
        else
          let size : Int := decimalNumber digits
          some (some (if negative then -size else size), further)
      else
        some (none, letter :: rest)
  | [] => some (none, [])

/-- Whether a number of these parts exceeds the largest double.  A digit of the whole part that is
left out counts for its place, and one of the fraction for nothing. -/
def isOutOfRange (whole fraction : List Char) (exponent : Int) : Bool :=
  let (leading, dropped) := gatherDigits 0 whole
  let (significand, ignored) := gatherDigits leading fraction
  isPastDoubles significand (exponent + dropped.length - (fraction.length - ignored.length))

/-- A number at the front of the text, and what follows it. -/
def readNumber (text : List Char) : Option (Json × List Char) := do
  let (negative, unsigned) := match text with
    | '-' :: rest => (true, rest)
    | _ => (false, text)
  let (whole, afterWhole) := readDigits unsigned
  if whole.isEmpty || (whole.head? = some '0' && whole.length > 1) then
    none
  else
    let (fraction, afterFraction) ← readFraction afterWhole
    let (exponent, rest) ← readExponent afterFraction
    if isOutOfRange whole fraction (exponent.getD 0) then
      some (.garbled, rest)
    else
      let number := decimalNumber whole
      if fraction.isEmpty && exponent.isNone && !(negative && number = 0) then
        some (.integer (if negative then -(number : Int) else number), rest)
      else
        some (.real (String.ofList (text.take (text.length - rest.length))), rest)

end TenantFleet.Json
