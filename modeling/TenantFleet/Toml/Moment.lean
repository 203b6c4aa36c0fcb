import TenantFleet.Json.Number

/-!
# Dates and times in TOML

A moment is a date, a time of day, or a date with a time and perhaps an offset
from universal time.  As a value it is a record with a single field, of a name
that no record of the model knows, and the field holds the moment in its usual
spelling: a capital letter between the date and the time, and a fraction of a
second with nine digits at most and no zeros at its end.
-/

namespace TenantFleet.Toml

open Json (decimalNumber readDigits)

def momentField : String := "$__toml_private_datetime"

def momentRecord (spelling : List Char) : Json :=
  .object [(momentField, .string (String.ofList spelling))]

/-- The number that two digits spell, within bounds. -/
def twoDigits? (first second : Char) (least most : Nat) : Option Nat :=
  if first.isDigit && second.isDigit then
    let number := decimalNumber [first, second]
    if least ≤ number && number ≤ most then some number else none
  else
    none

def daysOf (year month : Nat) : Nat :=
  if month = 2 then
    if (year % 4 = 0 && year % 100 ≠ 0) || year % 400 = 0 then 29 else 28
  else if month = 4 || month = 6 || month = 9 || month = 11 then
    30
  else
    31

/-- The calendar date at the front of the text, and what follows it. -/
def readDate? : List Char → Option (List Char × List Char)
  | a :: b :: c :: d :: '-' :: e :: f :: '-' :: g :: h :: rest => do
      if [a, b, c, d].all Char.isDigit then
        let month ← twoDigits? e f 1 12
        let _ ← twoDigits? g h 1 (daysOf (decimalNumber [a, b, c, d]) month)
        return ([a, b, c, d, '-', e, f, '-', g, h], rest)
      else
        none
  | _ => none

/-- The fraction of a second at the front of the text, if there is one, and what follows it. -/
def readSecondFraction? : List Char → Option (List Char × List Char)
  | '.' :: rest =>
      let (digits, further) := readDigits rest
      let kept := ((digits.take 9).reverse.dropWhile (· = '0')).reverse
      if digits.isEmpty then none
      else some (if kept.isEmpty then [] else '.' :: kept, further)
  | text => some ([], text)

/-- The time of day at the front of the text, and what follows it. -/
def readTime? : List Char → Option (List Char × List Char)
  | a :: b :: ':' :: c :: d :: ':' :: e :: f :: rest => do
      let _ ← twoDigits? a b 0 23
      let _ ← twoDigits? c d 0 59
      let _ ← twoDigits? e f 0 60
      let (fraction, further) ← readSecondFraction? rest
      return ([a, b, ':', c, d, ':', e, f] ++ fraction, further)
  | _ => none

/-- The offset from universal time at the front of the text, if there is one, and what follows it;
no offset is written with a minus. -/
def readOffset : List Char → List Char × List Char
  | 'Z' :: rest => (['Z'], rest)
  | 'z' :: rest => (['Z'], rest)
  | sign :: a :: b :: ':' :: c :: d :: rest =>
      match twoDigits? a b 0 23, twoDigits? c d 0 59 with
      | some hours, some minutes =>
          if sign = '+' || (sign = '-' && hours + minutes = 0) then
            (['+', a, b, ':', c, d], rest)
          else if sign = '-' then
            (['-', a, b, ':', c, d], rest)
          else
            ([], sign :: a :: b :: ':' :: c :: d :: rest)
      | _, _ => ([], sign :: a :: b :: ':' :: c :: d :: rest)
  | text => ([], text)

/-- The date, the time, or both at the front of the text, and what follows. -/
def readMoment? (text : List Char) : Option (List Char × List Char) :=
  match readDate? text with
  | none => readTime? text
  | some (date, rest) =>
      match rest with
      | [] => some (date, rest)
      | separator :: afterSeparator =>
          if separator = 'T' || separator = 't' || separator = ' ' then
            match readTime? afterSeparator with
            | none => some (date, rest)
            | some (time, afterTime) =>
                let (offset, further) := readOffset afterTime
                some (date ++ 'T' :: time ++ offset, further)
          else
            some (date, rest)

end TenantFleet.Toml
