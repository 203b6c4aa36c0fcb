import TenantFleet.Text.Hidden
import TenantFleet.Text.Extending

/-!
# Quoted text

The form in which messages show a text: between double quotes, with a backslash
before a quote and a backslash, a letter for the common controls, and the code
point in lower-case hexadecimal for every character that would not be seen by
itself.
-/

namespace TenantFleet.Text

/-- The digits of `number` in lower-case hexadecimal, without leading zeros. -/
def hexadecimal (number : Nat) : List Char :=
  Nat.toDigits 16 number

def quoteCharacter (character : Char) : List Char :=
  match character with
  | '"' => ['\\', '"']
  | '\\' => ['\\', '\\']
  | '\n' => ['\\', 'n']
  | '\r' => ['\\', 'r']
  | '\t' => ['\\', 't']
  | '\x00' => ['\\', '0']
  | _ =>
      if ' ' ≤ character && character ≤ '~' then
        [character]
      else if extending.has character || hidden.has character then
        ['\\', 'u', '\x7b'] ++ hexadecimal character.toNat ++ ['\x7d']
      else
        [character]

/-- The text between double quotes, as messages show it. -/
def quoted (text : String) : String :=
  String.ofList (['"'] ++ text.toList.flatMap quoteCharacter ++ ['"'])

end TenantFleet.Text
