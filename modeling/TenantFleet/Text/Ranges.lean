/-!
# Sets of characters

A set of characters, written as inclusive ranges of code points.  The tables of
character properties beside this module are such sets.
-/

namespace TenantFleet.Text

/-- Inclusive ranges of code points. -/
abbrev Ranges := List (Nat × Nat)

/-- Whether the code point of `character` lies in one of the ranges. -/
def Ranges.has (ranges : Ranges) (character : Char) : Bool :=
  ranges.any fun (first, last) => first ≤ character.toNat && character.toNat ≤ last

end TenantFleet.Text
