import TenantFleet.World

/-!
# Draws

Supplies for worlds whose draws only have to differ from each other: numbers
counted on from a seed, and scattered so that neighbours share no digits.
Multiplication by an odd number permutes the numbers of a fixed length in bits,
so no draw comes twice before all have come.
-/

namespace TenantFleet

def Supply.constant {α : Type} (value : α) : Supply α :=
  ⟨fun _ => value, 0⟩

def scatteredSuffixes (seed : Nat) : Supply NameSuffix :=
  ⟨fun index => Fin.ofNat 0x100000 ((seed + index) * 0x9E375 + 0x3C6EF), 0⟩

/-- Scattered ids of eight hexadecimal digits. -/
def scatteredIds (seed : Nat) : Supply String :=
  ⟨fun index =>
    let digits := Nat.toDigits 16 (((seed + index) * 0x9E3779B1 + 0x7F4A7C15) % 0x100000000)
    String.ofList (List.replicate (idLength - digits.length) '0' ++ digits), 0⟩

/-- The world around a store at a time that stands still, with draws from a seed. -/
def World.around (store : Store) (now seed : Nat) : World where
  store := store
  clock := .constant now
  suffixes := scatteredSuffixes seed
  ids := scatteredIds seed

end TenantFleet
