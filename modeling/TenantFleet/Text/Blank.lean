import TenantFleet.Text.Ranges

/-!
# Blank characters

The code points with the property `White_Space`, which are skipped at the start
of a document before its format is told from its first character.
-/

namespace TenantFleet.Text

/-- Code points that count as white space. -/
def blank : Ranges :=
  [(0x9, 0xD), (0x20, 0x20), (0x85, 0x85), (0xA0, 0xA0), (0x1680, 0x1680), (0x2000, 0x200A),
   (0x2028, 0x2029), (0x202F, 0x202F), (0x205F, 0x205F), (0x3000, 0x3000)]

def skipBlank (characters : List Char) : List Char :=
  characters.dropWhile blank.has

end TenantFleet.Text
