/-!
# Blank characters

The characters of Unicode that separate words: those with a separating direction and
the spaces of every width.
-/

namespace FrameworkLint.Text

/-- The ranges of the code points of blank characters, in order. -/
def blankRanges : List (Nat × Nat) :=
  [(0x9, 0xD), (0x1C, 0x20), (0x85, 0x85), (0xA0, 0xA0), (0x1680, 0x1680), (0x2000, 0x200A),
   (0x2028, 0x2029), (0x202F, 0x202F), (0x205F, 0x205F), (0x3000, 0x3000)]

def isBlank (character : Char) : Bool :=
  blankRanges.any fun range => range.1 ≤ character.toNat && character.toNat ≤ range.2

end FrameworkLint.Text
