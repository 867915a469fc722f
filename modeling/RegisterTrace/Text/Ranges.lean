/-!
# Sets of characters as ranges

A property of characters is a table of inclusive ranges of code points.
-/

namespace RegisterTrace

/-- A set of characters, given by the first and last code point of each of its stretches. -/
abbrev CharacterRanges := List (Nat × Nat)

/-- Whether a character stands in one of the stretches. -/
def CharacterRanges.contains
    (ranges : CharacterRanges)
    (character : Char) :
    Bool :=
  ranges.any fun range =>
    range.1 ≤ character.toNat && character.toNat ≤ range.2

end RegisterTrace
