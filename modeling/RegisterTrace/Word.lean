/-!
# Words

A register holds a word of thirty-two bits and stands at an address of thirty-two bits.  The two
operations here cut a word into fields: `Word.low` keeps the bits below a width, `Word.drop`
moves them out.  Both are defined for every width.  From the thirty-second bit on the first keeps
everything and the second leaves nothing, so a list of widths of any total can be walked without a
case for overflow.
-/

namespace RegisterTrace

/-- A register value or a register address. -/
abbrev Word := BitVec 32

namespace Word

/-- How many words there are, which is the first number that no word holds. -/
def count : Nat := Nat.pow 2 32

/-- The word that has exactly its low `width` bits set. -/
def mask (width : Nat) : Word :=
  if width < 32 then BitVec.ofNat 32 (Nat.pow 2 width - 1) else BitVec.allOnes 32

/-- The bits of a word below `width`. -/
def low (value : Word) (width : Nat) : Word :=
  value &&& mask width

/-- The bits of a word from `width` on, moved down to the start. -/
def drop (value : Word) (width : Nat) : Word :=
  value >>> width

/-- The word that holds a number, if one does. -/
def ofNat? (number : Nat) : Option Word :=
  if number < count then some (BitVec.ofNat 32 number) else none

/-- The sum of two words, if a word holds it. -/
def add? (left right : Word) : Option Word :=
  ofNat? (left.toNat + right.toNat)

theorem toNat_of_ofNat?_eq_some
    {number : Nat}
    {value : Word}
    (held : ofNat? number = some value) :
    value.toNat = number := by
  unfold ofNat? at held
  split at held
  · next small =>
      cases held
      exact Nat.mod_eq_of_lt small
  · exact absurd held (by simp)

theorem ofNat?_toNat
    (value : Word) :
    ofNat? value.toNat = some value := by
  have small : value.toNat < count := value.isLt
  rw [ofNat?, if_pos small, BitVec.ofNat_toNat, BitVec.setWidth_eq]

end Word

end RegisterTrace
