import Mathlib.Algebra.Group.Nat.Defs
import RegisterTrace.Word

/-!
# Words as numbers

A word holds exactly the numbers below the count of words, and a sum of words is a word exactly if
it stays below that count.  The bits of a word below a width are its remainder by a power of two,
and the bits from the width on are its quotient by it.  Taking either part commutes with exclusive
or.
-/

namespace RegisterTrace.Word

/-! ## Numbers that a word holds -/

theorem ofNat?_eq_some_iff
    {number : Nat}
    {value : Word} :
    ofNat? number = some value ↔ value.toNat = number := by
  constructor
  · exact toNat_of_ofNat?_eq_some
  · rintro rfl
    exact ofNat?_toNat value

theorem ofNat?_eq_none_iff
    {number : Nat} :
    ofNat? number = none ↔ count ≤ number := by
  rw [ofNat?]
  split
  · next small => simp [small]
  · next large => simp [Nat.le_of_not_lt large]

theorem add?_eq_some_iff
    {left right sum : Word} :
    left.add? right = some sum ↔ sum.toNat = left.toNat + right.toNat :=
  ofNat?_eq_some_iff

theorem add?_eq_none_iff
    {left right : Word} :
    left.add? right = none ↔ count ≤ left.toNat + right.toNat :=
  ofNat?_eq_none_iff

/-! ## Masks and slices -/

theorem toNat_mask
    (width : Nat) :
    (mask width).toNat = 2 ^ (min width 32) - 1 := by
  rw [mask]
  split
  · next small =>
      have bound : 2 ^ width < 2 ^ 32 :=
        Nat.pow_lt_pow_right (by decide) small
      have inside : 2 ^ width - 1 < 2 ^ 32 := by omega
      rw [Nat.pow_eq, BitVec.toNat_ofNat, Nat.min_eq_left (Nat.le_of_lt small)]
      exact Nat.mod_eq_of_lt inside
  · next large =>
      rw [BitVec.toNat_allOnes, Nat.min_eq_right (Nat.le_of_not_lt large)]

/-- The bits below a width are the remainder by its power of two. -/
theorem toNat_low
    (value : Word)
    (width : Nat) :
    (low value width).toNat = value.toNat % 2 ^ width := by
  have wide : value.toNat < 2 ^ 32 := value.isLt
  rw [low, BitVec.toNat_and, toNat_mask, Nat.and_two_pow_sub_one_eq_mod]
  rcases Nat.le_total width 32 with small | large
  · rw [Nat.min_eq_left small]
  · rw [Nat.min_eq_right large, Nat.mod_eq_of_lt wide]
    exact (Nat.mod_eq_of_lt
      (Nat.lt_of_lt_of_le wide (Nat.pow_le_pow_right (by decide) large))).symm

/-- The bits from a width on are the quotient by its power of two. -/
theorem toNat_drop
    (value : Word)
    (width : Nat) :
    (drop value width).toNat = value.toNat / 2 ^ width := by
  rw [drop, BitVec.toNat_ushiftRight, Nat.shiftRight_eq_div_pow]

theorem low_xor
    (left right : Word)
    (width : Nat) :
    low (left ^^^ right) width = low left width ^^^ low right width := by
  apply BitVec.eq_of_toNat_eq
  simp only [low, BitVec.toNat_and, BitVec.toNat_xor, Nat.and_xor_distrib_right]

theorem drop_xor
    (left right : Word)
    (width : Nat) :
    drop (left ^^^ right) width = drop left width ^^^ drop right width :=
  BitVec.ushiftRight_xor_distrib left right width

@[simp]
theorem low_zero
    (width : Nat) :
    low 0 width = 0 :=
  BitVec.zero_and

@[simp]
theorem drop_zero
    (width : Nat) :
    drop 0 width = 0 :=
  BitVec.zero_ushiftRight

end RegisterTrace.Word
