/-!
# Binary floating-point numbers

A double-precision number without a sign is a significand below two to the fifty-third times a
power of two that is at least two to the minus one thousand and seventy-fourth.  Every operation
here is exact arithmetic on natural numbers followed by one rounding to the nearest such number,
where a tie goes to the even significand.
-/

namespace RegisterTrace

/-- The number `significand * 2 ^ exponent`. -/
structure Binary64 where
  significand : Nat
  exponent : Int
  deriving DecidableEq, Repr

namespace Binary64

/-- The number of bits of a significand. -/
def precision : Nat := 53

/-- The least exponent of a significand. -/
def leastExponent : Int := -1074

/-- The first power of two that is too large. -/
def limit : Int := 1024

/-- Zero. -/
def zero : Binary64 := ⟨0, leastExponent⟩

/-- The power of two with an exponent that is not negative, and one for the others. -/
def power (exponent : Int) : Nat :=
  Nat.pow 2 exponent.toNat

/-- The quotient of two numbers, rounded to the nearest integer and in a tie to the even one. -/
def roundQuotient (numerator denominator : Nat) : Nat :=
  let quotient := numerator / denominator
  let doubled := 2 * (numerator % denominator)
  if denominator < doubled ∨ (doubled = denominator ∧ quotient % 2 = 1) then
    quotient + 1
  else
    quotient

/-- The greatest exponent of two that a positive quotient reaches. -/
def magnitude (numerator denominator : Nat) : Int :=
  let estimate : Int := (numerator.log2 : Int) - denominator.log2
  if numerator * power (-estimate) < denominator * power estimate then
    estimate - 1
  else
    estimate

/-- The number nearest to a quotient, unless it is too large. -/
def nearest? (numerator denominator : Nat) : Option Binary64 :=
  if numerator = 0 then
    some zero
  else
    let exponent := max (magnitude numerator denominator - (precision - 1)) leastExponent
    let significand :=
      roundQuotient (numerator * power (-exponent)) (denominator * power exponent)
    let carried : Nat := if significand = Nat.pow 2 precision then 1 else 0
    let result : Binary64 := ⟨significand / Nat.pow 2 carried, exponent + carried⟩
    if limit ≤ result.exponent + result.significand.log2 then none else some result

/-- The number nearest to a natural number. -/
def ofNat? (number : Nat) : Option Binary64 :=
  nearest? number 1

/-- The rounded product of two numbers. -/
def mul? (left right : Binary64) : Option Binary64 :=
  let exponent := left.exponent + right.exponent
  nearest? (left.significand * right.significand * power exponent) (power (-exponent))

/-- The rounded quotient of a number by another that is not zero. -/
def div? (left right : Binary64) : Option Binary64 :=
  let exponent := left.exponent - right.exponent
  nearest? (left.significand * power exponent) (right.significand * power (-exponent))

/-- Whether a number is zero. -/
def isZero (number : Binary64) : Bool :=
  number.significand == 0

/-- The greatest power of ten that is scaled by in one step. -/
def greatestScale : Nat := 308

/-- A number times a power of ten; a power beyond every number is too much for all but zero. -/
def scaleUp? (number : Binary64) (places : Nat) : Option Binary64 :=
  if places ≤ greatestScale then
    (ofNat? (Nat.pow 10 places)).bind number.mul?
  else if number.isZero then
    some number
  else
    none

/-- A number divided by a power of ten. -/
def divideByTen? (number : Binary64) (places : Nat) : Option Binary64 :=
  (ofNat? (Nat.pow 10 places)).bind number.div?

/-- A number divided so many times by the greatest power of ten; zero stays what it is. -/
def scaleDownRepeatedly? (number : Binary64) : Nat → Option Binary64
  | 0 => some number
  | steps + 1 =>
      if number.isZero then
        some number
      else
        (number.divideByTen? greatestScale).bind (scaleDownRepeatedly? · steps)

/-- A number divided by a power of ten, at most the greatest power at a time. -/
def scaleDown? (number : Binary64) (places : Nat) : Option Binary64 :=
  let steps := (places - 1) / greatestScale
  (number.scaleDownRepeatedly? steps).bind (divideByTen? · (places - steps * greatestScale))

/-- A significand in decimal times a power of ten, rounded after every step. -/
def ofDecimal? (significand : Nat) (exponent : Int) : Option Binary64 :=
  (ofNat? significand).bind fun number =>
    if 0 ≤ exponent then
      number.scaleUp? exponent.toNat
    else
      number.scaleDown? (-exponent).toNat

end Binary64

end RegisterTrace
