import RegisterTrace.Binary64
import RegisterTrace.Numeral

/-!
# Shortest decimals

A floating-point number is shown by the fewest decimal digits that lie nearer to it than to any
other number, and of these by the ones nearest to it.  All comparisons are exact: the number and
the two ends of the stretch that rounds to it are fractions with one denominator.
-/

namespace RegisterTrace.Binary64

/-- The decimal `digits * 10 ^ exponent`. -/
structure Decimal where
  digits : Nat
  exponent : Int
  deriving DecidableEq, Repr

/--
The stretch of fractions that round to a number, over one denominator.  The ends belong to it if
the significand is even, because ties go there.
-/
structure Stretch where
  low : Nat
  middle : Nat
  high : Nat
  denominator : Nat
  closed : Bool
  deriving Repr

/-- The stretch of a number; below a power of two the next number is at half the distance. -/
def stretch (number : Binary64) : Stretch :=
  let narrow :=
    number.significand = Nat.pow 2 (precision - 1) ∧ leastExponent < number.exponent
  let scale := power number.exponent
  { low := (4 * number.significand - (if narrow then 1 else 2)) * scale
    middle := 4 * number.significand * scale
    high := (4 * number.significand + 2) * scale
    denominator := 4 * power (-number.exponent)
    closed := number.significand % 2 == 0 }

/-- Whether a fraction over the stretch's denominator lies in the stretch. -/
def Stretch.contains (stretch : Stretch) (numerator divisor : Nat) : Bool :=
  if stretch.closed then
    stretch.low * divisor ≤ numerator && numerator ≤ stretch.high * divisor
  else
    stretch.low * divisor < numerator && numerator < stretch.high * divisor

/-- The multiple of a power of ten in the stretch that is nearest to its middle. -/
def Stretch.onGrid? (stretch : Stretch) (places : Int) : Option Decimal :=
  let step := Nat.pow 10 places.toNat * stretch.denominator
  let divisor := Nat.pow 10 (-places).toNat
  let middle := stretch.middle * divisor
  let below := middle / step
  let remainder := middle % step
  let holdsBelow := below != 0 && stretch.contains (below * step) divisor
  let holdsAbove := stretch.contains ((below + 1) * step) divisor
  let nearerBelow := 2 * remainder < step || (2 * remainder == step && below % 2 == 0)
  if holdsBelow && (nearerBelow || !holdsAbove) then
    some ⟨below, places⟩
  else if holdsAbove then
    some ⟨below + 1, places⟩
  else
    none

/-- The first decimal found on grids from a power of ten downwards, each ten times finer. -/
def Stretch.shortestFrom (stretch : Stretch) (places : Int) : Nat → Decimal
  | 0 => ⟨0, 0⟩
  | grids + 1 =>
      match stretch.onGrid? places with
      | some decimal => decimal
      | none => stretch.shortestFrom (places - 1) grids

/-- An upper bound of the power of ten that a number reaches. -/
def leadingPlace (number : Binary64) : Int :=
  (number.exponent + number.significand.log2 + 1) * 30103 / 100000 + 1

/-- The shortest decimal that rounds to a number, which has at most seventeen digits. -/
def shortest (number : Binary64) : Decimal :=
  if number.isZero then
    ⟨0, 0⟩
  else
    number.stretch.shortestFrom number.leadingPlace 20

/-- The places of the leading digit between which a decimal is written with a point alone. -/
structure Layout where
  leastPositional : Int
  greatestPositional : Int

/--
Numbers from a hundred-thousandth up to below ten to the sixteenth are written with a point and at
least one place after it, all others with an exponent that always has a sign.
-/
def layout : Layout := ⟨-5, 15⟩

/-- Decimal digits with a point before the last `places` of them. -/
def pointed (digits : List Char) (places : Nat) : String :=
  let filled := digits.leftpad (places + 1) '0'
  let (whole, fraction) := filled.splitAt (filled.length - places)
  String.ofList whole ++ "." ++ String.ofList fraction

/-- The exponent behind its mark, with a sign. -/
def exponentText (exponent : Int) : String :=
  (if exponent < 0 then "e-" else "e+") ++ Numeral.decimal exponent.natAbs

/-- The text of a decimal. -/
def Decimal.text (decimal : Decimal) : String :=
  let digits := Nat.toDigits 10 decimal.digits
  let leading := decimal.exponent + digits.length - 1
  if layout.leastPositional ≤ leading ∧ leading ≤ layout.greatestPositional then
    if 0 ≤ decimal.exponent then
      String.ofList (digits ++ List.replicate decimal.exponent.toNat '0') ++ ".0"
    else
      pointed digits (-decimal.exponent).toNat
  else
    match digits with
    | first :: [] => String.ofList [first] ++ exponentText leading
    | digits => pointed digits (digits.length - 1) ++ exponentText leading

/-- The text of a number by its shortest decimal. -/
def text (number : Binary64) : String :=
  number.shortest.text

end RegisterTrace.Binary64
