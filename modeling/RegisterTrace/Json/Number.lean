import RegisterTrace.Json.Reader

/-!
# Numbers in JSON text

A number is read as the runs of digits that it is written with.  Only a number that stands where
another kind of value is asked for is evaluated, because the message shows it: as an integer if it
is written without a point and an exponent and fits into sixty-four bits, and as a floating-point
number otherwise.
-/

namespace RegisterTrace.Json.Number

open Reader

/-- The runs of digits of a number. -/
structure Parts where
  negative : Bool
  whole : List UInt8
  fraction : List UInt8
  exponent : Option (Bool × List UInt8)
  deriving DecidableEq, Repr

/-- Takes a run of digits and asks for the byte after it. -/
def digits : Reader (List UInt8) := do
  let run ← span isDigit
  let _ ← peek
  return run

/-- Stops where a digit must stand; `atEnd` is the fault if nothing stands there. -/
def noDigit {Result : Type} (atEnd : Fault) (found : Option UInt8) : Reader Result :=
  match found with
  | some _ => slip .invalidNumber
  | none => fail atEnd

/-- Takes the digits before the point, of which the first may be the only zero. -/
def whole (atEnd : Fault) (first : Option UInt8) : Reader (List UInt8) :=
  match first with
  | none => fail atEnd
  | some found =>
      if found = byte '0' then do
        match ← peek with
        | some following => if isDigit following then slip .invalidNumber else return [found]
        | none => return [found]
      else if isDigit found then
        return found :: (← digits)
      else
        slip .invalidNumber

/-- Takes the digits after a point, of which there must be one. -/
def fraction (atEnd : Fault) : Reader (List UInt8) := do
  match ← digits with
  | [] => noDigit atEnd (← peek)
  | first :: more => return first :: more

/-- Takes the sign that may follow, and tells whether it is a minus sign. -/
def sign : Reader Bool := do
  let found ← peek
  if found = some (byte '+') then
    let _ ← next
    return false
  else if found = some (byte '-') then
    let _ ← next
    return true
  else
    return false

/-- Takes the sign and the digits of an exponent, and asks for no byte after them. -/
def exponent (atEnd : Fault) : Reader (Bool × List UInt8) := do
  let negative ← sign
  match ← next with
  | some first =>
      if isDigit first then
        return (negative, first :: (← span isDigit))
      else
        slip .invalidNumber
  | none => fail atEnd

/-- Whether a byte starts an exponent. -/
def startsExponent (found : Option UInt8) : Bool :=
  found == some (byte 'e') || found == some (byte 'E')

/-- Takes the exponent that may follow. -/
def exponent? (atEnd : Fault) : Reader (Option (Bool × List UInt8)) := do
  if startsExponent (← peek) then
    let _ ← next
    return some (← exponent atEnd)
  else
    return none

/-- Takes the point and the digits that may follow. -/
def fraction? (atEnd : Fault) : Reader (List UInt8) := do
  if (← peek) = some (byte '.') then
    let _ ← next
    fraction atEnd
  else
    return []

/-- Takes the number that starts with a byte that was taken already. -/
def parts (atEnd : Fault) (first : UInt8) : Reader Parts := do
  let negative : Bool := first = byte '-'
  let leading ← if negative then next else pure (some first)
  let whole ← whole atEnd leading
  let fraction ← fraction? atEnd
  let exponent ← exponent? atEnd
  return { negative, whole, fraction, exponent }

/-- Takes a number that is skipped. -/
def skipped (first : UInt8) : Reader Unit := do
  let _ ← parts (.malformed .invalidNumber) first
  let _ ← peek
  return ()

/-- The value of a digit. -/
def digitValue (digit : UInt8) : Nat :=
  digit.toNat - 0x30

/-- The number that digits write. -/
def value (digits : List UInt8) : Nat :=
  digits.foldl (fun total digit => total * 10 + digitValue digit) 0

/-- The first number that a significand cannot be. -/
def significandLimit : Nat := Nat.pow 2 64

/-- The first number that an exponent cannot be. -/
def exponentLimit : Nat := Nat.pow 2 31

/--
A significand with as many further digits as it can take, and their number.  From the first digit
that is too much on, all are left.
-/
def absorb (significand : Nat) : List UInt8 → Nat × Nat
  | [] => (significand, 0)
  | digit :: rest =>
      let longer := significand * 10 + digitValue digit
      if longer < significandLimit then
        let (total, count) := absorb longer rest
        (total, count + 1)
      else
        (significand, 0)

namespace Parts

/-- Whether the exponent is written with a number that is too large. -/
def exponentTooLarge (parts : Parts) : Bool :=
  parts.exponent.any fun exponent => exponentLimit ≤ value exponent.2

/-- Whether the exponent is written with a minus sign. -/
def exponentNegative (parts : Parts) : Bool :=
  parts.exponent.any (·.1)

/-- The significand, and the power of ten that the digits left out and the places amount to. -/
def significand (parts : Parts) : Nat × Int :=
  let (whole, wholeCount) := absorb 0 parts.whole
  let (all, fractionCount) := absorb whole parts.fraction
  (all, (parts.whole.length - wholeCount : Nat) - (fractionCount : Int))

/-- The integer that a number without a point and an exponent writes, if it fits. -/
def integer? (parts : Parts) : Option Found :=
  let magnitude := value parts.whole
  if parts.fraction ≠ [] ∨ parts.exponent.isSome then
    none
  else if parts.negative then
    if magnitude ≠ 0 ∧ magnitude ≤ Nat.pow 2 63 then some (.integer true magnitude) else none
  else
    if magnitude < significandLimit then some (.integer false magnitude) else none

/-- The power of ten that the exponent adds. -/
def power (parts : Parts) : Int :=
  match parts.exponent with
  | none => 0
  | some (true, digits) => -(value digits : Int)
  | some (false, digits) => value digits

/-- The floating-point number that a number writes, if it is not too large. -/
def fraction? (parts : Parts) : Option Found :=
  let (significand, places) := parts.significand
  if parts.exponentTooLarge then
    if significand = 0 ∨ parts.exponentNegative then
      some (.fraction parts.negative Binary64.zero)
    else
      none
  else
    (Binary64.ofDecimal? significand (places + parts.power)).map (.fraction parts.negative)

/-- What a number writes, if it is not too large. -/
def found? (parts : Parts) : Option Found :=
  match parts.integer? with
  | some found => some found
  | none => parts.fraction?

end Parts

/--
Takes a number and evaluates it.  An exponent that makes it too large by itself is refused before
the byte after it is asked for.
-/
def evaluated (first : UInt8) : Reader Found := do
  let parts ← parts (.ended .value) first
  if parts.exponentTooLarge ∧ parts.found? = none then
    slip .numberOutOfRange
  else
    let _ ← peek
    match parts.found? with
    | some found => return found
    | none => slip .numberOutOfRange

end RegisterTrace.Json.Number
