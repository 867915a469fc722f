import RegisterTrace.Word

/-!
# Numerals

Numbers are read from runs of digits in base ten or sixteen and written back in the same bases.
Reading is strict: a numeral is an optional plus sign and then ASCII digits only, at least one,
with any number of leading zeros.  A word is read only if a word holds the value exactly.
-/

namespace RegisterTrace.Numeral

/-- The value of a digit; the letters of either case go on after nine. -/
def digit? (character : Char) : Option Nat :=
  if '0' ≤ character ∧ character ≤ '9' then
    some (character.toNat - '0'.toNat)
  else if 'a' ≤ character ∧ character ≤ 'f' then
    some (character.toNat - 'a'.toNat + 10)
  else if 'A' ≤ character ∧ character ≤ 'F' then
    some (character.toNat - 'A'.toNat + 10)
  else
    none

/-- Whether a character is a digit of a base up to sixteen. -/
def isDigit (base : Nat) (character : Char) : Bool :=
  (digit? character).any (· < base)

/-- The number that a run of digits stands for. -/
def value (base : Nat) (digits : List Char) : Nat :=
  digits.foldl (fun total character => total * base + (digit? character).getD 0) 0

/-- The number written by a non-empty run of digits. -/
def read? (base : Nat) (text : List Char) : Option Nat :=
  if text ≠ [] ∧ text.all (isDigit base) then some (value base text) else none

/-- A text without the plus sign that it may start with. -/
def dropPlus : List Char → List Char
  | '+' :: rest => rest
  | text => text

/-- The word written by digits after an optional plus sign. -/
def readWord? (base : Nat) (text : List Char) : Option Word :=
  (read? base (dropPlus text)).bind Word.ofNat?

/-- The decimal digits of a number, without leading zeros. -/
def decimal (number : Nat) : String :=
  String.ofList (Nat.toDigits 10 number)

/-- The hexadecimal digits of a number in lower case, without leading zeros. -/
def hex (number : Nat) : String :=
  String.ofList (Nat.toDigits 16 number)

/-- A number in hexadecimal behind its mark. -/
def markedHex (number : Nat) : String :=
  "0x" ++ hex number

/-- A register address behind the hexadecimal mark, filled with zeros to four digits. -/
def address (address : Word) : String :=
  "0x" ++ String.ofList ((Nat.toDigits 16 address.toNat).leftpad 4 '0')

/-- The value of a run of digits, one digit longer. -/
theorem value_append_singleton
    (base : Nat)
    (digits : List Char)
    (last : Char) :
    value base (digits ++ [last]) =
      value base digits * base + (digit? last).getD 0 := by
  simp [value]

/-- A leading zero does not change a value. -/
theorem value_zero_cons
    (base : Nat)
    (digits : List Char) :
    value base ('0' :: digits) = value base digits := by
  have zero : digit? '0' = some 0 := by decide
  simp [value, zero]

theorem read?_eq_some_iff
    {base number : Nat}
    {text : List Char} :
    read? base text = some number ↔
      text ≠ [] ∧ text.all (isDigit base) ∧ value base text = number := by
  unfold read?
  split
  · next accepted => simp [accepted]
  · next refused =>
      constructor
      · intro impossible
        exact absurd impossible (by simp)
      · rintro ⟨nonempty, digits, _⟩
        exact absurd ⟨nonempty, digits⟩ refused

end RegisterTrace.Numeral
