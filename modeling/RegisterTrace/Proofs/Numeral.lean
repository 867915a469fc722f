import Mathlib.Algebra.Group.Nat.Defs
import Mathlib.Data.List.Basic
import Mathlib.Data.List.Induction
import RegisterTrace.Numeral
import RegisterTrace.Proofs.Utf8

/-!
# Writing numerals and reading them

A number is written with digits below its base, at least one, and reading what was written gives the
number back, in every base up to sixteen.
-/

namespace RegisterTrace.Numeral

/-- A numeral is written with the digits below its base. -/
theorem exists_of_mem_toDigits
    {base number : Nat}
    {character : Char}
    (large : 1 < base)
    (member : character ∈ Nat.toDigits base number) :
    ∃ digit, digit < base ∧ character = Nat.digitChar digit := by
  induction number using Nat.strongRecOn with
  | ind number inductionHypothesis =>
      by_cases small : number < base
      · rw [Nat.toDigits_of_lt_base small, List.mem_singleton] at member
        exact ⟨number, small, member⟩
      · have positive : 0 < number := by omega
        rw [Nat.toDigits_of_base_le large (Nat.le_of_not_lt small), List.mem_append,
          List.mem_singleton] at member
        rcases member with leading | last
        · exact inductionHypothesis _ (Nat.div_lt_self positive large) leading
        · exact ⟨number % base, Nat.mod_lt _ (by omega), last⟩

theorem digit?_digitChar
    {digit : Nat}
    (small : digit < 16) :
    digit? (Nat.digitChar digit) = some digit := by
  revert digit
  decide

/-- A digit is below sixteen, and its character is in ASCII. -/
theorem lt_of_digit?_eq_some
    {character : Char}
    {digit : Nat}
    (found : digit? character = some digit) :
    digit < 16 ∧ character.toNat < Utf8.asciiCount := by
  rw [digit?] at found
  simp only [UInt32.le_iff_toNat_le, Char.toNat_val, Char.reduceToNat, Char.le_def] at found
  rw [Utf8.asciiCount]
  split at found
  · cases found
    omega
  · split at found
    · cases found
      omega
    · split at found
      · cases found
        omega
      · cases found

variable {base : Nat}

theorem isDigit_of_mem_toDigits
    (large : 1 < base)
    (upToSixteen : base ≤ 16)
    {number : Nat}
    {character : Char}
    (member : character ∈ Nat.toDigits base number) :
    isDigit base character := by
  rcases exists_of_mem_toDigits large member with ⟨digit, small, rfl⟩
  rw [isDigit, digit?_digitChar (Nat.lt_of_lt_of_le small upToSixteen), Option.any_some,
    decide_eq_true_eq]
  exact small

/-- The digits that a number is written with have its value. -/
theorem value_toDigits
    (large : 1 < base)
    (upToSixteen : base ≤ 16)
    (number : Nat) :
    value base (Nat.toDigits base number) = number := by
  induction number using Nat.strongRecOn with
  | ind number inductionHypothesis =>
      by_cases small : number < base
      · have digit := digit?_digitChar (Nat.lt_of_lt_of_le small upToSixteen)
        simp only [Nat.toDigits_of_lt_base small, value, List.foldl_cons, List.foldl_nil, digit,
          Nat.zero_mul, Nat.zero_add, Option.getD_some]
      · have positive : 0 < number := by omega
        have last := digit?_digitChar
          (Nat.lt_of_lt_of_le (Nat.mod_lt number (by omega : 0 < base)) upToSixteen)
        rw [Nat.toDigits_of_base_le large (Nat.le_of_not_lt small), value_append_singleton,
          inductionHypothesis _ (Nat.div_lt_self positive large), last, Option.getD_some,
          Nat.div_add_mod']

/-- Leading zeros do not change a value. -/
theorem value_zeros_append
    (count : Nat)
    (digits : List Char) :
    value base (List.replicate count '0' ++ digits) = value base digits := by
  induction count with
  | zero => rfl
  | succ count inductionHypothesis =>
      rw [List.replicate_succ, List.cons_append, value_zero_cons, inductionHypothesis]

/-- The value of a run of digits in two parts. -/
theorem value_append
    (first second : List Char) :
    value base (first ++ second) = value base first * base ^ second.length + value base second := by
  induction second using List.reverseRecOn with
  | nil => simp [value]
  | append_singleton front last inductionHypothesis =>
      rw [← List.append_assoc, value_append_singleton, value_append_singleton,
        inductionHypothesis, List.length_append, List.length_singleton, Nat.pow_succ, Nat.add_mul,
        Nat.mul_assoc, Nat.add_assoc]

/-- The characters 0 to 9, a to f and A to F. -/
def IsHexDigit (character : Char) : Prop :=
  ('0' ≤ character ∧ character ≤ '9') ∨
    ('a' ≤ character ∧ character ≤ 'f') ∨ ('A' ≤ character ∧ character ≤ 'F')

instance : DecidablePred IsHexDigit := fun character =>
  inferInstanceAs (Decidable
    (('0' ≤ character ∧ character ≤ '9') ∨
      ('a' ≤ character ∧ character ≤ 'f') ∨ ('A' ≤ character ∧ character ≤ 'F')))

theorem isDigit_sixteen_iff
    {character : Char} :
    isDigit 16 character ↔ IsHexDigit character := by
  rw [isDigit, digit?, IsHexDigit]
  simp only [Char.le_def, UInt32.le_iff_toNat_le, Char.toNat_val, Char.reduceToNat]
  split
  · next decimal =>
      simp only [decimal, and_self, true_or, iff_true, Option.any_some, decide_eq_true_eq]
      omega
  · split
    · next lower =>
        simp only [lower, and_self, true_or, or_true, iff_true, Option.any_some, decide_eq_true_eq]
        omega
    · split
      · next upper =>
          simp only [upper, and_self, or_true, iff_true, Option.any_some, decide_eq_true_eq]
          omega
      · next noDecimal noLower noUpper =>
          simp only [noDecimal, noLower, noUpper, or_self, Option.any_none, Bool.false_eq_true]

/-- The digits of base ten are those of ASCII. -/
theorem isDigit_ten_iff
    {character : Char} :
    isDigit 10 character ↔ character.isDigit := by
  delta Char.isDigit
  rw [isDigit, digit?]
  simp only [Char.le_def, UInt32.le_iff_toNat_le, Char.toNat_val, Char.reduceToNat, ge_iff_le,
    Bool.and_eq_true, decide_eq_true_eq]
  split
  · next decimal =>
      simp only [decimal, and_self, iff_true, Option.any_some, decide_eq_true_eq]
      omega
  · next noDecimal =>
      split
      · simp only [noDecimal, iff_false, Option.any_some, decide_eq_true_eq]
        omega
      · split
        · simp only [noDecimal, iff_false, Option.any_some, decide_eq_true_eq]
          omega
        · simp only [noDecimal, Option.any_none, Bool.false_eq_true]

/-- No digit is a plus sign. -/
theorem dropPlus_eq_self
    {digits : List Char}
    (accepted : ∀ digit ∈ digits, isDigit base digit) :
    dropPlus digits = digits := by
  unfold dropPlus
  split
  · cases accepted '+' List.mem_cons_self
  · rfl

/-- Digits are read as their value. -/
theorem read?_eq_value
    {digits : List Char}
    (nonempty : digits ≠ [])
    (accepted : ∀ digit ∈ digits, isDigit base digit) :
    read? base digits = some (value base digits) :=
  read?_eq_some_iff.mpr ⟨nonempty, List.all_eq_true.mpr accepted, rfl⟩

/-- Digits are read as the word that holds their value, if one does. -/
theorem readWord?_eq_ofNat?_value
    {digits : List Char}
    (nonempty : digits ≠ [])
    (accepted : ∀ digit ∈ digits, isDigit base digit) :
    readWord? base digits = Word.ofNat? (value base digits) := by
  rw [readWord?, dropPlus_eq_self accepted, read?_eq_value nonempty accepted, Option.bind_some]

/-- Digits with the value of a word are read as this word. -/
theorem readWord?_of_digits
    {digits : List Char}
    {word : Word}
    (nonempty : digits ≠ [])
    (accepted : ∀ digit ∈ digits, isDigit base digit)
    (value_eq : value base digits = word.toNat) :
    readWord? base digits = some word := by
  rw [readWord?_eq_ofNat?_value nonempty accepted, value_eq]
  exact Word.ofNat?_toNat word

/-- A text is a word exactly if it is digits with its value, or such digits behind a plus sign. -/
theorem readWord?_eq_some_iff
    {text : List Char}
    {word : Word} :
    readWord? base text = some word ↔
      ∃ digits,
        (text = digits ∨ text = '+' :: digits) ∧
          digits ≠ [] ∧
            (∀ digit ∈ digits, isDigit base digit) ∧ value base digits = word.toNat := by
  constructor
  · intro read
    rcases Option.bind_eq_some_iff.mp read with ⟨number, isNumber, held⟩
    rcases read?_eq_some_iff.mp isNumber with ⟨nonempty, accepted, value_eq⟩
    refine ⟨dropPlus text, ?_, nonempty, List.all_eq_true.mp accepted, ?_⟩
    · unfold dropPlus
      split
      · exact .inr rfl
      · exact .inl rfl
    · rw [value_eq]
      exact (Word.toNat_of_ofNat?_eq_some held).symm
  · rintro ⟨digits, written, nonempty, accepted, value_eq⟩
    have plain := readWord?_of_digits nonempty accepted value_eq
    rcases written with rfl | rfl
    · exact plain
    · rw [readWord?, dropPlus_eq_self accepted] at plain
      exact plain

theorem isDigit_of_mem_zeros_append
    (large : 1 < base)
    (upToSixteen : base ≤ 16)
    {count number : Nat}
    {digit : Char}
    (member : digit ∈ List.replicate count '0' ++ Nat.toDigits base number) :
    isDigit base digit := by
  rcases List.mem_append.mp member with zero | written
  · have isZero : digit = Nat.digitChar 0 := List.eq_of_mem_replicate zero
    rw [isZero, isDigit, digit?_digitChar (by decide), Option.any_some, decide_eq_true_eq]
    omega
  · exact isDigit_of_mem_toDigits large upToSixteen written

/-- A word is read back from its digits, with any number of zeros in front of them. -/
theorem readWord?_zeros_append
    (large : 1 < base)
    (upToSixteen : base ≤ 16)
    (count : Nat)
    (word : Word) :
    readWord? base (List.replicate count '0' ++ Nat.toDigits base word.toNat) = some word := by
  apply readWord?_of_digits
  · exact List.append_ne_nil_of_right_ne_nil _ Nat.toDigits_ne_nil
  · exact fun digit => isDigit_of_mem_zeros_append large upToSixteen
  · rw [value_zeros_append, value_toDigits large upToSixteen]

end RegisterTrace.Numeral
