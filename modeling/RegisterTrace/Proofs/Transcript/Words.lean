import RegisterTrace.Payload
import RegisterTrace.Proofs.FieldLine

/-!
# The words of a line

The columns of a transcript are filled with spaces as far as their texts leave room, and a text that
is too long for its column moves the others.  So a line is told by its words, which stand between
spaces however many there are.  A field line has four words and the marker of a change, and in both
of its columns the number of the field's value stands.
-/

namespace RegisterTrace.Transcript

variable {text : List Char}

/-! ## Words -/

/-- A text that is not empty and has neither spaces nor line feeds. -/
structure IsWord (text : List Char) : Prop where
  nonempty : text ≠ []
  noSpace : ' ' ∉ text
  noLineFeed : '\n' ∉ text

instance (text : List Char) : Decidable (IsWord text) :=
  decidable_of_iff (text ≠ [] ∧ ' ' ∉ text ∧ '\n' ∉ text)
    ⟨fun holds => ⟨holds.1, holds.2.1, holds.2.2⟩,
      fun isWord => ⟨isWord.nonempty, isWord.noSpace, isWord.noLineFeed⟩⟩

/-- What stands between the spaces of a line. -/
def words (line : List Char) : List (List Char) :=
  (line.splitOn ' ').filter (· ≠ [])

theorem words_append_space
    (left right : List Char) :
    words (left ++ ' ' :: right) = words left ++ words right := by
  rw [words, List.splitOn_append_cons_self, List.filter_append]
  rfl

theorem words_replicate_space
    (count : Nat) :
    words (List.replicate count ' ') = [] := by
  induction count with
  | zero => rfl
  | succ count inductionHypothesis =>
      rw [List.replicate_succ, ← List.nil_append (' ' :: _), words_append_space,
        inductionHypothesis]
      rfl

theorem IsWord.words_eq
    (isWord : IsWord text) :
    words text = [text] := by
  rw [words, List.splitOn_eq_singleton isWord.noSpace]
  simp [isWord.nonempty]

/-- Filling a word up with spaces adds no word. -/
theorem words_fillRight
    {text : String}
    (isWord : IsWord text.toList)
    (width : Nat) :
    words (fillRight width text).toList = [text.toList] := by
  rw [toList_fillRight]
  cases width - text.toList.length with
  | zero => rw [List.replicate_zero, List.append_nil, isWord.words_eq]
  | succ count =>
      rw [List.replicate_succ, words_append_space, words_replicate_space, List.append_nil,
        isWord.words_eq]

/-! ## Numbers -/

theorem toList_decimal
    (number : Nat) :
    (Numeral.decimal number).toList = Nat.toDigits 10 number :=
  String.toList_ofList

theorem toList_markedHex
    (number : Nat) :
    (Numeral.markedHex number).toList = '0' :: 'x' :: Nat.toDigits 16 number := by
  simp [Numeral.markedHex, Numeral.hex]

/-- An address is written with some zeros in front of its digits, possibly none. -/
theorem exists_toList_address
    (address : Word) :
    ∃ count,
      (Numeral.address address).toList =
        '0' :: 'x' :: (List.replicate count '0' ++ Nat.toDigits 16 address.toNat) := by
  refine ⟨4 - (Nat.toDigits 16 address.toNat).length, ?_⟩
  simp [Numeral.address, List.leftpad]

/-- Digits are a word, and so are digits behind the hexadecimal mark. -/
theorem isWord_of_isDigit
    {base : Nat}
    {digits : List Char}
    (nonempty : digits ≠ [])
    (accepted : ∀ digit ∈ digits, Numeral.isDigit base digit) :
    IsWord digits ∧ IsWord ('0' :: 'x' :: digits) := by
  have noSpace : ' ' ∉ digits := by
    intro member
    cases accepted ' ' member
  have noLineFeed : '\n' ∉ digits := by
    intro member
    cases accepted '\n' member
  exact
    ⟨⟨nonempty, noSpace, noLineFeed⟩,
      ⟨List.cons_ne_nil _ _, by simpa using noSpace, by simpa using noLineFeed⟩⟩

theorem isWord_decimal
    (number : Nat) :
    IsWord (Numeral.decimal number).toList := by
  rw [toList_decimal]
  have accepted : ∀ digit ∈ Nat.toDigits 10 number, Numeral.isDigit 10 digit :=
    fun digit => Numeral.isDigit_of_mem_toDigits (by decide) (by decide)
  exact (isWord_of_isDigit Nat.toDigits_ne_nil accepted).1

theorem isWord_markedHex
    (number : Nat) :
    IsWord (Numeral.markedHex number).toList := by
  rw [toList_markedHex]
  have accepted : ∀ digit ∈ Nat.toDigits 16 number, Numeral.isDigit 16 digit :=
    fun digit => Numeral.isDigit_of_mem_toDigits (by decide) (by decide)
  exact (isWord_of_isDigit Nat.toDigits_ne_nil accepted).2

theorem isWord_address
    (address : Word) :
    IsWord (Numeral.address address).toList := by
  rcases exists_toList_address address with ⟨count, written⟩
  rw [written]
  have accepted :
      ∀ digit ∈ List.replicate count '0' ++ Nat.toDigits 16 address.toNat,
        Numeral.isDigit 16 digit :=
    fun digit => Numeral.isDigit_of_mem_zeros_append (by decide) (by decide)
  have nonempty := List.append_ne_nil_of_right_ne_nil (List.replicate count '0')
    (@Nat.toDigits_ne_nil address.toNat 16)
  exact (isWord_of_isDigit nonempty accepted).2

theorem readWord?_decimal
    (value : Word) :
    Numeral.readWord? 10 (Numeral.decimal value.toNat).toList = some value := by
  rw [toList_decimal]
  exact Numeral.readWord?_zeros_append (by decide) (by decide) 0 value

theorem readWord?_markedHex
    (value : Word) :
    Numeral.readWord? 16 (dropHexMark (Numeral.markedHex value.toNat).toList) = some value := by
  rw [toList_markedHex]
  exact Numeral.readWord?_zeros_append (by decide) (by decide) 0 value

theorem readWord?_address
    (address : Word) :
    Numeral.readWord? 16 (dropHexMark (Numeral.address address).toList) = some address := by
  rcases exists_toList_address address with ⟨count, written⟩
  rw [written]
  exact Numeral.readWord?_zeros_append (by decide) (by decide) count address

/-! ## Lines -/

theorem isWord_tag
    (direction : Direction) :
    IsWord direction.tag.toList := by
  cases direction <;> decide

/-- The marker of a change, as a word. -/
def changeMark : List Char :=
  "***CHANGED***".toList

/-- A field line has the field's name, its value in both bases, and the marker if it changed. -/
theorem words_fieldLine
    {field : FieldValue}
    (isWord : IsWord field.name.toList) :
    words field.line.toList =
      field.name.toList :: ['='] :: (Numeral.decimal field.value.toNat).toList ::
        (Numeral.markedHex field.value.toNat).toList ::
          if field.isChanged then [changeMark] else [] := by
  have shape :
      field.line.toList =
        "   ".toList ++ ' ' ::
          ((fillRight 25 field.name).toList ++ ' ' ::
            ("=".toList ++ ' ' ::
              ((fillRight 6 (Numeral.decimal field.value.toNat)).toList ++ ' ' ::
                ((fillRight 6 (Numeral.markedHex field.value.toNat)).toList ++
                  field.marker.toList)))) := by
    simp [FieldValue.line]
  have hexadecimal :
      words
          ((fillRight 6 (Numeral.markedHex field.value.toNat)).toList ++ field.marker.toList) =
        (Numeral.markedHex field.value.toNat).toList ::
          if field.isChanged then [changeMark] else [] := by
    have column := words_fillRight (isWord_markedHex field.value.toNat) 6
    rw [FieldValue.marker]
    split
    · have marked : " ***CHANGED***".toList = ' ' :: changeMark := rfl
      have isMark : IsWord changeMark := by decide
      rw [marked, words_append_space, column, isMark.words_eq, List.singleton_append]
    · rw [String.toList_empty, List.append_nil, column]
  have indent : words "   ".toList = [] := by decide
  have equals : words "=".toList = [['=']] := by decide
  simp only [shape, words_append_space, indent, equals, words_fillRight isWord,
    words_fillRight (isWord_decimal field.value.toNat), hexadecimal, List.nil_append,
    List.singleton_append]

theorem toList_heading
    (transaction : Transaction) :
    transaction.heading.toList =
      transaction.time.toList ++ ' ' ::
        (transaction.direction.tag.toList ++ ' ' ::
          ((Numeral.address transaction.address).toList ++ ' ' ::
            transaction.payload.toList)) := by
  simp [Transaction.heading]

/-- A heading has the words of the time, and three more. -/
theorem words_heading
    {transaction : Transaction}
    (isWord : IsWord transaction.payload.toList) :
    words transaction.heading.toList =
      words transaction.time.toList ++
        [transaction.direction.tag.toList, (Numeral.address transaction.address).toList,
          transaction.payload.toList] := by
  rw [toList_heading]
  simp only [words_append_space, (isWord_tag transaction.direction).words_eq,
    (isWord_address transaction.address).words_eq, isWord.words_eq, List.singleton_append]

end RegisterTrace.Transcript
