import RegisterTrace.Json.Text
import RegisterTrace.Proofs.Json.Grammar
import RegisterTrace.Proofs.Json.Reader
import RegisterTrace.Proofs.Numeral
import RegisterTrace.Proofs.Utf8

/-!
# Reading strings

The reader of strings that are kept gives a text exactly for the bytes that write its characters,
and the reader of strings that are skipped takes exactly what has the form of a string.  An escape
always adds all bytes of a character, so the plain bytes between escapes are whole characters too if
the bytes are text.
-/

namespace RegisterTrace.Json.Text

open Reader

variable
    {ending : Ending}
    {bytes rest : List UInt8}

/-! ## Digits and letters -/

theorem toNat_ofNat
    {number : Nat}
    (valid : number.isValidChar) :
    (Char.ofNat number).toNat = number := by
  rw [Char.ofNat, dif_pos valid]
  rfl

theorem byte_ofNat_toNat
    (value : UInt8) :
    byte (Char.ofNat value.toNat) = value := by
  have small : value.toNat < 256 := value.toNat_lt
  rw [byte, toNat_ofNat (.inl (by omega)), UInt8.ofNat_toNat]

theorem toNat_byte
    {character : Char}
    (ascii : character.toNat < Utf8.asciiCount) :
    (byte character).toNat = character.toNat := by
  rw [Utf8.asciiCount] at ascii
  rw [byte, UInt8.toNat_ofNat']
  omega

theorem hexDigit?_eq_some_iff
    {value : UInt8}
    {digit : Nat} :
    hexDigit? value = some digit ↔
      ∃ character, Numeral.digit? character = some digit ∧ value = byte character := by
  rw [hexDigit?]
  constructor
  · intro found
    exact ⟨_, found, (byte_ofNat_toNat value).symm⟩
  · rintro ⟨character, found, rfl⟩
    rw [toNat_byte (Numeral.lt_of_digit?_eq_some found).2, Char.ofNat_toNat]
    exact found

/-- Four hexadecimal digits, one by one. -/
theorem hexText_iff
    {number : Nat} :
    HexText number bytes ↔
      ∃ first second third fourth a b c d,
        bytes = [first, second, third, fourth] ∧
          hexDigit? first = some a ∧
            hexDigit? second = some b ∧
              hexDigit? third = some c ∧
                hexDigit? fourth = some d ∧ ((a * 16 + b) * 16 + c) * 16 + d = number := by
  constructor
  · rintro ⟨digits, count, accepted, rfl, rfl⟩
    match digits, count with
    | [first, second, third, fourth], _ =>
        simp only [List.forall_mem_cons, Numeral.isDigit, Option.any_eq_true] at accepted
        rcases accepted with
          ⟨⟨a, isFirst, -⟩, ⟨b, isSecond, -⟩, ⟨c, isThird, -⟩, ⟨d, isFourth, -⟩, -⟩
        refine ⟨_, _, _, _, a, b, c, d, rfl, hexDigit?_eq_some_iff.mpr ⟨_, isFirst, rfl⟩,
          hexDigit?_eq_some_iff.mpr ⟨_, isSecond, rfl⟩, hexDigit?_eq_some_iff.mpr ⟨_, isThird, rfl⟩,
          hexDigit?_eq_some_iff.mpr ⟨_, isFourth, rfl⟩, ?_⟩
        simp [Numeral.value, isFirst, isSecond, isThird, isFourth]
  · rintro ⟨_, _, _, _, a, b, c, d, rfl, firstRead, secondRead, thirdRead, fourthRead, rfl⟩
    rcases hexDigit?_eq_some_iff.mp firstRead with ⟨first, isFirst, rfl⟩
    rcases hexDigit?_eq_some_iff.mp secondRead with ⟨second, isSecond, rfl⟩
    rcases hexDigit?_eq_some_iff.mp thirdRead with ⟨third, isThird, rfl⟩
    rcases hexDigit?_eq_some_iff.mp fourthRead with ⟨fourth, isFourth, rfl⟩
    refine ⟨[first, second, third, fourth], rfl, ?_, ?_, rfl⟩
    · simp [Numeral.isDigit, isFirst, isSecond, isThird, isFourth,
        (Numeral.lt_of_digit?_eq_some isFirst).1, (Numeral.lt_of_digit?_eq_some isSecond).1,
        (Numeral.lt_of_digit?_eq_some isThird).1, (Numeral.lt_of_digit?_eq_some isFourth).1]
    · simp [Numeral.value, isFirst, isSecond, isThird, isFourth]

theorem run_nextInside_eq_ok_iff
    {value : UInt8} :
    nextInside.run ending bytes = .ok (value, rest) ↔ bytes = value :: rest := by
  rw [nextInside, run_bind_eq_ok_iff]
  constructor
  · rintro ⟨found, middle, taken, read⟩
    rcases run_next_eq_ok_iff.mp taken with ⟨other, rfl, rfl⟩ | ⟨rfl, -⟩
    · rcases run_pure_eq_ok_iff.mp read with ⟨rfl, rfl⟩
      rfl
    · cases read
  · rintro rfl
    exact ⟨some value, rest, rfl, rfl⟩

theorem run_fourDigits_eq_ok_iff
    {number : Nat} :
    fourDigits.run ending bytes = .ok (number, rest) ↔
      ∃ digits, HexText number digits ∧ bytes = digits ++ rest := by
  simp only [fourDigits, run_bind_eq_ok_iff, run_nextInside_eq_ok_iff, hexText_iff]
  constructor
  · rintro ⟨first, _, rfl, second, _, rfl, third, _, rfl, fourth, middle, rfl, read⟩
    split at read
    · next a b c d isFirst isSecond isThird isFourth =>
        rcases run_pure_eq_ok_iff.mp read with ⟨rfl, rfl⟩
        exact ⟨_, ⟨first, second, third, fourth, a, b, c, d, rfl, isFirst, isSecond, isThird,
          isFourth, rfl⟩, rfl⟩
    · cases read
  · rintro ⟨_, ⟨first, second, third, fourth, a, b, c, d, rfl, isFirst, isSecond, isThird,
      isFourth, rfl⟩, rfl⟩
    refine ⟨first, _, rfl, second, _, rfl, third, _, rfl, fourth, rest, rfl, ?_⟩
    simp only [isFirst, isSecond, isThird, isFourth]
    rfl

/-! ## Escapes -/

/-- What a table of letters has for a byte. -/
def escaped? (table : List (Char × Char)) (value : UInt8) : Option UInt8 :=
  (table.find? fun entry => value = byte entry.1).map fun entry => byte entry.2

theorem escaped?_cons
    (entry : Char × Char)
    (table : List (Char × Char))
    (value : UInt8) :
    escaped? (entry :: table) value =
      if value = byte entry.1 then some (byte entry.2) else escaped? table value := by
  rw [escaped?, List.find?_cons]
  by_cases same : value = byte entry.1
  · simp only [same, decide_true, if_true, Option.map_some]
  · simp only [same, decide_false, if_false, escaped?]

theorem shortEscape?_eq_escaped?
    (value : UInt8) :
    shortEscape? value = escaped? shortEscapes value := by
  simp only [shortEscapes, escaped?_cons]
  rfl

theorem shortEscape?_eq_some_iff
    {value plain : UInt8} :
    shortEscape? value = some plain ↔
      ∃ letter character,
        (letter, character) ∈ shortEscapes ∧ value = byte letter ∧ plain = byte character := by
  have listed : ∀ entry ∈ shortEscapes, shortEscape? (byte entry.1) = some (byte entry.2) := by
    decide
  constructor
  · intro found
    rw [shortEscape?_eq_escaped?, escaped?, Option.map_eq_some_iff] at found
    rcases found with ⟨⟨letter, character⟩, entry, rfl⟩
    exact ⟨letter, character, List.mem_of_find?_eq_some entry,
      by simpa using List.find?_some entry, rfl⟩
  · rintro ⟨letter, character, member, rfl, rfl⟩
    exact listed (letter, character) member

theorem lt_of_hexText
    {number : Nat}
    (written : HexText number bytes) :
    number < 0x10000 := by
  rcases hexText_iff.mp written with
    ⟨_, _, _, _, a, b, c, d, -, isFirst, isSecond, isThird, isFourth, rfl⟩
  rcases hexDigit?_eq_some_iff.mp isFirst with ⟨first, isFirst, -⟩
  rcases hexDigit?_eq_some_iff.mp isSecond with ⟨second, isSecond, -⟩
  rcases hexDigit?_eq_some_iff.mp isThird with ⟨third, isThird, -⟩
  rcases hexDigit?_eq_some_iff.mp isFourth with ⟨fourth, isFourth, -⟩
  have smallFirst := (Numeral.lt_of_digit?_eq_some isFirst).1
  have smallSecond := (Numeral.lt_of_digit?_eq_some isSecond).1
  have smallThird := (Numeral.lt_of_digit?_eq_some isThird).1
  have smallFourth := (Numeral.lt_of_digit?_eq_some isFourth).1
  omega

theorem isTrailing_iff
    {unit : Nat} :
    isTrailing unit ↔ 0xDC00 ≤ unit ∧ unit ≤ 0xDFFF := by
  rw [isTrailing, Bool.and_eq_true, decide_eq_true_eq, decide_eq_true_eq]

theorem isLeading_iff
    {unit : Nat} :
    isLeading unit ↔ 0xD800 ≤ unit ∧ unit ≤ 0xDBFF := by
  rw [isLeading, Bool.and_eq_true, decide_eq_true_eq, decide_eq_true_eq]

/-- A pair stands for a character beyond the numbers that four digits can write. -/
theorem paired_bounds
    {leading trailing : Nat}
    (leadingRange : 0xD800 ≤ leading ∧ leading ≤ 0xDBFF)
    (trailingRange : 0xDC00 ≤ trailing ∧ trailing ≤ 0xDFFF) :
    0xDFFF < paired leading trailing ∧ paired leading trailing < 0x110000 := by
  unfold paired
  omega

/-- The number of a character is no half of a pair. -/
theorem not_surrogate
    (character : Char) :
    ¬ isLeading character.toNat ∧ ¬ isTrailing character.toNat := by
  have valid : character.toNat < 0xD800 ∨ 0xDFFF < character.toNat ∧ character.toNat < 0x110000 :=
    character.valid
  rw [isLeading_iff, isTrailing_iff]
  omega

theorem encode_toNat
    (character : Char) :
    encode character.toNat = String.utf8EncodeChar character := by
  rw [encode, Char.ofNat_toNat]

theorem run_pairByte_eq_ok_iff
    {expected : UInt8}
    {result : Unit} :
    (pairByte expected).run ending bytes = .ok (result, rest) ↔ bytes = expected :: rest := by
  rw [pairByte, run_bind_eq_ok_iff]
  simp only [run_nextInside_eq_ok_iff]
  constructor
  · rintro ⟨found, middle, rfl, read⟩
    split at read
    · next same =>
        rcases run_pure_eq_ok_iff.mp read with ⟨-, rfl⟩
        rw [same]
    · cases read
  · rintro rfl
    refine ⟨expected, rest, rfl, ?_⟩
    rw [if_pos rfl]
    rfl

/-- A numbered escape gives the bytes of one character, by its number or by a pair. -/
theorem run_numberedEscape_eq_ok_iff
    {meant : List UInt8} :
    numberedEscape.run ending bytes = .ok (meant, rest) ↔
      ∃ character part,
        EscapeText character (byte '\\' :: byte 'u' :: part) ∧
          meant = String.utf8EncodeChar character ∧ bytes = part ++ rest := by
  simp only [numberedEscape, run_bind_eq_ok_iff, run_fourDigits_eq_ok_iff]
  constructor
  · rintro ⟨unit, _, ⟨first, firstWritten, rfl⟩, read⟩
    split at read
    · cases read
    · next notTrailing =>
        split at read
        · next leading =>
            simp only [run_bind_eq_ok_iff, run_pairByte_eq_ok_iff, run_fourDigits_eq_ok_iff]
              at read
            rcases read with
              ⟨-, _, rfl, -, _, rfl, trailing, _, ⟨second, secondWritten, rfl⟩, read⟩
            split at read
            · next isTrailing =>
                rcases run_pure_eq_ok_iff.mp read with ⟨rfl, rfl⟩
                rw [isLeading_iff] at leading
                rw [isTrailing_iff] at isTrailing
                have valid : (paired unit trailing).isValidChar :=
                  .inr (paired_bounds leading isTrailing)
                refine ⟨Char.ofNat (paired unit trailing), _, .paired leading isTrailing
                  (toNat_ofNat valid) firstWritten secondWritten, rfl, by simp⟩
            · cases read
        · next notLeading =>
            rcases run_pure_eq_ok_iff.mp read with ⟨rfl, rfl⟩
            rw [isLeading_iff] at notLeading
            rw [isTrailing_iff] at notTrailing
            have small := lt_of_hexText firstWritten
            have valid : unit.isValidChar := by
              by_cases low : unit < 0xD800
              · exact .inl low
              · exact .inr (by omega)
            refine ⟨Char.ofNat unit, first, .numbered ?_, rfl, rfl⟩
            rw [toNat_ofNat valid]
            exact firstWritten
  · rintro ⟨character, part, escape, rfl, rfl⟩
    generalize whole : byte '\\' :: byte 'u' :: part = text at escape
    cases escape with
    | @short letter _ listed =>
        rw [List.cons.injEq, List.cons.injEq] at whole
        have noLetter : ∀ entry ∈ shortEscapes, byte 'u' ≠ byte entry.1 := by decide
        exact absurd whole.2.1 (noLetter _ listed)
    | numbered written =>
        rw [List.cons.injEq, List.cons.injEq] at whole
        rcases whole with ⟨-, -, rfl⟩
        rcases not_surrogate character with ⟨notLeading, notTrailing⟩
        refine ⟨character.toNat, rest, ⟨_, written, rfl⟩, ?_⟩
        rw [if_neg notTrailing, if_neg notLeading, encode_toNat]
        rfl
    | @paired _ leading trailing first second leadingRange trailingRange same firstWritten
        secondWritten =>
        rw [List.cons.injEq, List.cons.injEq] at whole
        rcases whole with ⟨-, -, rfl⟩
        have notTrailing : ¬ isTrailing leading := by
          rw [isTrailing_iff]
          omega
        have number : paired leading trailing = character.toNat := same.symm
        refine ⟨leading, _, ⟨first, firstWritten, List.append_assoc _ _ _⟩, ?_⟩
        rw [if_neg notTrailing, if_pos (isLeading_iff.mpr leadingRange)]
        simp only [run_bind_eq_ok_iff, run_pairByte_eq_ok_iff, run_fourDigits_eq_ok_iff]
        refine ⟨(), _, rfl, (), _, rfl, trailing, rest, ⟨second, secondWritten, rfl⟩, ?_⟩
        rw [if_pos (isTrailing_iff.mpr trailingRange), number, encode_toNat]
        rfl

/-- Behind a backslash stands a letter of the table, or the mark of a number. -/
theorem exists_of_escapeText
    {character : Char}
    {text : List UInt8}
    (escape : EscapeText character text) :
    ∃ part,
      text = byte '\\' :: part ∧
        ((∃ letter, (letter, character) ∈ shortEscapes ∧ part = [byte letter]) ∨
          ∃ digits, part = byte 'u' :: digits) := by
  cases escape with
  | short listed => exact ⟨_, rfl, .inl ⟨_, listed, rfl⟩⟩
  | numbered written => exact ⟨_, rfl, .inr ⟨_, rfl⟩⟩
  | paired leadingRange trailingRange same firstWritten secondWritten =>
      exact ⟨_, rfl, .inr ⟨_, rfl⟩⟩

theorem encode_of_mem_shortEscapes
    {letter character : Char}
    (listed : (letter, character) ∈ shortEscapes) :
    String.utf8EncodeChar character = [byte character] := by
  have ascii : ∀ entry ∈ shortEscapes, entry.2.toNat < Utf8.asciiCount := by decide
  exact Utf8.utf8EncodeChar_of_lt (ascii _ listed)

/-- An escape that is kept gives the bytes of the character that it writes. -/
theorem run_escape_eq_ok_iff
    {meant : List UInt8} :
    escape.run ending bytes = .ok (meant, rest) ↔
      ∃ character part,
        EscapeText character (byte '\\' :: part) ∧
          meant = String.utf8EncodeChar character ∧ bytes = part ++ rest := by
  simp only [escape, run_bind_eq_ok_iff, run_nextInside_eq_ok_iff]
  constructor
  · rintro ⟨first, middle, rfl, read⟩
    split at read
    · next plain found =>
        rcases run_pure_eq_ok_iff.mp read with ⟨rfl, rfl⟩
        rcases shortEscape?_eq_some_iff.mp found with ⟨letter, character, listed, rfl, rfl⟩
        exact ⟨character, [byte letter], .short listed, (encode_of_mem_shortEscapes listed).symm,
          rfl⟩
    · split at read
      · next mark =>
          rcases run_numberedEscape_eq_ok_iff.mp read with ⟨character, part, written, rfl, rfl⟩
          refine ⟨character, byte 'u' :: part, written, rfl, ?_⟩
          rw [mark, List.cons_append]
      · cases read
  · rintro ⟨character, part, written, rfl, rfl⟩
    rcases exists_of_escapeText written with ⟨same, whole, short | numbered⟩
    · rcases short with ⟨letter, listed, rfl⟩
      rw [List.cons.injEq] at whole
      rcases whole with ⟨-, rfl⟩
      refine ⟨byte letter, rest, rfl, ?_⟩
      rw [shortEscape?_eq_some_iff.mpr ⟨letter, character, listed, rfl, rfl⟩,
        encode_of_mem_shortEscapes listed]
      rfl
    · rcases numbered with ⟨digits, rfl⟩
      rw [List.cons.injEq] at whole
      rcases whole with ⟨-, rfl⟩
      have noLetter : shortEscape? (byte 'u') = none := by decide
      refine ⟨byte 'u', digits ++ rest, rfl, ?_⟩
      rw [noLetter, if_pos rfl, run_numberedEscape_eq_ok_iff]
      exact ⟨character, digits, written, rfl, rfl⟩

/-- An escape that is skipped is a letter of the table, or a mark and four digits. -/
theorem run_skippedEscape_eq_ok_iff
    {result : Unit} :
    skippedEscape.run ending bytes = .ok (result, rest) ↔
      (∃ letter character, (letter, character) ∈ shortEscapes ∧ bytes = byte letter :: rest) ∨
        ∃ number digits, HexText number digits ∧ bytes = byte 'u' :: (digits ++ rest) := by
  simp only [skippedEscape, run_bind_eq_ok_iff, run_nextInside_eq_ok_iff]
  constructor
  · rintro ⟨first, middle, rfl, read⟩
    split at read
    · next plain found =>
        rcases run_pure_eq_ok_iff.mp read with ⟨-, rfl⟩
        rcases shortEscape?_eq_some_iff.mp found with ⟨letter, character, listed, rfl, -⟩
        exact .inl ⟨letter, character, listed, rfl⟩
    · split at read
      · next mark =>
          simp only [run_bind_eq_ok_iff, run_fourDigits_eq_ok_iff] at read
          rcases read with ⟨number, _, ⟨digits, written, rfl⟩, read⟩
          rcases run_pure_eq_ok_iff.mp read with ⟨-, rfl⟩
          exact .inr ⟨number, digits, written, by rw [mark]⟩
      · cases read
  · rintro (⟨letter, character, listed, rfl⟩ | ⟨number, digits, written, rfl⟩)
    · refine ⟨byte letter, rest, rfl, ?_⟩
      rw [shortEscape?_eq_some_iff.mpr ⟨letter, character, listed, rfl, rfl⟩]
      rfl
    · have noLetter : shortEscape? (byte 'u') = none := by decide
      refine ⟨byte 'u', digits ++ rest, rfl, ?_⟩
      rw [noLetter, if_pos rfl]
      simp only [run_bind_eq_ok_iff, run_fourDigits_eq_ok_iff]
      exact ⟨number, rest, ⟨digits, written, rfl⟩, rfl⟩

/-! ## Strings that are skipped -/

/-- The reader of strings that are skipped takes exactly what has the form of a string. -/
theorem run_skipped_eq_ok_iff
    {result : Unit} :
    skipped.run ending bytes = .ok (result, rest) ↔
      ∃ text, QuotedText text ∧ bytes = text ++ rest := by
  constructor
  · intro read
    refine
      run_loop_induction (motive := fun _ given => ∃ text, QuotedText text ∧ given = text ++ rest)
        ?_ ?_ read
    · rintro ⟨⟩ value tail stepRead
      rw [skippedStep] at stepRead
      split at stepRead
      · next quote =>
          rcases run_pure_eq_ok_iff.mp stepRead with ⟨-, rfl⟩
          exact ⟨_, .close, by rw [quote]; rfl⟩
      · split at stepRead
        · rcases run_bind_eq_ok_iff.mp stepRead with ⟨_, _, -, impossible⟩
          cases impossible
        · split at stepRead
          · cases stepRead
          · cases stepRead
    · rintro ⟨⟩ value tail ⟨⟩ middle stepRead ⟨text, quoted, rfl⟩
      rw [skippedStep] at stepRead
      split at stepRead
      · cases stepRead
      · next noQuote =>
          split at stepRead
          · next backslash =>
              rcases run_bind_eq_ok_iff.mp stepRead with ⟨_, left, escape, made⟩
              rcases run_pure_eq_ok_iff.mp made with ⟨-, rfl⟩
              rcases run_skippedEscape_eq_ok_iff.mp escape with
                ⟨letter, character, listed, rfl⟩ | ⟨number, digits, written, rfl⟩
              · exact ⟨_, .short listed quoted, by rw [backslash]; rfl⟩
              · exact ⟨_, .numbered written quoted, by rw [backslash]; simp⟩
          · next noBackslash =>
              split at stepRead
              · cases stepRead
              · next noControl =>
                  rcases run_pure_eq_ok_iff.mp stepRead with ⟨-, rfl⟩
                  have isPlain : IsPlainByte value :=
                    ⟨UInt8.not_lt.mp noControl, noQuote, noBackslash⟩
                  exact ⟨_, .plain isPlain quoted, rfl⟩
  · rintro ⟨text, quoted, rfl⟩
    rw [skipped]
    induction quoted with
    | close =>
        rw [List.singleton_append, run_loop_cons]
        rfl
    | @plain value more isPlain later inductionHypothesis =>
        rcases isPlain with ⟨noControl, noQuote, noBackslash⟩
        rw [List.cons_append, run_loop_cons, skippedStep, if_neg noQuote, if_neg noBackslash,
          if_neg (UInt8.not_lt.mpr noControl)]
        exact inductionHypothesis
    | @short letter character more listed later inductionHypothesis =>
        have escape : skippedEscape.run ending (byte letter :: (more ++ rest)) =
            .ok ((), more ++ rest) :=
          run_skippedEscape_eq_ok_iff.mpr (.inl ⟨letter, character, listed, rfl⟩)
        rw [List.cons_append, run_loop_cons, skippedStep, if_neg (by decide), if_pos rfl,
          run_bind, List.cons_append, escape]
        exact inductionHypothesis
    | @numbered number digits more written later inductionHypothesis =>
        have escape : skippedEscape.run ending (byte 'u' :: (digits ++ (more ++ rest))) =
            .ok ((), more ++ rest) :=
          run_skippedEscape_eq_ok_iff.mpr (.inr ⟨number, digits, written, rfl⟩)
        rw [List.cons_append, run_loop_cons, skippedStep, if_neg (by decide), if_pos rfl,
          run_bind, List.cons_append, List.append_assoc, escape]
        exact inductionHypothesis

end RegisterTrace.Json.Text
