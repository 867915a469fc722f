import Mathlib.Data.List.Forall2
import Mathlib.Data.Nat.Digits.Lemmas
import RegisterTrace.Payload
import RegisterTrace.Proofs.Header.OffsetLine
import RegisterTrace.Proofs.Numeral
import RegisterTrace.Proofs.Word

/-!
# Hexadecimal numerals

The types of transfers and requests are shown as hexadecimal numerals.  Such a numeral may have
blanks around it, one of two marks in front, and a plus sign between the mark and the digits.  The
number that it writes is the positional value of its digits, however many these are.  A text is read
as a word exactly if it is a numeral of the number that the word holds, so each way to print a word
is read back, whatever the case of its letters, and a text that only looks like a numeral is not
read at all.
-/

namespace RegisterTrace.Hexadecimal

open Header

variable
    {text characters : List Char}
    {number : Nat}

/-! ## Digits -/

/-- A character of either case stands for a digit below sixteen. -/
structure StandsFor (character : Char) (digit : Nat) : Prop where
  small : digit < 16
  lower : character.toLower = Nat.digitChar digit

instance
    {character : Char}
    {digit : Nat} :
    Decidable (StandsFor character digit) :=
  decidable_of_iff (digit < 16 ∧ character.toLower = Nat.digitChar digit)
    ⟨fun holds => ⟨holds.1, holds.2⟩, fun stands => ⟨stands.small, stands.lower⟩⟩

/-- Characters, one at least, stand for digits of which a number is the positional value. -/
inductive Spells : List Char → Nat → Prop where
  | intro
      {characters : List Char}
      {digits : List Nat}
      (nonempty : characters ≠ [])
      (shown : List.Forall₂ StandsFor characters digits) :
      Spells characters (Nat.ofDigits 16 digits.reverse)

/-- Beyond ASCII a character has no other case. -/
theorem toLower_eq_self
    {character : Char}
    (beyond : Utf8.asciiCount ≤ character.toNat) :
    character.toLower = character := by
  rw [Utf8.asciiCount] at beyond
  delta Char.toLower
  rw [dif_neg]
  rintro ⟨-, small⟩
  rw [UInt32.le_iff_toNat_le] at small
  simp only [Char.toNat_val, Char.reduceToNat] at small
  omega

/-- What stands for a digit is in ASCII, like the digits that numbers are written with. -/
theorem StandsFor.ascii
    {character : Char}
    {digit : Nat}
    (stands : StandsFor character digit) :
    character.toNat < Utf8.asciiCount := by
  by_contra beyond
  have written := stands.lower
  rw [toLower_eq_self (Nat.le_of_not_lt beyond)] at written
  have read := Numeral.digit?_digitChar stands.small
  rw [← written] at read
  exact beyond (Numeral.lt_of_digit?_eq_some read).2

/-- A character is read as the digit that it stands for. -/
theorem digit?_eq_some_iff
    {character : Char}
    {digit : Nat} :
    Numeral.digit? character = some digit ↔ StandsFor character digit := by
  -- Either side keeps to ASCII and to digits below sixteen, and there the two are compared.
  have table :
      ∀ code < Utf8.asciiCount, ∀ digit < 16,
        Numeral.digit? (Char.ofNat code) = some digit ↔ StandsFor (Char.ofNat code) digit := by
    decide +kernel
  have inAscii (ascii : character.toNat < Utf8.asciiCount) (small : digit < 16) :
      Numeral.digit? character = some digit ↔ StandsFor character digit := by
    rw [← Char.ofNat_toNat character]
    exact table character.toNat ascii digit small
  constructor
  · intro read
    rcases Numeral.lt_of_digit?_eq_some read with ⟨small, ascii⟩
    exact (inAscii ascii small).mp read
  · intro stands
    exact (inAscii stands.ascii stands.small).mpr stands

theorem StandsFor.isDigit
    {character : Char}
    {digit : Nat}
    (stands : StandsFor character digit) :
    Numeral.isDigit 16 character := by
  rw [Numeral.isDigit, digit?_eq_some_iff.mpr stands, Option.any_some, decide_eq_true_eq]
  exact stands.small

/-- Digits are read one by one. -/
theorem exists_shown
    (accepted : ∀ character ∈ characters, Numeral.isDigit 16 character) :
    ∃ digits, List.Forall₂ StandsFor characters digits := by
  refine ⟨characters.map fun character => (Numeral.digit? character).getD 0, ?_⟩
  rw [List.forall₂_map_right_iff, List.forall₂_same]
  intro character member
  have digit := accepted character member
  rw [Numeral.isDigit, Option.any_eq_true] at digit
  rcases digit with ⟨value, read, -⟩
  rw [← digit?_eq_some_iff, read, Option.getD_some]

theorem isDigit_of_shown
    {digits : List Nat}
    (shown : List.Forall₂ StandsFor characters digits) :
    ∀ character ∈ characters, Numeral.isDigit 16 character := by
  induction shown with
  | nil => exact nofun
  | cons stands shown inductionHypothesis =>
      exact List.forall_mem_cons.mpr ⟨stands.isDigit, inductionHypothesis⟩

theorem Spells.isDigit
    (spells : Spells characters number) :
    ∀ character ∈ characters, Numeral.isDigit 16 character := by
  cases spells with
  | intro nonempty shown => exact isDigit_of_shown shown

/-- Digits that are read one after the other come to their positional value. -/
theorem value_eq_ofDigits
    {digits : List Nat}
    (shown : List.Forall₂ StandsFor characters digits) :
    Numeral.value 16 characters = Nat.ofDigits 16 digits.reverse := by
  induction shown with
  | nil => rfl
  | @cons character digit others digits stands shown inductionHypothesis =>
      have first : Numeral.value 16 [character] = digit := by
        simp only [Numeral.value, List.foldl_cons, List.foldl_nil, digit?_eq_some_iff.mpr stands,
          Option.getD_some, Nat.zero_mul, Nat.zero_add]
      -- The first character is worth the most, so its digit is the last of those in reverse.
      rw [← List.singleton_append, Numeral.value_append, first, inductionHypothesis,
        List.reverse_cons, Nat.ofDigits_append, Nat.ofDigits_singleton, List.length_reverse,
        shown.length_eq, Nat.mul_comm, Nat.add_comm]

/-- A text is read as a number exactly if it spells the number. -/
theorem read?_eq_some_iff :
    Numeral.read? 16 characters = some number ↔ Spells characters number := by
  rw [Numeral.read?_eq_some_iff]
  constructor
  · rintro ⟨nonempty, accepted, rfl⟩
    rcases exists_shown (List.all_eq_true.mp accepted) with ⟨digits, shown⟩
    rw [value_eq_ofDigits shown]
    exact .intro nonempty shown
  · rintro ⟨nonempty, shown⟩
    exact ⟨nonempty, List.all_eq_true.mpr (isDigit_of_shown shown), value_eq_ofDigits shown⟩

/-! ## Printed digits -/

theorem StandsFor.toLower
    {character : Char}
    {digit : Nat}
    (stands : StandsFor character digit) :
    StandsFor character.toLower digit where
  small := stands.small
  lower := by
    have printed : ∀ digit < 16, (Nat.digitChar digit).toLower = Nat.digitChar digit := by decide
    rw [stands.lower]
    exact printed digit stands.small

/-- The digits that a number is printed with spell it in any mixture of cases. -/
theorem spells_of_printed
    (printed : characters.map Char.toLower = Nat.toDigits 16 number) :
    Spells characters number := by
  have nonempty : characters ≠ [] := by
    rintro rfl
    exact Nat.toDigits_ne_nil printed.symm
  have accepted : ∀ character ∈ characters, Numeral.isDigit 16 character := by
    intro character member
    have lower : character.toLower ∈ Nat.toDigits 16 number := by
      rw [← printed]
      exact List.mem_map_of_mem member
    rcases Numeral.exists_of_mem_toDigits (by decide) lower with ⟨digit, small, written⟩
    exact StandsFor.isDigit ⟨small, written⟩
  rcases exists_shown accepted with ⟨digits, shown⟩
  have shownLower : List.Forall₂ StandsFor (characters.map Char.toLower) digits := by
    rw [List.forall₂_map_left_iff]
    exact shown.imp fun _ _ => StandsFor.toLower
  have number_eq : Nat.ofDigits 16 digits.reverse = number := by
    rw [← value_eq_ofDigits shownLower, printed, Numeral.value_toDigits (by decide) (by decide)]
  rw [← number_eq]
  exact .intro nonempty shown

/-- Zeros in front do not change the number. -/
theorem Spells.zeros_append
    (spells : Spells characters number)
    (count : Nat) :
    Spells (List.replicate count '0' ++ characters) number := by
  cases spells with
  | @intro digits nonempty shown =>
      have zeros : List.Forall₂ StandsFor (List.replicate count '0') (List.replicate count 0) := by
        induction count with
        | zero => exact .nil
        | succ count inductionHypothesis => exact .cons (by decide) inductionHypothesis
      have whole := Spells.intro (List.append_ne_nil_of_right_ne_nil _ nonempty)
        (List.rel_append zeros shown)
      rw [List.reverse_append, List.reverse_replicate, Nat.ofDigits_append_replicate_zero] at whole
      exact whole

/-! ## Numerals -/

/--
Digits with an optional plus sign in front of them, an optional mark in front of that, and blanks
around the whole.
-/
inductive IsNumeral : List Char → Nat → Prop where
  | intro
      {before mark sign digits after : List Char}
      {number : Nat}
      (blanksBefore : Blanks before)
      (marked : mark ∈ [] :: hexMarks)
      (signed : sign ∈ [[], ['+']])
      (spells : Spells digits number)
      (blanksAfter : Blanks after) :
      IsNumeral (before ++ mark ++ sign ++ digits ++ after) number

/-- A character that stands between the blanks of some numeral. -/
def IsPart (character : Char) : Prop :=
  Numeral.IsHexDigit character ∨ character ∈ ['+', 'x', 'X']

instance : DecidablePred IsPart := fun character =>
  inferInstanceAs (Decidable (Numeral.IsHexDigit character ∨ character ∈ ['+', 'x', 'X']))

/-- A text of such characters. -/
def Parts (text : List Char) : Prop :=
  ∀ character ∈ text, IsPart character

instance (text : List Char) : Decidable (Parts text) :=
  List.decidableBAll IsPart text

theorem Parts.noBlanks
    (parts : Parts text) :
    NoBlanks text := by
  intro character member
  rcases parts character member with digit | other
  · rw [← Bool.not_eq_true]
    intro blank
    rw [← Numeral.isDigit_sixteen_iff, isDigit_of_isBlank blank] at digit
    cases digit
  · simp only [List.mem_cons, List.not_mem_nil, or_false] at other
    rcases other with rfl | rfl | rfl <;> decide

section

variable
    {mark sign digits : List Char}
    (marked : mark ∈ [] :: hexMarks)
    (signed : sign ∈ [[], ['+']])
    (spells : Spells digits number)

include marked signed spells

theorem parts_append :
    Parts (mark ++ (sign ++ digits)) := by
  have inMark : ∀ mark ∈ [] :: hexMarks, Parts mark := by decide
  have inSign : ∀ sign ∈ [[], ['+']], Parts sign := by decide
  intro character member
  rcases List.mem_append.mp member with front | behind
  · exact inMark mark marked character front
  · rcases List.mem_append.mp behind with front | last
    · exact inSign sign signed character front
    · exact .inl (Numeral.isDigit_sixteen_iff.mp (spells.isDigit character last))

/-- Dropping the mark and the sign leaves the digits, for neither of the two starts with them. -/
theorem dropPlus_dropHexMark :
    Numeral.dropPlus (dropHexMark (mark ++ (sign ++ digits))) = digits := by
  have unmarked : dropHexMark (mark ++ (sign ++ digits)) = sign ++ digits := by
    have inSign : ∀ sign ∈ [[], ['+']], 'x' ∉ sign ∧ 'X' ∉ sign := by decide
    rcases inSign sign signed with ⟨noLower, noUpper⟩
    simp only [hexMarks, List.mem_cons, List.not_mem_nil, or_false] at marked
    rcases marked with rfl | rfl | rfl
    · rw [List.nil_append]
      unfold dropHexMark
      split
      · next rest same =>
          have member : 'x' ∈ sign ++ digits := by simp [same]
          cases spells.isDigit 'x' ((List.mem_append.mp member).resolve_left noLower)
      · next rest same =>
          have member : 'X' ∈ sign ++ digits := by simp [same]
          cases spells.isDigit 'X' ((List.mem_append.mp member).resolve_left noUpper)
      · rfl
    · rfl
    · rfl
  rw [unmarked]
  rcases List.mem_pair.mp signed with rfl | rfl
  · exact Numeral.dropPlus_eq_self spells.isDigit
  · rfl

end

theorem exists_eq_append_dropHexMark
    (text : List Char) :
    ∃ mark ∈ [] :: hexMarks, text = mark ++ dropHexMark text := by
  unfold dropHexMark
  split
  · exact ⟨['0', 'x'], by decide, rfl⟩
  · exact ⟨['0', 'X'], by decide, rfl⟩
  · exact ⟨[], by decide, rfl⟩

theorem exists_eq_append_dropPlus
    (text : List Char) :
    ∃ sign ∈ [[], ['+']], text = sign ++ Numeral.dropPlus text := by
  unfold Numeral.dropPlus
  split
  · exact ⟨['+'], by decide, rfl⟩
  · exact ⟨[], by decide, rfl⟩

/-- A text is a numeral exactly if digits are left of it without its blanks, mark and sign. -/
theorem isNumeral_iff :
    IsNumeral text number ↔
      Numeral.read? 16 (Numeral.dropPlus (dropHexMark (trimBlanks text))) = some number := by
  constructor
  · intro isNumeral
    cases isNumeral with
    | @intro before mark sign digits after _ blanksBefore marked signed spells blanksAfter =>
        have trimmed :=
          (parts_append marked signed spells).noBlanks.trimBlanks_append_append blanksBefore
            blanksAfter
        simp only [List.append_assoc] at trimmed ⊢
        rw [trimmed, dropPlus_dropHexMark marked signed spells]
        exact read?_eq_some_iff.mpr spells
  · intro read
    -- Each of the three steps says what it dropped, and together that is the whole text.
    rcases exists_eq_append_trimBlanks text with ⟨before, after, blanksBefore, blanksAfter, whole⟩
    rcases exists_eq_append_dropHexMark (trimBlanks text) with ⟨mark, marked, trimmed⟩
    rcases exists_eq_append_dropPlus (dropHexMark (trimBlanks text)) with ⟨sign, signed, unmarked⟩
    have isNumeral :=
      IsNumeral.intro blanksBefore marked signed (read?_eq_some_iff.mp read) blanksAfter
    simp only [List.append_assoc] at isNumeral
    rw [← List.append_assoc sign, ← unmarked, ← List.append_assoc mark, ← trimmed, ← whole]
      at isNumeral
    exact isNumeral

/-! ## Words -/

/-- The word of a numeral is the one that holds its number, if there is one. -/
theorem IsNumeral.hexWord?_eq
    {text : String}
    (isNumeral : IsNumeral text.toList number) :
    hexWord? text = Word.ofNat? number := by
  rw [hexWord?, Numeral.readWord?, isNumeral_iff.mp isNumeral, Option.bind_some]

theorem hexWord?_eq_some_iff
    {text : String}
    {value : Word} :
    hexWord? text = some value ↔ IsNumeral text.toList value.toNat := by
  rw [hexWord?, Numeral.readWord?]
  simp only [Option.bind_eq_some_iff, ← isNumeral_iff, Word.ofNat?_eq_some_iff]
  constructor
  · rintro ⟨number, isNumeral, rfl⟩
    exact isNumeral
  · intro isNumeral
    exact ⟨value.toNat, isNumeral, rfl⟩

/-- A text is refused exactly if it is no numeral, or one of a number that no word holds. -/
theorem hexWord?_eq_none_iff
    {text : String} :
    hexWord? text = none ↔
      (∀ number, ¬ IsNumeral text.toList number) ∨
        ∃ number, IsNumeral text.toList number ∧ Word.count ≤ number := by
  constructor
  · intro refused
    by_cases numeral : ∃ number, IsNumeral text.toList number
    · rcases numeral with ⟨number, isNumeral⟩
      rw [isNumeral.hexWord?_eq] at refused
      exact .inr ⟨number, isNumeral, Word.ofNat?_eq_none_iff.mp refused⟩
    · exact .inl (not_exists.mp numeral)
  · rintro (noNumeral | ⟨number, isNumeral, large⟩)
    · rw [Option.eq_none_iff_forall_ne_some]
      intro value read
      exact noNumeral value.toNat (hexWord?_eq_some_iff.mp read)
    · rw [isNumeral.hexWord?_eq]
      exact Word.ofNat?_eq_none_iff.mpr large

/-! ## Texts that look like numerals -/

/--
A text that looks like a numeral and is none: a sign or a mark stands in front of a mark, a blank
between other characters, or there is a character that no numeral has.
-/
inductive Misshapen : List Char → Prop where
  | lateMark
      {before lead mark rest : List Char}
      (blanksBefore : Blanks before)
      (leads : lead ∈ ['+'] :: hexMarks)
      (marked : mark ∈ hexMarks) :
      Misshapen (before ++ lead ++ mark ++ rest)
  | innerBlank
      {left right : List Char}
      {blank : Char}
      (isBlank : isBlank blank)
      (someLeft : ¬ Blanks left)
      (someRight : ¬ Blanks right) :
      Misshapen (left ++ blank :: right)
  | foreign
      {text : List Char}
      {character : Char}
      (member : character ∈ text)
      (noBlank : isBlank character = false)
      (noPart : ¬ IsPart character) :
      Misshapen text

/-- No digits are read where a mark stands. -/
theorem read?_eq_none_of_mem_hexMarks
    {mark : List Char}
    (marked : mark ∈ hexMarks)
    (rest : List Char) :
    Numeral.read? 16 (mark ++ rest) = none := by
  simp only [hexMarks, List.mem_cons, List.not_mem_nil, or_false] at marked
  rcases marked with rfl | rfl
  · rfl
  · rfl

/-- A sign or a mark in front of a mark is dropped, and the second mark is left. -/
theorem dropPlus_dropHexMark_lead
    {lead mark : List Char}
    (leads : lead ∈ ['+'] :: hexMarks)
    (marked : mark ∈ hexMarks)
    (rest : List Char) :
    Numeral.dropPlus (dropHexMark (lead ++ mark ++ rest)) = mark ++ rest := by
  simp only [hexMarks, List.mem_cons, List.not_mem_nil, or_false] at leads marked
  rcases leads with rfl | rfl | rfl
  · rcases marked with rfl | rfl <;> rfl
  · rcases marked with rfl | rfl <;> rfl
  · rcases marked with rfl | rfl <;> rfl

theorem not_isNumeral_of_lateMark
    {before lead mark : List Char}
    (blanksBefore : Blanks before)
    (leads : lead ∈ ['+'] :: hexMarks)
    (marked : mark ∈ hexMarks)
    (rest : List Char) :
    ¬ IsNumeral (before ++ lead ++ mark ++ rest) number := by
  have front :
      ∀ lead ∈ ['+'] :: hexMarks, ∀ mark ∈ hexMarks,
        NoBlanks (lead ++ mark) ∧ lead ++ mark ≠ [] := by
    decide
  rcases front lead leads mark marked with ⟨noBlanks, nonempty⟩
  rcases noBlanks.exists_trimBlanks_append nonempty rest with ⟨kept, trimmed⟩
  rw [isNumeral_iff, List.append_assoc before, List.append_assoc before,
    blanksBefore.trimBlanks_append_left, trimmed, dropPlus_dropHexMark_lead leads marked,
    read?_eq_none_of_mem_hexMarks marked]
  exact nofun

theorem IsNumeral.exists_parts
    (isNumeral : IsNumeral text number) :
    ∃ before parts after,
      Blanks before ∧ Parts parts ∧ Blanks after ∧ text = before ++ (parts ++ after) := by
  cases isNumeral with
  | @intro before mark sign digits after _ blanksBefore marked signed spells blanksAfter =>
      refine
        ⟨before, mark ++ (sign ++ digits), after, blanksBefore,
          parts_append marked signed spells, blanksAfter, ?_⟩
      simp only [List.append_assoc]

/-- The blanks of a numeral are those in front of its first or behind its last other character. -/
theorem IsNumeral.blanks_left_or_right
    {left right : List Char}
    {blank : Char}
    (isNumeral : IsNumeral (left ++ blank :: right) number)
    (isBlank : isBlank blank) :
    Blanks left ∨ Blanks right := by
  rcases isNumeral.exists_parts with
    ⟨before, parts, after, blanksBefore, isParts, blanksAfter, whole⟩
  rcases List.append_eq_append_iff.mp whole with ⟨more, rfl, -⟩ | ⟨front, -, whole⟩
  · left
    intro character member
    exact blanksBefore character (List.mem_append_left more member)
  · right
    -- The blank is none of the parts, so it stands behind all of them.
    rcases List.append_eq_append_iff.mp whole with ⟨more, -, rfl⟩ | ⟨more, rfl, behind⟩
    · intro character member
      exact blanksAfter character (List.mem_append_right more (.tail blank member))
    · cases more with
      | nil =>
          intro character member
          rw [List.nil_append] at behind
          rw [← behind] at blanksAfter
          exact blanksAfter character (.tail blank member)
      | cons first others =>
          cases behind
          have noBlank := isParts.noBlanks blank (List.mem_append_right front (.head others))
          rw [isBlank] at noBlank
          cases noBlank

theorem Misshapen.not_isNumeral
    (misshapen : Misshapen text) :
    ¬ IsNumeral text number := by
  cases misshapen with
  | lateMark blanksBefore leads marked =>
      exact not_isNumeral_of_lateMark blanksBefore leads marked _
  | innerBlank isBlank someLeft someRight =>
      intro isNumeral
      rcases isNumeral.blanks_left_or_right isBlank with blanksLeft | blanksRight
      · exact someLeft blanksLeft
      · exact someRight blanksRight
  | @foreign _ character member noBlank noPart =>
      intro isNumeral
      rcases isNumeral.exists_parts with
        ⟨before, parts, after, blanksBefore, isParts, blanksAfter, rfl⟩
      have noBlanks (gap : List Char) (blanks : Blanks gap) : character ∉ gap := by
        intro member
        rw [blanks character member] at noBlank
        cases noBlank
      rcases List.mem_append.mp member with front | behind
      · exact noBlanks before blanksBefore front
      · rcases List.mem_append.mp behind with inParts | last
        · exact noPart (isParts character inParts)
        · exact noBlanks after blanksAfter last

/--
A text is read as a word exactly if it is a hexadecimal numeral of the number that the word holds.
It is refused exactly if it is no numeral or its number is too large for a word, and texts that only
look like numerals are refused.  A word is read back from its printed digits in any mixture of
cases, with or without a mark, with any number of zeros in front and with blanks around.
-/
theorem numerals_read_exactly :
    (∀ text value, hexWord? text = some value ↔ IsNumeral text.toList value.toNat) ∧
      (∀ text,
        hexWord? text = none ↔
          (∀ number, ¬ IsNumeral text.toList number) ∨
            ∃ number, IsNumeral text.toList number ∧ 2 ^ 32 ≤ number) ∧
        (∀ text, Misshapen text.toList → hexWord? text = none) ∧
          ∀ (value : Word) (before mark : List Char) (count : Nat) (digits after : List Char),
            Blanks before →
              mark ∈ [] :: hexMarks →
                digits.map Char.toLower = Nat.toDigits 16 value.toNat →
                  Blanks after →
                    hexWord?
                        (String.ofList
                          (before ++ mark ++ List.replicate count '0' ++ digits ++ after)) =
                      some value := by
  refine ⟨fun _ _ => hexWord?_eq_some_iff, fun _ => hexWord?_eq_none_iff, ?_, ?_⟩
  · intro text misshapen
    rw [hexWord?_eq_none_iff]
    exact .inl fun _ => misshapen.not_isNumeral
  · intro value before mark count digits after blanksBefore marked printed blanksAfter
    have isNumeral :=
      IsNumeral.intro blanksBefore marked List.mem_cons_self
        ((spells_of_printed printed).zeros_append count) blanksAfter
    rw [hexWord?_eq_some_iff, String.toList_ofList]
    simp only [List.append_assoc, List.nil_append] at isNumeral ⊢
    exact isNumeral

/--
A numeral with everything that it may have and one that is too large, then two marks, a sign in
front of a mark, a blank inside, a minus sign and a digit of another script, and a printed word.
-/
theorem numerals_read_and_refused :
    hexWord? "\u00a0\t0X+0fF\u3000" = some 0xFF ∧
      hexWord? "100000000" = none ∧
        hexWord? " 0x0X1" = none ∧
          hexWord? "+0x1" = none ∧
            hexWord? "1 2" = none ∧
              hexWord? "-1" = none ∧
                hexWord? "0x٣" = none ∧ hexWord? "\n0x000dEaD " = some 0xDEAD := by
  rcases numerals_read_exactly with ⟨reads, refuses, misshapen, printed⟩
  have full : IsNumeral "\u00a0\t0X+0fF\u3000".toList 0xFF := by
    have spells : Spells ['0', 'f', 'F'] 0xFF :=
      @Spells.intro _ [0, 15, 15] nofun
        (.cons (by decide) (.cons (by decide) (.cons (by decide) .nil)))
    exact
      @IsNumeral.intro ['\u00a0', '\t'] ['0', 'X'] ['+'] _ ['\u3000'] _ (by decide) (by decide)
        (by decide) spells (by decide)
  have large : IsNumeral "100000000".toList (2 ^ 32) := by
    have printed : "100000000".toList.map Char.toLower = Nat.toDigits 16 (2 ^ 32) := by decide
    exact
      @IsNumeral.intro [] [] [] _ [] _ nofun (by decide) (by decide) (spells_of_printed printed)
        nofun
  refine ⟨?_, ?_, ?_, ?_, ?_, ?_, ?_, ?_⟩
  · exact (reads _ _).mpr full
  · exact (refuses _).mpr (.inr ⟨2 ^ 32, large, le_rfl⟩)
  · exact
      misshapen _
        (@Misshapen.lateMark [' '] ['0', 'x'] ['0', 'X'] ['1'] (by decide) (by decide) (by decide))
  · exact misshapen _ (@Misshapen.lateMark [] ['+'] ['0', 'x'] ['1'] nofun (by decide) (by decide))
  · exact misshapen _ (@Misshapen.innerBlank ['1'] ['2'] ' ' (by decide) (by decide) (by decide))
  · exact misshapen _ (@Misshapen.foreign _ '-' (by decide) (by decide) (by decide))
  · exact misshapen _ (@Misshapen.foreign _ '٣' (by decide) (by decide) (by decide))
  · exact
      printed 0xDEAD ['\n'] ['0', 'x'] 3 ['d', 'E', 'a', 'D'] [' '] (by decide) (by decide)
        (by decide) (by decide)

end RegisterTrace.Hexadecimal
