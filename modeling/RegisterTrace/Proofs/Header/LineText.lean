import RegisterTrace.Proofs.Header.ConstantLine
import RegisterTrace.Proofs.Header.FirstField
import RegisterTrace.Proofs.Numeral
import RegisterTrace.Proofs.Source
import RegisterTrace.Proofs.Word

/-!
# Lines in writing

What a line of a header says can be written down in one of the usual forms, with the numbers in any
digits that have their value.  A line written in such a form says what it was written for, and stays
one line among others.
-/

namespace RegisterTrace.Header

variable {name digits : String}

/-- A name of a constant, a register or a field. -/
def IsName (name : String) : Prop :=
  IsRun isWordCharacter name.toList

/-- Digits of a base, one at least, that stand for a number. -/
structure Writes (base number : Nat) (digits : String) : Prop where
  run : IsRun (Numeral.isDigit base) digits.toList
  value_eq : Numeral.value base digits.toList = number

instance : Decidable (IsName name) :=
  inferInstanceAs (Decidable (IsRun isWordCharacter name.toList))

instance
    {base number : Nat} :
    Decidable (Writes base number digits) :=
  decidable_of_iff
    (IsRun (Numeral.isDigit base) digits.toList ∧ Numeral.value base digits.toList = number)
    ⟨fun writes => ⟨writes.1, writes.2⟩, fun writes => ⟨writes.run, writes.value_eq⟩⟩

/-- How a line is written.  What says nothing may be any line that is read as saying nothing. -/
inductive LineText : Line → String → Prop where
  | constant
      {name digits : String}
      {value : Word}
      (nameRun : IsName name)
      (writes : Writes 16 value.toNat digits) :
      LineText (.constant name value) ("#define " ++ name ++ " 0x" ++ digits)
  | offset
      {name base digits : String}
      {distance : Word}
      (nameRun : IsName name)
      (baseRun : IsName base)
      (writes : Writes 16 distance.toNat digits) :
      LineText (.offset name base distance)
        ("#define " ++ name ++ " (" ++ base ++ " + 0x" ++ digits ++ ")")
  | field
      {indent name digits : String}
      {width : Nat}
      (blanks : Blanks indent.toList)
      (sameLine : '\n' ∉ indent.toList)
      (nameRun : IsName name)
      (writes : Writes 10 width digits)
      (positive : 0 < width)
      (small : width < Word.count) :
      LineText (.field name width) (indent ++ "u32 " ++ name ++ " : " ++ digits ++ ";")
  | other
      {line : String}
      (saysNothing : Line.ofText line = .other)
      (sameLine : '\n' ∉ line.toList) :
      LineText .other line

/-! ## Digits -/

/-- Any number is written by its digits in a base. -/
theorem writes_toDigits
    {base : Nat}
    (large : 1 < base)
    (upToSixteen : base ≤ 16)
    (number : Nat) :
    Writes base number (String.ofList (Nat.toDigits base number)) := by
  constructor
  · rw [String.toList_ofList]
    refine ⟨Nat.toDigits_ne_nil, ?_⟩
    intro character member
    exact Numeral.isDigit_of_mem_toDigits large upToSixteen member
  · rw [String.toList_ofList]
    exact Numeral.value_toDigits large upToSixteen number

theorem writes_hex
    (number : Nat) :
    Writes 16 number (Numeral.hex number) :=
  writes_toDigits (by decide) (by decide) number

theorem writes_decimal
    (number : Nat) :
    Writes 10 number (Numeral.decimal number) :=
  writes_toDigits (by decide) (by decide) number

/-! ## What a written line says -/

theorem isRun_blank : IsRun isBlank [' '] :=
  ⟨List.cons_ne_nil _ _, List.forall_mem_singleton.mpr (by decide)⟩

theorem ofText_constant
    {value : Word}
    (nameRun : IsName name)
    (writes : Writes 16 value.toNat digits) :
    Line.ofText ("#define " ++ name ++ " 0x" ++ digits) = .constant name value := by
  have shape :
      ("#define " ++ name ++ " 0x" ++ digits).toList =
        defineMark ++ ([' '] ++ (name.toList ++ ([' '] ++ (['0', 'x'] ++ digits.toList)))) := by
    simp only [String.toList_append, List.append_assoc]
    rfl
  have trimmed :
      trimBlanks ("#define " ++ name ++ " 0x" ++ digits).toList =
        ("#define " ++ name ++ " 0x" ++ digits).toList := by
    apply trimBlanks_eq_self
    · rw [shape]
      exact stopsAt_cons_iff.mpr (by decide)
    · rw [String.toList_append, List.reverse_append]
      apply writes.run.reverse.stopsAt
      intro character digit
      exact isBlank_of_isWordCharacter (isWordCharacter_of_isDigit digit)
  have defined :
      definition? (trimBlanks ("#define " ++ name ++ " 0x" ++ digits).toList) =
        some (name.toList, ['0', 'x'] ++ digits.toList) := by
    rw [trimmed, definition?_eq_some_iff]
    exact ⟨[' '], [' '], isRun_blank, nameRun, isRun_blank, stopsAt_cons_iff.mpr (by decide), shape⟩
  have read : constantBody? (['0', 'x'] ++ digits.toList) = some digits.toList := by
    rw [constantBody?_eq_some_iff]
    exact ⟨['0', 'x'], by simp [hexMarks], [], writes.run, nofun, by simp⟩
  rw [ofText_of_constantBody? defined read, writes.value_eq, Word.ofNat?_toNat,
    String.ofList_toList]

theorem ofText_offset
    {base : String}
    {distance : Word}
    (nameRun : IsName name)
    (baseRun : IsName base)
    (writes : Writes 16 distance.toNat digits) :
    Line.ofText ("#define " ++ name ++ " (" ++ base ++ " + 0x" ++ digits ++ ")") =
      .offset name base distance := by
  have noBlanks : Blanks [] := nofun
  have shape :=
    @OffsetShape.intro [' '] name.toList [' '] [] base.toList [' '] [' '] ['0', 'x'] digits.toList
      [] [] isRun_blank nameRun isRun_blank noBlanks baseRun isRun_blank.accepted
      isRun_blank.accepted (by simp [hexMarks]) writes.run noBlanks
  have trimmed :
      trimBlanks ("#define " ++ name ++ " (" ++ base ++ " + 0x" ++ digits ++ ")").toList =
        ("#define " ++ name ++ " (" ++ base ++ " + 0x" ++ digits ++ ")").toList := by
    apply trimBlanks_eq_self
    · simp only [String.toList_append, List.append_assoc]
      exact stopsAt_cons_iff.mpr (by decide)
    · rw [String.toList_append, List.reverse_append]
      exact stopsAt_cons_iff.mpr (by decide)
  have defines :
      DefinesOffset ("#define " ++ name ++ " (" ++ base ++ " + 0x" ++ digits ++ ")") name base
        digits.toList := by
    rw [DefinesOffset, trimmed]
    simp only [String.toList_append, List.append_assoc, List.nil_append] at shape ⊢
    exact shape
  rw [ofText_of_definesOffset defines, writes.value_eq, Word.ofNat?_toNat]

theorem ofText_field
    {indent : String}
    {width : Nat}
    (blanks : Blanks indent.toList)
    (nameRun : IsName name)
    (writes : Writes 10 width digits)
    (positive : 0 < width)
    (small : width < Word.count) :
    Line.ofText (indent ++ "u32 " ++ name ++ " : " ++ digits ++ ";") = .field name width := by
  let typeName := ['u', '3', '2']
  let declared := [' '] ++ ':' :: ([' '] ++ (digits.toList ++ ([] ++ [';'])))
  have shape :
      (indent ++ "u32 " ++ name ++ " : " ++ digits ++ ";").toList =
        indent.toList ++ (typeName ++ ([' '] ++ (name.toList ++ declared))) := by
    simp [typeName, declared, String.toList_append]
  have trimmed :
      trimBlanks (indent ++ "u32 " ++ name ++ " : " ++ digits ++ ";").toList =
        typeName ++ ([' '] ++ (name.toList ++ declared)) := by
    rw [shape, blanks.trimBlanks_append_left]
    apply trimBlanks_eq_self
    · exact stopsAt_cons_iff.mpr (by decide)
    · simp only [declared, List.reverse_append, List.reverse_cons, List.append_assoc]
      exact stopsAt_cons_iff.mpr (by decide)
  have blank := isRun_blank.accepted
  have blankNoWord : isWordCharacter ' ' = false := isWordCharacter_of_isBlank (by decide)
  have stopsDeclared : StopsAt isWordCharacter declared := stopsAt_cons_iff.mpr blankNoWord
  have stopsType : StopsAt isWordCharacter ([' '] ++ (name.toList ++ declared)) :=
    stopsAt_cons_iff.mpr blankNoWord
  have typeRun : IsRun isWordCharacter typeName :=
    show IsRun isWordCharacter ['u', '3', '2'] by decide
  have digitRun : IsRun isDecimalDigit digits.toList :=
    ⟨writes.run.nonempty, fun digit member =>
      isDecimalDigit_of_isDigit (writes.run.accepted digit member)⟩
  have declares : widthDigits? declared = some digits.toList :=
    widthDigits?_eq_some_iff.mpr ⟨[' '], [' '], [], [], blank, blank, digitRun, nofun, rfl⟩
  -- The name of the type is no field, because the name of the field follows it.
  have noWidth : widthDigits? ([' '] ++ (name.toList ++ declared)) = none := by
    apply widthDigits?_eq_none blank
    · exact nameRun.stopsAt (fun _ => isBlank_of_isWordCharacter) _
    · apply nameRun.stopsAt
      intro character word
      rw [beq_eq_false_iff_ne]
      rintro rfl
      exact absurd word (by decide +kernel)
  have found :
      firstField? false (typeName ++ ([' '] ++ (name.toList ++ declared))) =
        some (name.toList, digits.toList) := by
    rw [firstField?_append typeRun stopsType, noWidth,
      Blanks.firstField?_append blank, firstField?_append nameRun stopsDeclared, declares]
    rfl
  have noDefinition :
      defineMark.isPrefixOf (typeName ++ ([' '] ++ (name.toList ++ declared))) = false := rfl
  have noComment :
      startsComment (typeName ++ ([' '] ++ (name.toList ++ declared))) = false := rfl
  have bits : width? digits.toList = some width :=
    width?_eq_some_iff.mpr ⟨writes.run, writes.value_eq, positive, small⟩
  rw [Line.ofText]
  simp only [trimmed, noDefinition, Line.ofMember_eq, noComment, found, bits, Bool.false_eq_true,
    if_false, String.ofList_toList]

theorem LineText.ofText_eq
    {line : Line}
    {text : String}
    (written : LineText line text) :
    Line.ofText text = line := by
  cases written with
  | constant nameRun writes => exact ofText_constant nameRun writes
  | offset nameRun baseRun writes => exact ofText_offset nameRun baseRun writes
  | field blanks sameLine nameRun writes positive small =>
      exact ofText_field blanks nameRun writes positive small
  | other saysNothing sameLine => exact saysNothing

/-! ## Written lines as lines of a text -/

theorem not_mem_of_isName
    (nameRun : IsName name) :
    '\n' ∉ name.toList := by
  intro member
  exact absurd (nameRun.accepted '\n' member) (by decide +kernel)

theorem Writes.not_mem
    {base number : Nat}
    (writes : Writes base number digits) :
    '\n' ∉ digits.toList := by
  intro member
  have digit := writes.run.accepted '\n' member
  cases digit

theorem LineText.not_mem
    {line : Line}
    {text : String}
    (written : LineText line text) :
    '\n' ∉ text.toList := by
  cases written with
  | constant nameRun writes =>
      simp [String.toList_append, not_mem_of_isName nameRun, writes.not_mem]
  | offset nameRun baseRun writes =>
      simp [String.toList_append, not_mem_of_isName nameRun, not_mem_of_isName baseRun,
        writes.not_mem]
  | field blanks sameLine nameRun writes positive small =>
      simp [String.toList_append, sameLine, not_mem_of_isName nameRun, writes.not_mem]
  | other saysNothing sameLine => exact sameLine

/-- A line says the same with and without the carriage return at its end. -/
theorem ofText_withoutReturn
    (text : String) :
    Line.ofText (Source.withoutReturn text) = Line.ofText text := by
  rw [Source.withoutReturn]
  split
  · next ends =>
      rcases List.getLast?_eq_some_iff.mp ends with ⟨front, split⟩
      have blank : Blanks ['\r'] := by decide
      rw [split, List.dropLast_concat, Line.ofText, Line.ofText, String.toList_ofList, split,
        blank.trimBlanks_append_right]
  · rfl

theorem map_ofText_withoutReturn
    (lines : List String) :
    (lines.map Source.withoutReturn).map Line.ofText = lines.map Line.ofText := by
  rw [List.map_map]
  apply List.map_congr_left
  intro line _
  rw [Function.comp_apply, ofText_withoutReturn]

theorem ofText_empty : Line.ofText "" = .other := by
  decide +kernel

/-- What lines say, without those that say nothing. -/
def significant (said : List Line) : List Line :=
  said.filter (· ≠ .other)

theorem map_ofText_of_lineText
    {said : List Line}
    {texts : List String}
    (written : List.Forall₂ LineText said texts) :
    texts.map Line.ofText = said := by
  induction written with
  | nil => rfl
  | cons line rest inductionHypothesis =>
      rw [List.map_cons, line.ofText_eq, inductionHypothesis]

theorem not_mem_of_lineText
    {said : List Line}
    {texts : List String}
    (written : List.Forall₂ LineText said texts) :
    ∀ text ∈ texts, '\n' ∉ text.toList := by
  induction written with
  | nil => exact nofun
  | cons line rest inductionHypothesis =>
      exact List.forall_mem_cons.mpr ⟨line.not_mem, inductionHypothesis⟩

/-- The lines of a text that joins written lines say what these were written for. -/
theorem exists_lines_of_lineText
    {said : List Line}
    {texts : List String}
    (written : List.Forall₂ LineText said texts) :
    ∃ lines : List String,
      (Source.ofText (String.intercalate "\n" texts)).lines = lines.map .ok ∧
        significant (lines.map Line.ofText) = significant said := by
  have sameLines := not_mem_of_lineText written
  rw [← map_ofText_of_lineText written]
  rcases List.eq_nil_or_concat texts with rfl | ⟨front, last, rfl⟩
  · exact ⟨[], rfl, rfl⟩
  · rw [List.concat_eq_append] at sameLines ⊢
    refine ⟨_, Source.lines_ofText_intercalate sameLines, ?_⟩
    rw [List.map_append, List.map_append, map_ofText_withoutReturn, significant, significant,
      List.filter_append, List.filter_append]
    -- An empty line at the end is no line, and it says nothing.
    by_cases empty : last = ""
    · subst empty
      simp [ofText_empty]
    · rw [if_neg empty]

end RegisterTrace.Header
