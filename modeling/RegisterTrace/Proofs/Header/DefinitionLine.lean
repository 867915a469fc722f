import RegisterTrace.Proofs.Header.ConstantLine
import RegisterTrace.Proofs.Header.FirstField
import RegisterTrace.Proofs.Word

/-!
# Lines that define a name

A line that starts as a definition is read by two patterns, one for the offset of a register and one
for a constant.  What stands behind the name tells them apart, a parenthesis or a literal, so no
line has both shapes and it makes no difference which pattern is tried first.  A line has a meaning
exactly if it has one of the shapes and a word holds its number, which is never cut short: digits
that a word does not hold make the line say nothing.
-/

namespace RegisterTrace.Header

variable {text name base digits body : List Char}

/--
The shape `#define NAME 0xHEX`.  There must be blanks around the name, and what follows the digits
cannot go on as a word.
-/
inductive ConstantShape : (text name digits : List Char) → Prop where
  | intro
      {afterDefine name afterName mark digits rest : List Char}
      (blanksAfterDefine : IsRun isBlank afterDefine)
      (nameRun : IsRun isWordCharacter name)
      (blanksAfterName : IsRun isBlank afterName)
      (marked : mark ∈ hexMarks)
      (digitRun : IsRun (Numeral.isDigit 16) digits)
      (ends : StopsAt isWordCharacter rest) :
      ConstantShape
        (defineMark ++ afterDefine ++ name ++ afterName ++ mark ++ digits ++ rest) name digits

/-- The scanners read a line as a constant exactly if it has the shape of one. -/
theorem constantShape_iff :
    ConstantShape text name digits ↔
      ∃ body, definition? text = some (name, body) ∧ constantBody? body = some digits := by
  constructor
  · intro shape
    cases shape with
    | @intro afterDefine _ afterName mark _ rest blanksAfterDefine nameRun blanksAfterName marked
        digitRun ends =>
        refine ⟨mark ++ (digits ++ rest), definition?_eq_some_iff.mpr ?_, ?_⟩
        · refine
            ⟨afterDefine, afterName, blanksAfterDefine, nameRun, blanksAfterName,
              stopsAt_of_mem_hexMarks marked _, ?_⟩
          simp only [List.append_assoc]
        · exact constantBody?_eq_some_iff.mpr ⟨mark, marked, rest, digitRun, ends, rfl⟩
  · rintro ⟨body, defined, read⟩
    rcases definition?_eq_some_iff.mp defined with
      ⟨afterDefine, afterName, blanksAfterDefine, nameRun, blanksAfterName, -, rfl⟩
    rcases constantBody?_eq_some_iff.mp read with ⟨mark, marked, rest, digitRun, ends, rfl⟩
    have shape :=
      @ConstantShape.intro afterDefine name afterName mark digits rest blanksAfterDefine nameRun
        blanksAfterName marked digitRun ends
    simp only [List.append_assoc] at shape
    exact shape

/-- A line has one of the two shapes at most. -/
theorem ConstantShape.not_offsetShape
    {otherName : List Char}
    (shape : ConstantShape text name digits)
    {otherDigits : List Char} :
    ¬ OffsetShape text otherName base otherDigits := by
  intro other
  rcases constantShape_iff.mp shape with ⟨body, defined, read⟩
  rcases offsetShape_iff.mp other with ⟨otherBody, otherDefined, otherRead⟩
  rw [defined, Option.some.injEq, Prod.mk.injEq] at otherDefined
  rcases otherDefined with ⟨-, rfl⟩
  rw [offsetBody?_eq_none_of_constantBody? read] at otherRead
  cases otherRead

/-! ## What a line of the shape says -/

/-- A line of the shape names a constant if a word holds its number, and says nothing if not. -/
theorem ofText_of_constantShape
    {line name : String}
    (shape : ConstantShape (trimBlanks line.toList) name.toList digits) :
    Line.ofText line =
      match Word.ofNat? (Numeral.value 16 digits) with
      | some value => .constant name value
      | none => .other := by
  rcases constantShape_iff.mp shape with ⟨body, defined, read⟩
  have said := ofText_of_constantBody? defined read
  rw [String.ofList_toList] at said
  exact said

/-- Only a line of the shape names a constant, and a word holds its number. -/
theorem exists_constantShape_of_ofText
    {line name : String}
    {value : Word}
    (said : Line.ofText line = .constant name value) :
    ∃ digits,
      ConstantShape (trimBlanks line.toList) name.toList digits ∧
        Word.ofNat? (Numeral.value 16 digits) = some value := by
  rcases exists_definition?_of_ofText said nofun nofun with ⟨nameRead, body, defined, meant⟩
  rw [Line.ofDefinition] at meant
  split at meant
  · split at meant
    · cases meant
    · cases meant
  · split at meant
    · next held =>
        cases meant
        rcases Option.bind_eq_some_iff.mp held with ⟨digits, read, literal⟩
        rcases constantBody?_eq_some_iff.mp read with ⟨-, -, -, digitRun, -⟩
        rw [literalWord?_of_isRun digitRun] at literal
        refine ⟨digits, ?_, literal⟩
        rw [String.toList_ofList]
        exact constantShape_iff.mpr ⟨body, defined, read⟩
    · cases meant

theorem ofText_eq_constant_iff
    {line name : String}
    {value : Word} :
    Line.ofText line = .constant name value ↔
      ∃ digits,
        ConstantShape (trimBlanks line.toList) name.toList digits ∧
          Numeral.value 16 digits = value.toNat := by
  constructor
  · intro said
    rcases exists_constantShape_of_ofText said with ⟨digits, shape, held⟩
    exact ⟨digits, shape, (Word.ofNat?_eq_some_iff.mp held).symm⟩
  · rintro ⟨digits, shape, same⟩
    rw [ofText_of_constantShape shape, same, Word.ofNat?_toNat]

theorem ofText_eq_offset_iff
    {line name base : String}
    {distance : Word} :
    Line.ofText line = .offset name base distance ↔
      ∃ digits,
        OffsetShape (trimBlanks line.toList) name.toList base.toList digits ∧
          Numeral.value 16 digits = distance.toNat := by
  constructor
  · intro said
    rcases exists_definesOffset_of_ofText said with ⟨digits, shape, held⟩
    exact ⟨digits, shape, (Word.ofNat?_eq_some_iff.mp held).symm⟩
  · rintro ⟨digits, shape, same⟩
    have defines : DefinesOffset line name base digits := shape
    rw [ofText_of_definesOffset defines, same, Word.ofNat?_toNat]

/-! ## The order of the patterns -/

/-- What a line that starts a definition says if the pattern of a constant is tried first. -/
def Line.ofDefinitionConstantFirst (name body : List Char) : Line :=
  match constantBody? body with
  | some digits =>
      match literalWord? digits with
      | some value => .constant (String.ofList name) value
      | none => .other
  | none =>
      match offsetBody? body with
      | some (base, digits) =>
          match literalWord? digits with
          | some distance => .offset (String.ofList name) (String.ofList base) distance
          | none => .other
      | none => .other

/-- What a line says if the pattern of a constant is tried before that of an offset. -/
def Line.ofTextConstantFirst (line : String) : Line :=
  let text := trimBlanks line.toList
  if defineMark.isPrefixOf text then
    match definition? text with
    | some (name, body) => .ofDefinitionConstantFirst name body
    | none => .other
  else
    .ofMember text

theorem Line.ofDefinitionConstantFirst_eq
    (name body : List Char) :
    Line.ofDefinitionConstantFirst name body = Line.ofDefinition name body := by
  rw [ofDefinitionConstantFirst, ofDefinition]
  cases read : constantBody? body with
  | none => rfl
  | some digits =>
      rw [offsetBody?_eq_none_of_constantBody? read]
      rfl

theorem Line.ofTextConstantFirst_eq
    (line : String) :
    Line.ofTextConstantFirst line = Line.ofText line := by
  have same : Line.ofDefinitionConstantFirst = Line.ofDefinition := by
    funext name body
    exact ofDefinitionConstantFirst_eq name body
  rw [ofTextConstantFirst, same]
  rfl

/--
A line says where a register is exactly if it has the shape of an offset whose number the word is,
and names a constant exactly if it has the shape of one; blanks at its ends do not matter.  Digits
whose number no word holds say nothing.  No line has both shapes, so the patterns may be tried in
either order, and a line that starts as a definition is never a field.
-/
theorem definition_line_decided_by_shape
    (line : String) :
    let text := trimBlanks line.toList
    (∀ name base distance,
      Line.ofText line = .offset name base distance ↔
        ∃ digits,
          OffsetShape text name.toList base.toList digits ∧
            Numeral.value 16 digits = distance.toNat) ∧
      (∀ name value,
        Line.ofText line = .constant name value ↔
          ∃ digits,
            ConstantShape text name.toList digits ∧ Numeral.value 16 digits = value.toNat) ∧
        (∀ name digits,
          (∃ base, OffsetShape text name base digits) ∨ ConstantShape text name digits →
            2 ^ 32 ≤ Numeral.value 16 digits →
              Line.ofText line = .other) ∧
          (∀ name base digits otherName otherDigits,
            OffsetShape text name base digits → ¬ ConstantShape text otherName otherDigits) ∧
            Line.ofTextConstantFirst line = Line.ofText line ∧
              ("#define".toList <+: text → ∀ name width, Line.ofText line ≠ .field name width) := by
  intro text
  refine
    ⟨fun _ _ _ => ofText_eq_offset_iff, fun _ _ => ofText_eq_constant_iff, ?_, ?_,
      Line.ofTextConstantFirst_eq line, fun starts _ _ => ofText_ne_field_of_define starts⟩
  · intro name digits shape large
    have unheld : Word.ofNat? (Numeral.value 16 digits) = none := Word.ofNat?_eq_none_iff.mpr large
    rcases shape with ⟨base, shape⟩ | shape
    · have defines : DefinesOffset line (String.ofList name) (String.ofList base) digits := by
        rw [DefinesOffset, String.toList_ofList, String.toList_ofList]
        exact shape
      rw [ofText_of_definesOffset defines, unheld]
    · rw [← String.toList_ofList (l := name)] at shape
      rw [ofText_of_constantShape shape, unheld]
  · intro name base digits otherName otherDigits shape other
    exact other.not_offsetShape shape

/--
An offset with many zeros and its own spacing, a constant in front of a comment, a literal that goes
on as a word, and one that is too large.
-/
theorem definition_lines_read :
    Line.ofText "\t#define A ( B+0X00000000001f ) // x : 1;" = .offset "A" "B" 0x1F ∧
      Line.ofText "#define É  0xFfFfFfFf// b" = .constant "É" 0xFFFFFFFF ∧
        (∀ value, Line.ofText "#define A 0x10U" ≠ .constant "A" value) ∧
          Line.ofText "#define A 0x100000000" = .other := by
  have offset :
      OffsetShape (trimBlanks "\t#define A ( B+0X00000000001f ) // x : 1;".toList) ['A'] ['B']
        "00000000001f".toList :=
    offsetShape_iff.mpr
      ⟨"( B+0X00000000001f ) // x : 1;".toList, by decide +kernel, by decide +kernel⟩
  have constant :
      ConstantShape (trimBlanks "#define É  0xFfFfFfFf// b".toList) ['É'] "FfFfFfFf".toList :=
    constantShape_iff.mpr ⟨"0xFfFfFfFf// b".toList, by decide +kernel, by decide +kernel⟩
  have large :
      ConstantShape (trimBlanks "#define A 0x100000000".toList) ['A'] "100000000".toList :=
    constantShape_iff.mpr ⟨"0x100000000".toList, by decide +kernel, by decide +kernel⟩
  refine ⟨?_, ?_, ?_, ?_⟩
  · exact
      ((definition_line_decided_by_shape "\t#define A ( B+0X00000000001f ) // x : 1;").1 "A" "B"
        0x1F).mpr ⟨_, offset, by decide⟩
  · exact
      ((definition_line_decided_by_shape "#define É  0xFfFfFfFf// b").2.1 "É" 0xFFFFFFFF).mpr
        ⟨_, constant, by decide⟩
  · intro value said
    rcases ((definition_line_decided_by_shape "#define A 0x10U").2.1 "A" value).mp said with
      ⟨digits, shape, -⟩
    rcases constantShape_iff.mp shape with ⟨body, defined, read⟩
    have known :
        definition? (trimBlanks "#define A 0x10U".toList) = some (['A'], "0x10U".toList) := by
      decide +kernel
    have unread : constantBody? "0x10U".toList = none := by decide +kernel
    rw [known, Option.some.injEq, Prod.mk.injEq] at defined
    rw [← defined.2, unread] at read
    cases read
  · exact
      (definition_line_decided_by_shape "#define A 0x100000000").2.2.1 ['A'] "100000000".toList
        (.inr large) (by decide)

end RegisterTrace.Header
