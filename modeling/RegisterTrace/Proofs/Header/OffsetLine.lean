import RegisterTrace.Proofs.Header.Scan

/-!
# Offset lines

A line has the shape of an offset definition if it starts with `#define NAME (BASE + 0xHEX)`, where
blanks may stand between the parts.  The scanners of a header read a line so exactly if it has that
shape, whatever follows the parenthesis and however many digits there are.  Only then does the size
of the number come in: the line says something exactly if a word holds the number.
-/

namespace RegisterTrace.Header

variable {text rest name body base digits : List Char}

/-- The marks of a hexadecimal literal. -/
def hexMarks : List (List Char) :=
  [['0', 'x'], ['0', 'X']]

/--
The shape `#define NAME (BASE + 0xHEX)`.  There must be blanks around the name, and there may be
blanks between all parts in the parentheses; anything may follow.
-/
inductive OffsetShape : (text name base digits : List Char) → Prop where
  | intro
      {afterDefine name afterName afterOpen base afterBase afterPlus mark digits afterDigits rest :
        List Char}
      (blanksAfterDefine : IsRun isBlank afterDefine)
      (nameRun : IsRun isWordCharacter name)
      (blanksAfterName : IsRun isBlank afterName)
      (blanksAfterOpen : Blanks afterOpen)
      (baseRun : IsRun isWordCharacter base)
      (blanksAfterBase : Blanks afterBase)
      (blanksAfterPlus : Blanks afterPlus)
      (marked : mark ∈ hexMarks)
      (digitRun : IsRun (Numeral.isDigit 16) digits)
      (blanksAfterDigits : Blanks afterDigits) :
      OffsetShape
        (defineMark ++ afterDefine ++ name ++ afterName ++
          ['('] ++ afterOpen ++ base ++ afterBase ++ ['+'] ++ afterPlus ++
            mark ++ digits ++ afterDigits ++ [')'] ++ rest)
        name base digits

/-! ## What the scanners read -/

theorem isBlank_of_isWordCharacter
    {character : Char}
    (word : isWordCharacter character) :
    isBlank character = false := by
  rw [← Bool.not_eq_true]
  intro blank
  rw [isWordCharacter_of_isBlank blank] at word
  cases word

theorem stopsAt_of_mem_hexMarks
    {mark : List Char}
    (marked : mark ∈ hexMarks)
    (rest : List Char) :
    StopsAt isBlank (mark ++ rest) := by
  simp only [hexMarks, List.mem_cons, List.not_mem_nil, or_false] at marked
  rcases marked with rfl | rfl
  · exact stopsAt_cons_iff.mpr (by decide)
  · exact stopsAt_cons_iff.mpr (by decide)

theorem hexLiteral?_eq_some_iff :
    hexLiteral? text = some (digits, rest) ↔
      ∃ mark ∈ hexMarks,
        IsRun (Numeral.isDigit 16) digits ∧
          StopsAt (Numeral.isDigit 16) rest ∧ text = mark ++ (digits ++ rest) := by
  constructor
  · intro taken
    unfold hexLiteral? at taken
    split at taken
    · next more =>
        rcases run?_eq_some_iff.mp taken with ⟨run, stops, rfl⟩
        exact ⟨['0', 'x'], by simp [hexMarks], run, stops, rfl⟩
    · next more =>
        rcases run?_eq_some_iff.mp taken with ⟨run, stops, rfl⟩
        exact ⟨['0', 'X'], by simp [hexMarks], run, stops, rfl⟩
    · cases taken
  · rintro ⟨mark, marked, run, stops, rfl⟩
    have taken := run?_eq_some_iff.mpr ⟨run, stops, rfl⟩
    simp only [hexMarks, List.mem_cons, List.not_mem_nil, or_false] at marked
    rcases marked with rfl | rfl
    · exact taken
    · exact taken

/-- A definition starts with its mark, a name between blanks, and something else. -/
theorem definition?_eq_some_iff :
    definition? text = some (name, body) ↔
      ∃ afterDefine afterName,
        IsRun isBlank afterDefine ∧
          IsRun isWordCharacter name ∧
            IsRun isBlank afterName ∧
              StopsAt isBlank body ∧
                text = defineMark ++ (afterDefine ++ (name ++ (afterName ++ body))) := by
  rw [definition?]
  simp only [Option.bind_eq_bind, Option.bind_eq_some_iff, Option.pure_def, Option.some.injEq,
    Prod.mk.injEq, Prod.exists, after?_eq_some_iff, afterBlanks?_eq_some_iff, name?,
    run?_eq_some_iff]
  constructor
  · rintro ⟨_, rfl, _, ⟨afterDefine, blanksAfterDefine, -, rfl⟩, _, _,
      ⟨nameRun, -, rfl⟩, _, ⟨afterName, blanksAfterName, stops, rfl⟩, rfl, rfl⟩
    exact ⟨afterDefine, afterName, blanksAfterDefine, nameRun, blanksAfterName, stops, rfl⟩
  · rintro ⟨afterDefine, afterName, blanksAfterDefine, nameRun, blanksAfterName, stops, rfl⟩
    -- No part can go on into the one after it, so each scanner takes its part and no more.
    have stopsBlanks : StopsAt isBlank (name ++ (afterName ++ body)) :=
      nameRun.stopsAt (fun _ => isBlank_of_isWordCharacter) _
    have stopsName : StopsAt isWordCharacter (afterName ++ body) :=
      blanksAfterName.stopsAt (fun _ => isWordCharacter_of_isBlank) _
    exact
      ⟨_, rfl, _, ⟨afterDefine, blanksAfterDefine, stopsBlanks, rfl⟩, _, _,
        ⟨nameRun, stopsName, rfl⟩, _, ⟨afterName, blanksAfterName, stops, rfl⟩, rfl, rfl⟩

theorem after?_dropBlanks_eq_some_iff
    {mark : Char}
    (noBlank : isBlank mark = false) :
    after? [mark] (dropBlanks text) = some rest ↔
      ∃ gap, Blanks gap ∧ text = gap ++ mark :: rest := by
  rw [after?_eq_some_iff]
  exact dropBlanks_eq_iff (stopsAt_cons_iff.mpr noBlank)

/-- A run of characters that are no blanks is taken behind blanks. -/
theorem run?_dropBlanks_eq_some_iff
    {accepts : Char → Bool}
    {part : List Char}
    (excludes : ∀ character, accepts character → isBlank character = false) :
    run? accepts (dropBlanks text) = some (part, rest) ↔
      ∃ gap,
        Blanks gap ∧
          IsRun accepts part ∧ StopsAt accepts rest ∧ text = gap ++ (part ++ rest) := by
  rw [run?_eq_some_iff]
  constructor
  · rintro ⟨run, stops, dropped⟩
    rcases (dropBlanks_eq_iff (run.stopsAt excludes rest)).mp dropped with ⟨gap, blanks, split⟩
    exact ⟨gap, blanks, run, stops, split⟩
  · rintro ⟨gap, blanks, run, stops, split⟩
    exact
      ⟨run, stops, (dropBlanks_eq_iff (run.stopsAt excludes rest)).mpr ⟨gap, blanks, split⟩⟩

theorem name?_dropBlanks_eq_some_iff :
    name? (dropBlanks text) = some (name, rest) ↔
      ∃ gap,
        Blanks gap ∧
          IsRun isWordCharacter name ∧
            StopsAt isWordCharacter rest ∧ text = gap ++ (name ++ rest) :=
  run?_dropBlanks_eq_some_iff fun _ => isBlank_of_isWordCharacter

theorem hexLiteral?_dropBlanks_eq_some_iff :
    hexLiteral? (dropBlanks text) = some (digits, rest) ↔
      ∃ gap mark,
        Blanks gap ∧
          mark ∈ hexMarks ∧
            IsRun (Numeral.isDigit 16) digits ∧
              StopsAt (Numeral.isDigit 16) rest ∧ text = gap ++ (mark ++ (digits ++ rest)) := by
  rw [hexLiteral?_eq_some_iff]
  constructor
  · rintro ⟨mark, marked, run, stops, dropped⟩
    have stopsBlanks := stopsAt_of_mem_hexMarks marked (digits ++ rest)
    rcases (dropBlanks_eq_iff stopsBlanks).mp dropped with ⟨gap, blanks, split⟩
    exact ⟨gap, mark, blanks, marked, run, stops, split⟩
  · rintro ⟨gap, mark, blanks, marked, run, stops, split⟩
    have stopsBlanks := stopsAt_of_mem_hexMarks marked (digits ++ rest)
    exact ⟨mark, marked, run, stops, (dropBlanks_eq_iff stopsBlanks).mpr ⟨gap, blanks, split⟩⟩

theorem offsetBody?_eq_some_iff :
    offsetBody? body = some (base, digits) ↔
      ∃ afterOpen afterBase afterPlus mark afterDigits rest,
        Blanks afterOpen ∧
          IsRun isWordCharacter base ∧
            Blanks afterBase ∧
              Blanks afterPlus ∧
                mark ∈ hexMarks ∧
                  IsRun (Numeral.isDigit 16) digits ∧
                    Blanks afterDigits ∧
                      body =
                        '(' :: (afterOpen ++ (base ++ (afterBase ++ '+' :: (afterPlus ++
                          (mark ++ (digits ++ (afterDigits ++ ')' :: rest))))))) := by
  have plusNoBlank : isBlank '+' = false := by decide
  have closeNoBlank : isBlank ')' = false := by decide
  rw [offsetBody?]
  simp only [Option.bind_eq_bind, Option.bind_eq_some_iff, Option.pure_def, Option.some.injEq,
    Prod.mk.injEq, Prod.exists, after?_dropBlanks_eq_some_iff plusNoBlank,
    after?_dropBlanks_eq_some_iff closeNoBlank, name?_dropBlanks_eq_some_iff,
    hexLiteral?_dropBlanks_eq_some_iff, after?_eq_some_iff, List.singleton_append]
  constructor
  · rintro ⟨_, rfl, _, _, ⟨afterOpen, blanksAfterOpen, baseRun, -, rfl⟩, _,
      ⟨afterBase, blanksAfterBase, rfl⟩, _, _,
      ⟨afterPlus, mark, blanksAfterPlus, marked, digitRun, -, rfl⟩, rest,
      ⟨afterDigits, blanksAfterDigits, rfl⟩, rfl, rfl⟩
    exact
      ⟨afterOpen, afterBase, afterPlus, mark, afterDigits, rest, blanksAfterOpen, baseRun,
        blanksAfterBase, blanksAfterPlus, marked, digitRun, blanksAfterDigits, rfl⟩
  · rintro ⟨afterOpen, afterBase, afterPlus, mark, afterDigits, rest, blanksAfterOpen, baseRun,
      blanksAfterBase, blanksAfterPlus, marked, digitRun, blanksAfterDigits, rfl⟩
    have stopsBase :
        StopsAt isWordCharacter
          (afterBase ++ '+' :: (afterPlus ++ (mark ++ (digits ++ (afterDigits ++ ')' :: rest))))) :=
      blanksAfterBase.stopsAt (fun _ => isWordCharacter_of_isBlank)
        (stopsAt_cons_iff.mpr (by decide +kernel))
    have stopsDigits : StopsAt (Numeral.isDigit 16) (afterDigits ++ ')' :: rest) :=
      blanksAfterDigits.stopsAt (fun _ => isDigit_of_isBlank) (stopsAt_cons_iff.mpr (by decide))
    exact
      ⟨_, rfl, _, _, ⟨afterOpen, blanksAfterOpen, baseRun, stopsBase, rfl⟩, _,
        ⟨afterBase, blanksAfterBase, rfl⟩, _, _,
        ⟨afterPlus, mark, blanksAfterPlus, marked, digitRun, stopsDigits, rfl⟩, rest,
        ⟨afterDigits, blanksAfterDigits, rfl⟩, rfl, rfl⟩

/-- The scanners read a line as an offset definition exactly if it has the shape of one. -/
theorem offsetShape_iff :
    OffsetShape text name base digits ↔
      ∃ body, definition? text = some (name, body) ∧ offsetBody? body = some (base, digits) := by
  constructor
  · intro shape
    cases shape with
    | @intro afterDefine _ afterName afterOpen _ afterBase afterPlus mark _ afterDigits rest
        blanksAfterDefine nameRun blanksAfterName blanksAfterOpen baseRun blanksAfterBase
        blanksAfterPlus marked digitRun blanksAfterDigits =>
        have bodyRead :=
          offsetBody?_eq_some_iff.mpr
            ⟨afterOpen, afterBase, afterPlus, mark, afterDigits, rest, blanksAfterOpen, baseRun,
              blanksAfterBase, blanksAfterPlus, marked, digitRun, blanksAfterDigits, rfl⟩
        refine ⟨_, definition?_eq_some_iff.mpr ?_, bodyRead⟩
        refine ⟨afterDefine, afterName, blanksAfterDefine, nameRun, blanksAfterName, ?_, ?_⟩
        · exact stopsAt_cons_iff.mpr (by decide)
        · simp only [List.append_assoc, List.cons_append, List.nil_append]
  · rintro ⟨body, defined, bodyRead⟩
    rcases definition?_eq_some_iff.mp defined with
      ⟨afterDefine, afterName, blanksAfterDefine, nameRun, blanksAfterName, -, rfl⟩
    rcases offsetBody?_eq_some_iff.mp bodyRead with
      ⟨afterOpen, afterBase, afterPlus, mark, afterDigits, rest, blanksAfterOpen, baseRun,
        blanksAfterBase, blanksAfterPlus, marked, digitRun, blanksAfterDigits, rfl⟩
    have shape :=
      @OffsetShape.intro afterDefine name afterName afterOpen base afterBase afterPlus mark digits
        afterDigits rest blanksAfterDefine nameRun blanksAfterName blanksAfterOpen baseRun
        blanksAfterBase blanksAfterPlus marked digitRun blanksAfterDigits
    simp only [List.append_assoc, List.cons_append, List.nil_append] at shape
    exact shape

/-! ## What a line of the shape says -/

/-- A line defines a register at an offset, however large the number is. -/
def DefinesOffset (line name base : String) (digits : List Char) : Prop :=
  OffsetShape (trimBlanks line.toList) name.toList base.toList digits

theorem OffsetShape.digitRun
    (shape : OffsetShape text name base digits) :
    IsRun (Numeral.isDigit 16) digits := by
  cases shape with
  | intro _ _ _ _ _ _ _ _ digitRun _ => exact digitRun

theorem literalWord?_of_isRun
    (run : IsRun (Numeral.isDigit 16) digits) :
    literalWord? digits = Word.ofNat? (Numeral.value 16 digits) := by
  rw [literalWord?, Numeral.read?_eq_value run.nonempty run.accepted, Option.bind_some]

theorem isPrefixOf_of_definition?
    (defined : definition? text = some (name, body)) :
    defineMark.isPrefixOf text := by
  rcases definition?_eq_some_iff.mp defined with ⟨_, _, -, -, -, -, rfl⟩
  rw [List.isPrefixOf_iff_prefix]
  exact List.prefix_append _ _

/-- A line of the shape says where a register is if a word holds its number, and nothing if not. -/
theorem ofText_of_definesOffset
    {line name base : String}
    {digits : List Char}
    (shape : DefinesOffset line name base digits) :
    Line.ofText line =
      match Word.ofNat? (Numeral.value 16 digits) with
      | some distance => .offset name base distance
      | none => .other := by
  have literal := literalWord?_of_isRun shape.digitRun
  rcases offsetShape_iff.mp shape with ⟨body, defined, bodyRead⟩
  rw [Line.ofText]
  simp only [if_pos (isPrefixOf_of_definition? defined), defined]
  rw [Line.ofDefinition]
  simp only [bodyRead, literal]
  cases Word.ofNat? (Numeral.value 16 digits) with
  | none => rfl
  | some distance => simp only [String.ofList_toList]

/-- A line that starts no definition is a field or says nothing. -/
theorem Line.ofMember_cases
    (text : List Char) :
    Line.ofMember text = .other ∨ ∃ name width, Line.ofMember text = .field name width := by
  rw [Line.ofMember]
  split
  · exact .inl rfl
  · split
    · split
      · exact .inr ⟨_, _, rfl⟩
      · exact .inl rfl
    · exact .inl rfl

/-- What a line says other than a field is said by its definition. -/
theorem exists_definition?_of_ofText
    {line : String}
    {meaning : Line}
    (said : Line.ofText line = meaning)
    (meaningful : meaning ≠ .other)
    (noField : ∀ name width, meaning ≠ .field name width) :
    ∃ name body,
      definition? (trimBlanks line.toList) = some (name, body) ∧
        Line.ofDefinition name body = meaning := by
  rw [Line.ofText] at said
  split at said
  · split at said
    · next name body defined => exact ⟨name, body, defined, said⟩
    · exact absurd said.symm meaningful
  · rcases Line.ofMember_cases (trimBlanks line.toList) with other | ⟨name, width, field⟩
    · exact absurd (said.symm.trans other) meaningful
    · exact absurd (said.symm.trans field) (noField name width)

/-- Only a line of the shape says where a register is, and a word holds its number. -/
theorem exists_definesOffset_of_ofText
    {line name base : String}
    {distance : Word}
    (said : Line.ofText line = .offset name base distance) :
    ∃ digits,
      DefinesOffset line name base digits ∧
        Word.ofNat? (Numeral.value 16 digits) = some distance := by
  rcases exists_definition?_of_ofText said nofun nofun with ⟨nameRead, body, defined, meant⟩
  rw [Line.ofDefinition] at meant
  split at meant
  · next baseRead digits bodyRead =>
      have shape := offsetShape_iff.mpr ⟨body, defined, bodyRead⟩
      rw [literalWord?_of_isRun shape.digitRun] at meant
      split at meant
      · next held =>
          cases meant
          refine ⟨digits, ?_, held⟩
          rw [DefinesOffset, String.toList_ofList, String.toList_ofList]
          exact shape
      · cases meant
  · split at meant
    · cases meant
    · cases meant

end RegisterTrace.Header
