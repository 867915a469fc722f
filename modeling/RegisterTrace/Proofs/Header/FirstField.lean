import RegisterTrace.Proofs.Header.MemberLine

/-!
# The first field of a line

A line may be read as a field in several ways: any part of a word that a colon, a width and a
semicolon follow would do for a name, and there may be more than one such place.  The field that
counts is the one that starts first.  It is found by going through the line word by word, and so its
name is always a whole word, and it alone decides what the line says, even if a later one has a
better width.
-/

namespace RegisterTrace.Header

variable {text front before name digits rest : List Char}

/--
A text read as a field: anything, a name, a colon, digits of any script, a semicolon, and anything.
There may be blanks on both sides of the colon and before the semicolon.
-/
inductive FieldShape : (text before name digits : List Char) → Prop where
  | intro
      {before name beforeColon afterColon digits afterDigits rest : List Char}
      (nameRun : IsRun isWordCharacter name)
      (blanksBeforeColon : Blanks beforeColon)
      (blanksAfterColon : Blanks afterColon)
      (digitRun : IsRun isDecimalDigit digits)
      (blanksAfterDigits : Blanks afterDigits) :
      FieldShape
        (before ++ name ++ beforeColon ++ [':'] ++ afterColon ++ digits ++ afterDigits ++ [';'] ++
          rest)
        before name digits

/-- The way to read a text as a field that has the shortest text before the name. -/
structure LeftmostField (text before name digits : List Char) : Prop where
  shape : FieldShape text before name digits
  least :
    ∀ otherBefore otherName otherDigits,
      FieldShape text otherBefore otherName otherDigits →
        before.length ≤ otherBefore.length

/-- A part of a text made of word characters, with none of them on either side. -/
inductive WholeWord : (text before word : List Char) → Prop where
  | intro
      {before word rest : List Char}
      (run : IsRun isWordCharacter word)
      (stopsBefore : StopsAt isWordCharacter before.reverse)
      (stopsBehind : StopsAt isWordCharacter rest) :
      WholeWord (before ++ (word ++ rest)) before word

/-! ## The ways to read a text as a field -/

/-- The shape is a name that a width follows. -/
theorem fieldShape_iff :
    FieldShape text before name digits ↔
      ∃ rest,
        IsRun isWordCharacter name ∧
          widthDigits? rest = some digits ∧ text = before ++ (name ++ rest) := by
  constructor
  · intro shape
    cases shape with
    | @intro _ _ beforeColon afterColon _ afterDigits rest nameRun blanksBeforeColon
        blanksAfterColon digitRun blanksAfterDigits =>
        have declared :=
          widthDigits?_eq_some_iff.mpr
            ⟨beforeColon, afterColon, afterDigits, rest, blanksBeforeColon, blanksAfterColon,
              digitRun, blanksAfterDigits, rfl⟩
        refine ⟨_, nameRun, declared, ?_⟩
        simp only [List.append_assoc, List.cons_append, List.nil_append]
  · rintro ⟨_, nameRun, declared, rfl⟩
    rcases widthDigits?_eq_some_iff.mp declared with
      ⟨beforeColon, afterColon, afterDigits, rest, blanksBeforeColon, blanksAfterColon, digitRun,
        blanksAfterDigits, rfl⟩
    have shape :=
      @FieldShape.intro before name beforeColon afterColon digits afterDigits rest nameRun
        blanksBeforeColon blanksAfterColon digitRun blanksAfterDigits
    simp only [List.append_assoc, List.cons_append, List.nil_append] at shape
    exact shape

theorem FieldShape.prepend
    (shape : FieldShape text before name digits)
    (front : List Char) :
    FieldShape (front ++ text) (front ++ before) name digits := by
  rcases fieldShape_iff.mp shape with ⟨rest, nameRun, declared, rfl⟩
  exact fieldShape_iff.mpr ⟨rest, nameRun, declared, (List.append_assoc front before _).symm⟩

/-- Wherever a text is read as a field, it has a colon and a semicolon. -/
theorem FieldShape.hasFieldMarks_eq_true
    (shape : FieldShape text before name digits) :
    hasFieldMarks text = true := by
  cases shape with
  | intro nameRun blanksBeforeColon blanksAfterColon digitRun blanksAfterDigits =>
      rw [hasFieldMarks, Bool.and_eq_true, List.contains_iff_mem, List.contains_iff_mem]
      simp only [List.mem_append, List.mem_singleton, or_true, true_or, and_self]

theorem not_fieldShape_nil :
    ¬ FieldShape [] before name digits := by
  intro shape
  cases shape.hasFieldMarks_eq_true

/-! ## The first of them -/

/-- At one place a text is read as a field in one way. -/
theorem FieldShape.unique
    {otherName otherDigits : List Char}
    (shape : FieldShape text before name digits)
    (otherShape : FieldShape text before otherName otherDigits) :
    name = otherName ∧ digits = otherDigits := by
  rcases fieldShape_iff.mp shape with ⟨rest, nameRun, declared, split⟩
  rcases fieldShape_iff.mp otherShape with ⟨otherRest, otherRun, otherDeclared, otherSplit⟩
  have same : name ++ rest = otherName ++ otherRest :=
    List.append_cancel_left (split.symm.trans otherSplit)
  rcases nameRun.append_inj (stopsAt_of_widthDigits? declared) otherRun
    (stopsAt_of_widthDigits? otherDeclared) same with ⟨sameName, rfl⟩
  rw [declared, Option.some.injEq] at otherDeclared
  exact ⟨sameName, otherDeclared⟩

theorem FieldShape.prefix_text
    (shape : FieldShape text before name digits) :
    before <+: text := by
  rcases fieldShape_iff.mp shape with ⟨rest, -, -, rfl⟩
  exact List.prefix_append before _

/-- The leftmost field of a text is one. -/
theorem LeftmostField.unique
    {otherBefore otherName otherDigits : List Char}
    (leftmost : LeftmostField text before name digits)
    (other : LeftmostField text otherBefore otherName otherDigits) :
    before = otherBefore ∧ name = otherName ∧ digits = otherDigits := by
  have sameLength : before.length = otherBefore.length :=
    Nat.le_antisymm (leftmost.least _ _ _ other.shape) (other.least _ _ _ leftmost.shape)
  have sameBefore : before = otherBefore :=
    (List.prefix_of_prefix_length_le leftmost.shape.prefix_text
      other.shape.prefix_text (Nat.le_of_eq sameLength)).eq_of_length sameLength
  subst sameBefore
  exact ⟨rfl, leftmost.shape.unique other.shape⟩

/--
The name of the leftmost field is a whole word: with one more character of the word before it, the
text would be read as a field further to the left.
-/
theorem LeftmostField.wholeWord
    (leftmost : LeftmostField text before name digits) :
    WholeWord text before name := by
  rcases fieldShape_iff.mp leftmost.shape with ⟨rest, nameRun, declared, rfl⟩
  refine .intro nameRun ?_ (stopsAt_of_widthDigits? declared)
  rcases List.eq_nil_or_concat before with rfl | ⟨front, last, rfl⟩
  · exact nofun
  · rw [List.concat_eq_append, List.reverse_append, List.reverse_singleton, List.singleton_append,
      stopsAt_cons_iff, ← Bool.not_eq_true]
    intro word
    have longer : IsRun isWordCharacter (last :: name) :=
      ⟨List.cons_ne_nil last name, List.forall_mem_cons.mpr ⟨word, nameRun.accepted⟩⟩
    have further : FieldShape (front.concat last ++ (name ++ rest)) front (last :: name) digits :=
      fieldShape_iff.mpr ⟨rest, longer, declared, by simp⟩
    have tooFar := leftmost.least _ _ _ further
    rw [List.length_concat] at tooFar
    omega

/-! ## Finding the first field -/

/-- No field starts in the front of a text. -/
def NoFieldIn (front rest : List Char) : Prop :=
  ∀ before name digits,
    FieldShape (front ++ rest) before name digits →
      ∃ later, before = front ++ later ∧ FieldShape rest later name digits

theorem noFieldIn_of_noWord
    {first : Char}
    (noWord : isWordCharacter first = false)
    (rest : List Char) :
    NoFieldIn [first] rest := by
  intro before name digits shape
  rcases fieldShape_iff.mp shape with ⟨behind, nameRun, declared, split⟩
  cases before with
  | nil =>
      rcases nameRun with ⟨nonempty, accepted⟩
      cases name with
      | nil => exact absurd rfl nonempty
      | cons letter letters =>
          rw [List.nil_append, List.singleton_append, List.cons_append, List.cons.injEq] at split
          have word := accepted letter List.mem_cons_self
          rw [← split.1, noWord] at word
          cases word
  | cons character later =>
      rw [List.singleton_append, List.cons_append, List.cons.injEq] at split
      rcases split with ⟨rfl, rfl⟩
      exact ⟨later, rfl, fieldShape_iff.mpr ⟨behind, nameRun, declared, rfl⟩⟩

/-- In a word that no width follows no field starts: its name would end where the word does. -/
theorem noFieldIn_of_word
    {word : List Char}
    (wordRun : IsRun isWordCharacter word)
    (stops : StopsAt isWordCharacter rest)
    (noWidth : widthDigits? rest = none) :
    NoFieldIn word rest := by
  intro before name digits shape
  rcases fieldShape_iff.mp shape with ⟨behind, nameRun, declared, split⟩
  rcases List.append_eq_append_iff.mp split with ⟨later, rfl, rfl⟩ | ⟨tail, rfl, same⟩
  · exact ⟨later, rfl, fieldShape_iff.mpr ⟨behind, nameRun, declared, rfl⟩⟩
  · have tailAccepted : ∀ character ∈ tail, isWordCharacter character :=
      fun character member => wordRun.accepted character (List.mem_append_right before member)
    have sameBehind := dropWhile_append_of_stopsAt tailAccepted stops
    rw [← same, dropWhile_append_of_stopsAt nameRun.accepted (stopsAt_of_widthDigits? declared)]
      at sameBehind
    rw [← sameBehind, declared] at noWidth
    cases noWidth

/-- What is found in a text: its leftmost field, or nothing if it has none. -/
inductive Found (text : List Char) : Option (List Char × List Char) → Prop where
  | field
      {before name digits : List Char}
      (leftmost : LeftmostField text before name digits) :
      Found text (some (name, digits))
  | nothing
      (nowhere : ∀ before name digits, ¬ FieldShape text before name digits) :
      Found text none

/-- What is found behind a front in which no field starts is found in the whole text. -/
theorem NoFieldIn.found
    {result : Option (List Char × List Char)}
    (noField : NoFieldIn front rest)
    (found : Found rest result) :
    Found (front ++ rest) result := by
  cases found with
  | field leftmost =>
      refine .field ⟨leftmost.shape.prepend front, ?_⟩
      intro otherBefore otherName otherDigits otherShape
      rcases noField _ _ _ otherShape with ⟨later, rfl, laterShape⟩
      have laterLeast := leftmost.least _ _ _ laterShape
      simp only [List.length_append]
      omega
  | nothing nowhere =>
      refine .nothing ?_
      intro before name digits shape
      rcases noField _ _ _ shape with ⟨later, -, laterShape⟩
      exact nowhere _ _ _ laterShape

/-- Going through a text word by word finds its leftmost field. -/
theorem found_firstField?
    (text : List Char) :
    Found text (firstField? false text) := by
  -- The induction is on the length, since a whole word is passed at once.
  induction size : text.length using Nat.strongRecOn generalizing text with
  | ind size inductionHypothesis =>
      subst size
      cases text with
      | nil => exact .nothing fun _ _ _ => not_fieldShape_nil
      | cons first more =>
          by_cases word : isWordCharacter first
          · rcases exists_run_of_accepts word more with ⟨name, rest, nameRun, stops, split⟩
            have shorter : rest.length < (first :: more).length := by
              have positive := List.length_pos_of_ne_nil nameRun.nonempty
              rw [split, List.length_append]
              omega
            have later := inductionHypothesis rest.length shorter rest rfl
            rw [split, firstField?_append nameRun stops]
            cases declared : widthDigits? rest with
            | none => exact (noFieldIn_of_word nameRun stops declared).found later
            | some digits =>
                have shape : FieldShape (name ++ rest) [] name digits :=
                  fieldShape_iff.mpr ⟨rest, nameRun, declared, rfl⟩
                exact .field ⟨shape, fun _ _ _ _ => Nat.zero_le _⟩
          · have noWord : isWordCharacter first = false := Bool.eq_false_iff.mpr word
            have later := inductionHypothesis more.length (Nat.lt_succ_self _) more rfl
            rw [firstField?, noWord, if_neg Bool.false_ne_true]
            exact (noFieldIn_of_noWord noWord more).found later

theorem firstField?_eq_some_iff :
    firstField? false text = some (name, digits) ↔
      ∃ before, LeftmostField text before name digits := by
  have found := found_firstField? text
  constructor
  · intro taken
    rw [taken] at found
    cases found with
    | field leftmost => exact ⟨_, leftmost⟩
  · rintro ⟨before, leftmost⟩
    cases taken : firstField? false text with
    | none =>
        rw [taken] at found
        cases found with
        | nothing nowhere => exact absurd leftmost.shape (nowhere _ _ _)
    | some field =>
        rw [taken] at found
        cases found with
        | field other =>
            rcases leftmost.unique other with ⟨-, rfl, rfl⟩
            rfl

theorem firstField?_eq_none_iff :
    firstField? false text = none ↔
      ∀ before name digits, ¬ FieldShape text before name digits := by
  have found := found_firstField? text
  constructor
  · intro missing
    rw [missing] at found
    cases found with
    | nothing nowhere => exact nowhere
  · intro nowhere
    cases taken : firstField? false text with
    | none => rfl
    | some field =>
        rw [taken] at found
        cases found with
        | field leftmost => exact absurd leftmost.shape (nowhere _ _ _)

/-- A text that is read as a field somewhere has a leftmost one. -/
theorem FieldShape.exists_leftmost
    (shape : FieldShape text before name digits) :
    ∃ leftBefore leftName leftDigits, LeftmostField text leftBefore leftName leftDigits := by
  have found := found_firstField? text
  generalize firstField? false text = result at found
  cases found with
  | field leftmost => exact ⟨_, _, _, leftmost⟩
  | nothing nowhere => exact absurd shape (nowhere _ _ _)

/-- The test for a colon and a semicolon rejects nothing that has a field. -/
theorem Line.ofMember_eq :
    Line.ofMember text =
      if startsComment text then
        .other
      else
        match firstField? false text with
        | some (name, digits) =>
            match width? digits with
            | some bits => .field (String.ofList name) bits
            | none => .other
        | none => .other := by
  cases marked : hasFieldMarks text with
  | true =>
      have early : (startsComment text || !hasFieldMarks text) ↔ startsComment text := by
        rw [marked, Bool.not_true, Bool.or_false]
      exact if_congr early rfl rfl
  | false =>
      have missing : firstField? false text = none := by
        rw [firstField?_eq_none_iff]
        intro before name digits shape
        rw [shape.hasFieldMarks_eq_true] at marked
        cases marked
      rw [Line.ofMember, marked, Bool.not_false, Bool.or_true, if_pos rfl, missing, ite_self]

/-! ## What a line with a field says -/

/-- The marks that a comment starts with. -/
def commentMarks : List String :=
  ["/*", "*", "//"]

/-- Digits of ASCII that write the width of a field: a number from one on that a word holds. -/
structure WritesWidth (width : Nat) (digits : List Char) : Prop where
  plain : ∀ digit ∈ digits, digit.isDigit
  value_eq : Numeral.value 10 digits = width
  positive : 1 ≤ width
  small : width < 2 ^ 32

theorem FieldShape.digits_ne_nil
    (shape : FieldShape text before name digits) :
    digits ≠ [] := by
  cases shape with
  | intro _ _ _ digitRun _ => exact digitRun.nonempty

theorem width?_eq_some_iff_writesWidth
    {width : Nat}
    (nonempty : digits ≠ []) :
    width? digits = some width ↔ WritesWidth width digits := by
  rw [width?_eq_some_iff]
  constructor
  · rintro ⟨digitRun, valueEq, positive, small⟩
    refine ⟨?_, valueEq, positive, small⟩
    intro digit member
    exact Numeral.isDigit_ten_iff.mp (digitRun.accepted digit member)
  · rintro ⟨plain, valueEq, positive, small⟩
    refine ⟨⟨nonempty, ?_⟩, valueEq, positive, small⟩
    intro digit member
    exact Numeral.isDigit_ten_iff.mpr (plain digit member)

theorem width?_eq_none_iff_not_writesWidth
    (nonempty : digits ≠ []) :
    width? digits = none ↔ ∀ width, ¬ WritesWidth width digits := by
  rw [Option.eq_none_iff_forall_ne_some]
  exact forall_congr' fun width => not_congr (width?_eq_some_iff_writesWidth nonempty)

theorem startsComment_iff :
    startsComment text ↔ ∃ mark ∈ commentMarks, mark.toList <+: text := by
  constructor
  · intro starts
    unfold startsComment at starts
    split at starts
    · exact ⟨"/*", by decide, List.prefix_append ['/', '*'] _⟩
    · exact ⟨"//", by decide, List.prefix_append ['/', '/'] _⟩
    · exact ⟨"*", by decide, List.prefix_append ['*'] _⟩
    · cases starts
  · rintro ⟨mark, member, rest, rfl⟩
    simp only [commentMarks, List.mem_cons, List.not_mem_nil, or_false] at member
    rcases member with rfl | rfl | rfl
    · rfl
    · rfl
    · rfl

theorem Line.ofDefinition_ne_field
    {body : List Char}
    {fieldName : String}
    {width : Nat} :
    Line.ofDefinition name body ≠ .field fieldName width := by
  intro said
  rw [Line.ofDefinition] at said
  split at said
  · split at said
    · cases said
    · cases said
  · split at said
    · cases said
    · cases said

variable {line fieldName : String} {width : Nat}

/-- A line that starts as a definition is no field. -/
theorem ofText_ne_field_of_define
    (starts : defineMark <+: trimBlanks line.toList) :
    Line.ofText line ≠ .field fieldName width := by
  intro said
  rw [Line.ofText, if_pos (List.isPrefixOf_iff_prefix.mpr starts)] at said
  split at said
  · exact Line.ofDefinition_ne_field said
  · cases said

theorem ofText_eq_ofMember
    (noDefinition : ¬ defineMark <+: trimBlanks line.toList) :
    Line.ofText line = Line.ofMember (trimBlanks line.toList) := by
  rw [Line.ofText, if_neg (mt List.isPrefixOf_iff_prefix.mp noDefinition)]

/-- Where no definition starts, a line is a field exactly if its leftmost field has a width. -/
theorem ofMember_eq_field_iff :
    Line.ofMember text = .field fieldName width ↔
      ¬ startsComment text ∧
        ∃ before digits,
          LeftmostField text before fieldName.toList digits ∧ WritesWidth width digits := by
  rw [Line.ofMember_eq]
  constructor
  · intro said
    split at said
    · cases said
    · next noComment =>
        refine ⟨noComment, ?_⟩
        split at said
        · next name digits taken =>
            rcases firstField?_eq_some_iff.mp taken with ⟨before, leftmost⟩
            split at said
            · next bits written =>
                cases said
                rw [String.toList_ofList]
                have nonempty := leftmost.shape.digits_ne_nil
                exact
                  ⟨before, digits, leftmost, (width?_eq_some_iff_writesWidth nonempty).mp written⟩
            · cases said
        · cases said
  · rintro ⟨noComment, before, digits, leftmost, writes⟩
    have taken := firstField?_eq_some_iff.mpr ⟨before, leftmost⟩
    have written := (width?_eq_some_iff_writesWidth leftmost.shape.digits_ne_nil).mpr writes
    simp only [if_neg noComment, taken, written, String.ofList_toList]

/-- The leftmost field without a width makes the line say nothing, whatever follows it. -/
theorem ofMember_eq_other_of_leftmost
    (leftmost : LeftmostField text before name digits)
    (noWidth : ∀ width, ¬ WritesWidth width digits) :
    Line.ofMember text = .other := by
  have taken := firstField?_eq_some_iff.mpr ⟨before, leftmost⟩
  have unwritten :=
    (width?_eq_none_iff_not_writesWidth leftmost.shape.digits_ne_nil).mpr noWidth
  rw [Line.ofMember_eq]
  simp only [taken, unwritten, ite_self]

/--
A line is a field exactly if it starts neither a definition nor a comment and the leftmost way to
read it as a field has a width, and then the field is the one read so.  Where the leftmost way has
no width the line says nothing, unless it starts a definition, even if it can be read as a field
with a width further to the right.  The leftmost way is one and its name is a whole word, and
whatever can be read as a field passes the test for a colon and a semicolon.
-/
theorem field_line_decided_by_leftmost
    (line : String) :
    let text := trimBlanks line.toList
    (∀ name width,
      Line.ofText line = .field name width ↔
        (∀ mark ∈ "#define" :: commentMarks, ¬ mark.toList <+: text) ∧
          ∃ before digits,
            LeftmostField text before name.toList digits ∧ WritesWidth width digits) ∧
      (∀ before name digits,
        LeftmostField text before name digits →
          WholeWord text before name ∧
            (¬ "#define".toList <+: text →
              (∀ width, ¬ WritesWidth width digits) →
                Line.ofText line = .other)) ∧
        ∀ before name digits,
          FieldShape text before name digits →
            hasFieldMarks text ∧
              ∃! leftmost : List Char × List Char × List Char,
                LeftmostField text leftmost.1 leftmost.2.1 leftmost.2.2 := by
  intro text
  refine ⟨?_, ?_, ?_⟩
  · intro name width
    rw [List.forall_mem_cons]
    by_cases starts : defineMark <+: text
    · constructor
      · intro said
        exact absurd said (ofText_ne_field_of_define starts)
      · rintro ⟨⟨noDefinition, -⟩, -⟩
        exact absurd starts noDefinition
    · have noComment :
          ¬ startsComment text ↔ ∀ mark ∈ commentMarks, ¬ mark.toList <+: text := by
        rw [startsComment_iff]
        simp only [not_exists, not_and]
      rw [ofText_eq_ofMember starts, ofMember_eq_field_iff, noComment]
      exact and_congr_left fun _ => (and_iff_right starts).symm
  · intro before name digits leftmost
    refine ⟨leftmost.wholeWord, ?_⟩
    intro noDefinition noWidth
    rw [ofText_eq_ofMember noDefinition]
    exact ofMember_eq_other_of_leftmost leftmost noWidth
  · intro before name digits shape
    refine ⟨shape.hasFieldMarks_eq_true, ?_⟩
    rcases shape.exists_leftmost with ⟨leftBefore, leftName, leftDigits, leftmost⟩
    refine ⟨(leftBefore, leftName, leftDigits), leftmost, ?_⟩
    rintro ⟨otherBefore, otherName, otherDigits⟩ other
    rcases other.unique leftmost with ⟨rfl, rfl, rfl⟩
    rfl

theorem not_writesWidth_zero :
    ∀ width, ¬ WritesWidth width ['0'] := by
  rw [← width?_eq_none_iff_not_writesWidth (List.cons_ne_nil _ _)]
  decide

/-- A line with a field of no width says nothing, although there is a field with a width in it. -/
theorem second_field_not_read :
    (∃ before digits,
      FieldShape (trimBlanks "  u32 z : 0; u32 y : 4;".toList) before ['y'] digits ∧
        WritesWidth 4 digits) ∧
      Line.ofText "  u32 z : 0; u32 y : 4;" = .other ∧
        Line.ofText "default: u32 y : 4; /* 1:0; */" = .field "y" 4 := by
  have four : WritesWidth 4 ['4'] :=
    ⟨List.forall_mem_singleton.mpr (by decide), by decide, by decide, by decide⟩
  have nameRun : IsRun isWordCharacter ['y'] := by decide +kernel
  have declared : widthDigits? " : 4;".toList = some ['4'] := by decide +kernel
  have split :
      trimBlanks "  u32 z : 0; u32 y : 4;".toList =
        "u32 z : 0; u32 ".toList ++ (['y'] ++ " : 4;".toList) := by
    decide +kernel
  refine ⟨⟨_, _, fieldShape_iff.mpr ⟨_, nameRun, declared, split⟩, four⟩, ?_, ?_⟩
  · have found :
        firstField? false (trimBlanks "  u32 z : 0; u32 y : 4;".toList) = some (['z'], ['0']) := by
      decide +kernel
    rcases firstField?_eq_some_iff.mp found with ⟨before, leftmost⟩
    exact
      ((field_line_decided_by_leftmost "  u32 z : 0; u32 y : 4;").2.1 before ['z'] ['0']
        leftmost).2 (by decide +kernel) not_writesWidth_zero
  · have found :
        firstField? false (trimBlanks "default: u32 y : 4; /* 1:0; */".toList) =
          some (['y'], ['4']) := by
      decide +kernel
    rcases firstField?_eq_some_iff.mp found with ⟨before, leftmost⟩
    exact
      ((field_line_decided_by_leftmost "default: u32 y : 4; /* 1:0; */").1 "y" 4).mpr
        ⟨by decide +kernel, before, ['4'], leftmost, four⟩

/-- A line that starts a definition is one, although its leftmost field has no width. -/
theorem definition_kept_before_field_without_width :
    (∃ before,
      LeftmostField (trimBlanks "#define CONTROL 0x48 // mode : 0;".toList) before "mode".toList
        ['0']) ∧
      (∀ width, ¬ WritesWidth width ['0']) ∧
        Line.ofText "#define CONTROL 0x48 // mode : 0;" = .constant "CONTROL" 0x48 := by
  refine ⟨firstField?_eq_some_iff.mp ?_, not_writesWidth_zero, ?_⟩
  · decide +kernel
  · decide +kernel

end RegisterTrace.Header
