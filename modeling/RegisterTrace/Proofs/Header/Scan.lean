import RegisterTrace.Header.Line
import RegisterTrace.Proofs.Numeral

/-!
# Scanning a line

The scanners of a header line take the longest run of some characters, a fixed text, or blanks.
What each of them takes is said here without the scanner: the text is a concatenation, and what
follows a run cannot go on with it.  Blanks, word characters and the marks between them exclude one
another, so such a concatenation can be read in one way only.
-/

namespace RegisterTrace

/-! ## Characters that exclude one another -/

/-- Whether each stretch of one table ends before each of another one or starts after it. -/
def CharacterRanges.apart (left right : CharacterRanges) : Bool :=
  left.all fun first =>
    right.all fun second => Nat.blt first.2 second.1 || Nat.blt second.2 first.1

theorem CharacterRanges.contains_iff
    {ranges : CharacterRanges}
    {character : Char} :
    ranges.contains character ↔
      ∃ range ∈ ranges, range.1 ≤ character.toNat ∧ character.toNat ≤ range.2 := by
  simp only [contains, List.any_eq_true, Bool.and_eq_true, decide_eq_true_eq]

theorem CharacterRanges.not_contains_of_apart
    {left right : CharacterRanges}
    (separate : apart left right)
    {character : Char}
    (inLeft : left.contains character) :
    right.contains character = false := by
  rw [← Bool.not_eq_true, contains_iff]
  rintro ⟨second, secondMember, fromSecond, toSecond⟩
  rcases contains_iff.mp inLeft with ⟨first, firstMember, fromFirst, toFirst⟩
  have separated := List.all_eq_true.mp (List.all_eq_true.mp separate first firstMember) second
    secondMember
  simp only [Bool.or_eq_true, Nat.blt_eq] at separated
  omega

/-- The letters and digits of ASCII and the underscore. -/
def plainWordRanges : CharacterRanges :=
  [(0x30, 0x39), (0x41, 0x5A), (0x5F, 0x5F), (0x61, 0x7A)]

theorem isAlphanum_iff
    {character : Char} :
    character.isAlphanum ↔
      (0x30 ≤ character.toNat ∧ character.toNat ≤ 0x39) ∨
        (0x41 ≤ character.toNat ∧ character.toNat ≤ 0x5A) ∨
          (0x61 ≤ character.toNat ∧ character.toNat ≤ 0x7A) := by
  delta Char.isAlphanum Char.isAlpha Char.isUpper Char.isLower Char.isDigit
  simp only [ge_iff_le, UInt32.le_iff_toNat_le, Char.toNat_val, Char.reduceToNat, Bool.or_eq_true,
    Bool.and_eq_true, decide_eq_true_eq]
  omega

theorem contains_plainWordRanges_iff
    {character : Char} :
    plainWordRanges.contains character ↔ character.isAlphanum ∨ character = '_' := by
  have underscore : character = '_' ↔ character.toNat = 0x5F := Char.toNat_inj.symm
  rw [underscore, isAlphanum_iff]
  simp only [plainWordRanges, CharacterRanges.contains, List.any_cons, List.any_nil,
    Bool.or_eq_true, Bool.and_eq_true, decide_eq_true_eq, Bool.or_false]
  omega

/-- No blank is a word character. -/
theorem isWordCharacter_of_isBlank
    {character : Char}
    (blank : isBlank character) :
    isWordCharacter character = false := by
  have plain : blankRanges.apart plainWordRanges := by decide
  have other : blankRanges.apart wordCharacterRanges := by decide +kernel
  have notPlain := CharacterRanges.not_contains_of_apart plain blank
  have notOther := CharacterRanges.not_contains_of_apart other blank
  rw [← Bool.not_eq_true, contains_plainWordRanges_iff, not_or] at notPlain
  simp only [isWordCharacter, notOther, Bool.eq_false_iff.mpr notPlain.1,
    beq_false_of_ne notPlain.2, Bool.or_false]

theorem isWordCharacter_of_isDigit
    {character : Char}
    (digit : Numeral.isDigit 16 character) :
    isWordCharacter character := by
  have plain : character.isAlphanum := by
    rw [Numeral.isDigit_sixteen_iff, Numeral.IsHexDigit] at digit
    simp only [UInt32.le_iff_toNat_le, Char.toNat_val, Char.reduceToNat, Char.le_def] at digit
    rw [isAlphanum_iff]
    omega
  rw [isWordCharacter, plain]
  rfl

/-- No blank is a hexadecimal digit. -/
theorem isDigit_of_isBlank
    {character : Char}
    (blank : isBlank character) :
    Numeral.isDigit 16 character = false := by
  rw [← Bool.not_eq_true]
  intro digit
  have word := isWordCharacter_of_isDigit digit
  rw [isWordCharacter_of_isBlank blank] at word
  cases word

namespace Header

/-! ## Runs -/

/-- A non-empty text of accepted characters. -/
structure IsRun (accepts : Char → Bool) (part : List Char) : Prop where
  nonempty : part ≠ []
  accepted : ∀ character ∈ part, accepts character

/-- A text that does not start with an accepted character. -/
def StopsAt (accepts : Char → Bool) (rest : List Char) : Prop :=
  ∀ character, rest.head? = some character → accepts character = false

/-- A text of blanks, possibly empty. -/
def Blanks (gap : List Char) : Prop :=
  ∀ character ∈ gap, isBlank character

/-- A text without blanks. -/
def NoBlanks (text : List Char) : Prop :=
  ∀ character ∈ text, isBlank character = false

variable
    {accepts : Char → Bool}
    {text part rest gap : List Char}

instance : Decidable (IsRun accepts part) :=
  decidable_of_iff (part ≠ [] ∧ part.all accepts)
    ⟨fun run => ⟨run.1, List.all_eq_true.mp run.2⟩,
      fun run => ⟨run.nonempty, List.all_eq_true.mpr run.accepted⟩⟩

instance : Decidable (Blanks gap) :=
  List.decidableBAll (fun character => isBlank character = true) gap

instance : Decidable (NoBlanks text) :=
  List.decidableBAll (fun character => isBlank character = false) text

theorem stopsAt_cons_iff
    {character : Char} :
    StopsAt accepts (character :: rest) ↔ accepts character = false := by
  simp [StopsAt]

theorem stopsAt_dropWhile
    (accepts : Char → Bool)
    (text : List Char) :
    StopsAt accepts (text.dropWhile accepts) := by
  intro character first
  have head := List.head?_dropWhile_not accepts text
  rw [first] at head
  exact head

/-- What a text that starts with a run does not start with. -/
theorem IsRun.stopsAt
    (run : IsRun accepts part)
    {other : Char → Bool}
    (excludes : ∀ character, accepts character → other character = false)
    (rest : List Char) :
    StopsAt other (part ++ rest) := by
  cases part with
  | nil => exact absurd rfl run.nonempty
  | cons first more =>
      rw [List.cons_append, stopsAt_cons_iff]
      exact excludes first (run.accepted first List.mem_cons_self)

theorem IsRun.reverse
    (run : IsRun accepts part) :
    IsRun accepts part.reverse where
  nonempty := List.reverse_ne_nil_iff.mpr run.nonempty
  accepted := by
    intro character member
    exact run.accepted character (List.mem_reverse.mp member)

/-- Blanks in front do not start what no blank starts. -/
theorem Blanks.stopsAt
    (blanks : Blanks gap)
    (excludes : ∀ character, isBlank character → accepts character = false)
    (stops : StopsAt accepts rest) :
    StopsAt accepts (gap ++ rest) := by
  cases gap with
  | nil => exact stops
  | cons first more =>
      rw [List.cons_append, stopsAt_cons_iff]
      exact excludes first (blanks first List.mem_cons_self)

theorem NoBlanks.stopsAt
    (noBlanks : NoBlanks text) :
    StopsAt isBlank text := by
  intro character first
  exact noBlanks character (List.mem_of_mem_head? first)

theorem NoBlanks.reverse
    (noBlanks : NoBlanks text) :
    NoBlanks text.reverse := by
  intro character member
  exact noBlanks character (List.mem_reverse.mp member)

theorem takeWhile_append_of_stopsAt
    (accepted : ∀ character ∈ part, accepts character)
    (stops : StopsAt accepts rest) :
    (part ++ rest).takeWhile accepts = part := by
  rw [List.takeWhile_append_of_pos accepted]
  cases rest with
  | nil => simp
  | cons first more => simp [stopsAt_cons_iff.mp stops]

theorem dropWhile_append_of_stopsAt
    (accepted : ∀ character ∈ part, accepts character)
    (stops : StopsAt accepts rest) :
    (part ++ rest).dropWhile accepts = rest := by
  rw [List.dropWhile_append_of_pos accepted]
  cases rest with
  | nil => rfl
  | cons first more => simp [stopsAt_cons_iff.mp stops]

/-! ## Scanners -/

theorem run?_eq_some_iff :
    run? accepts text = some (part, rest) ↔
      IsRun accepts part ∧ StopsAt accepts rest ∧ text = part ++ rest := by
  constructor
  · intro taken
    rw [run?] at taken
    split at taken
    · cases taken
    · next first more found =>
        cases taken
        refine ⟨⟨List.cons_ne_nil _ _, ?_⟩, stopsAt_dropWhile accepts text, ?_⟩
        · intro character member
          rw [← found] at member
          exact List.all_eq_true.mp List.all_takeWhile character member
        · rw [← found, List.takeWhile_append_dropWhile]
  · rintro ⟨run, stops, rfl⟩
    rw [run?, takeWhile_append_of_stopsAt run.accepted stops,
      dropWhile_append_of_stopsAt run.accepted stops]
    cases part with
    | nil => exact absurd rfl run.nonempty
    | cons first more => rfl

/-- A text that starts with an accepted character starts with a run. -/
theorem exists_run_of_accepts
    {first : Char}
    (accepted : accepts first)
    (more : List Char) :
    ∃ part rest, IsRun accepts part ∧ StopsAt accepts rest ∧ first :: more = part ++ rest := by
  have taken :
      run? accepts (first :: more) =
        some (first :: more.takeWhile accepts, more.dropWhile accepts) := by
    rw [run?, List.takeWhile_cons_of_pos accepted, List.dropWhile_cons_of_pos accepted]
  exact ⟨_, _, run?_eq_some_iff.mp taken⟩

/-- A text starts with a run in one way. -/
theorem IsRun.append_inj
    {otherPart otherRest : List Char}
    (run : IsRun accepts part)
    (stops : StopsAt accepts rest)
    (otherRun : IsRun accepts otherPart)
    (otherStops : StopsAt accepts otherRest)
    (same : part ++ rest = otherPart ++ otherRest) :
    part = otherPart ∧ rest = otherRest := by
  have taken := run?_eq_some_iff.mpr ⟨run, stops, rfl⟩
  rw [same, run?_eq_some_iff.mpr ⟨otherRun, otherStops, rfl⟩, Option.some.injEq,
    Prod.mk.injEq] at taken
  exact ⟨taken.1.symm, taken.2.symm⟩

theorem after?_eq_some_iff
    {expected : List Char} :
    after? expected text = some rest ↔ text = expected ++ rest := by
  induction expected generalizing text with
  | nil =>
      rw [after?, List.nil_append, Option.some.injEq]
  | cons first more inductionHypothesis =>
      cases text with
      | nil => simp [after?]
      | cons character others =>
          rw [after?]
          by_cases same : character = first
          · simp [same, inductionHypothesis]
          · simp [same]

/-- Dropping blanks leaves the rest of a text behind blanks, if no blank starts that rest. -/
theorem dropBlanks_eq_iff
    (stops : StopsAt isBlank rest) :
    dropBlanks text = rest ↔ ∃ gap, Blanks gap ∧ text = gap ++ rest := by
  constructor
  · rintro rfl
    refine ⟨text.takeWhile isBlank, ?_, ?_⟩
    · intro character member
      exact List.all_eq_true.mp List.all_takeWhile character member
    · rw [dropBlanks, List.takeWhile_append_dropWhile]
  · rintro ⟨gap, blanks, rfl⟩
    exact dropWhile_append_of_stopsAt blanks stops

theorem afterBlanks?_eq_some_iff :
    afterBlanks? text = some rest ↔
      ∃ gap, IsRun isBlank gap ∧ StopsAt isBlank rest ∧ text = gap ++ rest := by
  rw [afterBlanks?, Option.map_eq_some_iff]
  constructor
  · rintro ⟨⟨gap, left⟩, taken, rfl⟩
    exact ⟨gap, run?_eq_some_iff.mp taken⟩
  · rintro ⟨gap, taken⟩
    exact ⟨(gap, rest), run?_eq_some_iff.mpr taken, rfl⟩

/-! ## Trimming -/

/-- Nothing is dropped from a text that no blank starts. -/
theorem dropBlanks_eq_self
    (stops : StopsAt isBlank text) :
    dropBlanks text = text :=
  (dropBlanks_eq_iff stops).mpr ⟨[], nofun, rfl⟩

/-- A text that has no blank at its ends is trimmed. -/
theorem trimBlanks_eq_self
    (starts : StopsAt isBlank text)
    (ends : StopsAt isBlank text.reverse) :
    trimBlanks text = text := by
  rw [trimBlanks, dropBlanks_eq_self starts, dropBlanks_eq_self ends, List.reverse_reverse]

theorem Blanks.dropBlanks_append
    (blanks : Blanks gap)
    (text : List Char) :
    dropBlanks (gap ++ text) = dropBlanks text :=
  List.dropWhile_append_of_pos blanks

theorem Blanks.trimBlanks_append_left
    (blanks : Blanks gap)
    (text : List Char) :
    trimBlanks (gap ++ text) = trimBlanks text := by
  rw [trimBlanks, trimBlanks, blanks.dropBlanks_append]

theorem Blanks.trimBlanks_append_right
    (blanks : Blanks gap)
    (text : List Char) :
    trimBlanks (text ++ gap) = trimBlanks text := by
  have blanksReversed : Blanks gap.reverse := by
    intro character member
    exact blanks character (List.mem_reverse.mp member)
  have behind :
      dropBlanks (text ++ gap) =
        if (dropBlanks text).isEmpty then dropBlanks gap else dropBlanks text ++ gap :=
    List.dropWhile_append
  have allDropped : dropBlanks gap = [] := by
    have dropped := blanks.dropBlanks_append []
    rw [List.append_nil] at dropped
    exact dropped
  rw [trimBlanks, trimBlanks, behind, allDropped]
  cases dropBlanks text with
  | nil => rfl
  | cons first more =>
      rw [List.isEmpty_cons, if_neg Bool.false_ne_true, List.reverse_append,
        blanksReversed.dropBlanks_append]

/-- Trimming takes nothing but blanks off the ends of a text. -/
theorem exists_eq_append_trimBlanks
    (text : List Char) :
    ∃ before after, Blanks before ∧ Blanks after ∧ text = before ++ (trimBlanks text ++ after) := by
  have split (text : List Char) : ∃ gap, Blanks gap ∧ text = gap ++ dropBlanks text :=
    (dropBlanks_eq_iff (stopsAt_dropWhile isBlank text)).mp rfl
  rcases split text with ⟨before, blanksBefore, front⟩
  rcases split (dropBlanks text).reverse with ⟨after, blanksAfter, back⟩
  refine ⟨before, after.reverse, blanksBefore, ?_, ?_⟩
  · intro character member
    exact blanksAfter character (List.mem_reverse.mp member)
  · have whole : dropBlanks text = trimBlanks text ++ after.reverse := by
      rw [trimBlanks, ← List.reverse_append, ← back, List.reverse_reverse]
    rw [← whole]
    exact front

/-- Blanks around a text that has none are trimmed, and nothing else is. -/
theorem NoBlanks.trimBlanks_append_append
    {before after : List Char}
    (noBlanks : NoBlanks text)
    (blanksBefore : Blanks before)
    (blanksAfter : Blanks after) :
    trimBlanks (before ++ (text ++ after)) = text := by
  rw [blanksBefore.trimBlanks_append_left, blanksAfter.trimBlanks_append_right,
    trimBlanks_eq_self noBlanks.stopsAt noBlanks.reverse.stopsAt]

/-- What a text starts with is kept if it has no blanks. -/
theorem NoBlanks.exists_trimBlanks_append
    {front : List Char}
    (noBlanks : NoBlanks front)
    (nonempty : front ≠ [])
    (rest : List Char) :
    ∃ kept, trimBlanks (front ++ rest) = front ++ kept := by
  have starts : StopsAt isBlank (front ++ rest) := by
    cases front with
    | nil => exact absurd rfl nonempty
    | cons first more =>
        rw [List.cons_append, stopsAt_cons_iff]
        exact noBlanks first List.mem_cons_self
  have ends : dropBlanks front.reverse = front.reverse :=
    dropBlanks_eq_self noBlanks.reverse.stopsAt
  have dropped :
      dropBlanks (rest.reverse ++ front.reverse) =
        if (dropBlanks rest.reverse).isEmpty then dropBlanks front.reverse
        else dropBlanks rest.reverse ++ front.reverse :=
    List.dropWhile_append
  rw [trimBlanks, dropBlanks_eq_self starts, List.reverse_append, dropped, ends]
  split
  · exact ⟨[], by rw [List.reverse_reverse, List.append_nil]⟩
  · exact ⟨(dropBlanks rest.reverse).reverse, by rw [List.reverse_append, List.reverse_reverse]⟩

end Header

end RegisterTrace
