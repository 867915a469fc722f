import RegisterTrace.Proofs.Header.OffsetLine
import RegisterTrace.Proofs.Numeral

/-!
# Field lines

A field is a name, a colon, a width and a semicolon.  It is looked for word by word: where the first
word of a line is no field, the field is looked for behind that word.
-/

namespace RegisterTrace.Header

variable {text name digits gap rest : List Char}

/-! ## Widths -/

theorem isDecimalDigit_of_isDigit
    {character : Char}
    (digit : Numeral.isDigit 10 character) :
    isDecimalDigit character := by
  rw [isDecimalDigit, Numeral.isDigit_ten_iff.mp digit]
  rfl

/-- No blank is a decimal digit of any script. -/
theorem isDecimalDigit_of_isBlank
    {character : Char}
    (blank : isBlank character) :
    isDecimalDigit character = false := by
  have apart : blankRanges.apart decimalDigitRanges := by decide +kernel
  have noOther := CharacterRanges.not_contains_of_apart apart blank
  have noDigit : character.isDigit = false := by
    rw [← Bool.not_eq_true]
    intro digit
    have word := isWordCharacter_of_isBlank blank
    rw [isWordCharacter, Char.isAlphanum, digit, Bool.or_true] at word
    cases word
  rw [isDecimalDigit, noDigit, noOther]
  rfl

theorem isBlank_of_isDecimalDigit
    {character : Char}
    (digit : isDecimalDigit character) :
    isBlank character = false := by
  rw [← Bool.not_eq_true]
  intro blank
  rw [isDecimalDigit_of_isBlank blank] at digit
  cases digit

/-- The width stands between a colon and a semicolon. -/
theorem widthDigits?_eq_some_iff :
    widthDigits? text = some digits ↔
      ∃ beforeColon afterColon afterDigits rest,
        Blanks beforeColon ∧
          Blanks afterColon ∧
            IsRun isDecimalDigit digits ∧
              Blanks afterDigits ∧
                text =
                  beforeColon ++
                    ':' :: (afterColon ++ (digits ++ (afterDigits ++ ';' :: rest))) := by
  have colonNoBlank : isBlank ':' = false := by decide
  have semicolonNoBlank : isBlank ';' = false := by decide
  rw [widthDigits?]
  simp only [Option.bind_eq_bind, Option.bind_eq_some_iff, Option.pure_def, Option.some.injEq,
    Prod.exists, after?_dropBlanks_eq_some_iff colonNoBlank,
    after?_dropBlanks_eq_some_iff semicolonNoBlank,
    run?_dropBlanks_eq_some_iff fun _ => isBlank_of_isDecimalDigit]
  constructor
  · rintro ⟨_, ⟨beforeColon, blanksBeforeColon, rfl⟩, _, _,
      ⟨afterColon, blanksAfterColon, digitRun, -, rfl⟩, rest,
      ⟨afterDigits, blanksAfterDigits, rfl⟩, rfl⟩
    exact
      ⟨beforeColon, afterColon, afterDigits, rest, blanksBeforeColon, blanksAfterColon, digitRun,
        blanksAfterDigits, rfl⟩
  · rintro ⟨beforeColon, afterColon, afterDigits, rest, blanksBeforeColon, blanksAfterColon,
      digitRun, blanksAfterDigits, rfl⟩
    have stopsDigits : StopsAt isDecimalDigit (afterDigits ++ ';' :: rest) :=
      blanksAfterDigits.stopsAt (fun _ => isDecimalDigit_of_isBlank)
        (stopsAt_cons_iff.mpr (by decide))
    exact
      ⟨_, ⟨beforeColon, blanksBeforeColon, rfl⟩, _, _,
        ⟨afterColon, blanksAfterColon, digitRun, stopsDigits, rfl⟩, rest,
        ⟨afterDigits, blanksAfterDigits, rfl⟩, rfl⟩

/-- What a width starts with is no part of the name in front of it. -/
theorem stopsAt_of_widthDigits?
    (declared : widthDigits? text = some digits) :
    StopsAt isWordCharacter text := by
  rcases widthDigits?_eq_some_iff.mp declared with
    ⟨beforeColon, afterColon, afterDigits, rest, blanksBeforeColon, -, -, -, rfl⟩
  exact
    blanksBeforeColon.stopsAt (fun _ => isWordCharacter_of_isBlank)
      (stopsAt_cons_iff.mpr (by decide +kernel))

/-- What does not go on with a colon declares no width. -/
theorem widthDigits?_eq_none
    (blanks : Blanks gap)
    (stops : StopsAt isBlank rest)
    (noColon : StopsAt (· == ':') rest) :
    widthDigits? (gap ++ rest) = none := by
  have missing : after? [':'] rest = none := by
    cases rest with
    | nil => rfl
    | cons first more =>
        have differs : ¬ first = ':' := by
          simpa only [beq_eq_false_iff_ne] using stopsAt_cons_iff.mp noColon
        rw [after?, if_neg differs]
  rw [widthDigits?, blanks.dropBlanks_append, dropBlanks_eq_self stops, missing]
  rfl

/-! ## Fields -/

/-- A name is a field if a width follows it. -/
theorem fieldHere?_append
    (nameRun : IsRun isWordCharacter name)
    (stops : StopsAt isWordCharacter rest) :
    fieldHere? (name ++ rest) = (widthDigits? rest).map fun digits => (name, digits) := by
  rw [fieldHere?, name?, run?_eq_some_iff.mpr ⟨nameRun, stops, rfl⟩]
  simp only [Option.bind_eq_bind, Option.bind_some]
  cases widthDigits? rest with
  | none => rfl
  | some digits => rfl

/-- Inside a name no field is looked for. -/
theorem firstField?_inside
    (accepted : ∀ character ∈ name, isWordCharacter character)
    (stops : StopsAt isWordCharacter rest) :
    firstField? true (name ++ rest) = firstField? false rest := by
  induction name with
  | nil =>
      cases rest with
      | nil => rfl
      | cons first more =>
          have noWord := stopsAt_cons_iff.mp stops
          simp only [List.nil_append, firstField?, noWord, Bool.false_eq_true, if_false]
  | cons first more inductionHypothesis =>
      have word : isWordCharacter first := accepted first List.mem_cons_self
      have later := inductionHypothesis fun character member =>
        accepted character (List.mem_cons_of_mem first member)
      rw [List.cons_append, firstField?, if_pos word, if_pos rfl, later]

/-- Where a name starts there is a field, or the first field comes after the name. -/
theorem firstField?_append
    (nameRun : IsRun isWordCharacter name)
    (stops : StopsAt isWordCharacter rest) :
    firstField? false (name ++ rest) =
      ((widthDigits? rest).map fun digits => (name, digits)).or (firstField? false rest) := by
  have here := fieldHere?_append nameRun stops
  rcases nameRun with ⟨nonempty, accepted⟩
  cases name with
  | nil => exact absurd rfl nonempty
  | cons first more =>
      have word : isWordCharacter first := accepted first List.mem_cons_self
      have later := firstField?_inside
        (fun character member => accepted character (List.mem_cons_of_mem first member)) stops
      rw [List.cons_append] at here ⊢
      rw [firstField?, if_pos word, if_neg Bool.false_ne_true, here, later]
      cases widthDigits? rest with
      | none => rfl
      | some digits => rfl

theorem Blanks.firstField?_append
    (blanks : Blanks gap)
    (rest : List Char) :
    firstField? false (gap ++ rest) = firstField? false rest := by
  induction gap with
  | nil => rfl
  | cons first more inductionHypothesis =>
      have noWord := isWordCharacter_of_isBlank (blanks first List.mem_cons_self)
      rw [List.cons_append, firstField?, noWord, if_neg Bool.false_ne_true]
      exact inductionHypothesis fun character member =>
        blanks character (List.mem_cons_of_mem first member)

/-- A width is written by digits of ASCII and is a word other than zero. -/
theorem width?_eq_some_iff
    {width : Nat} :
    width? digits = some width ↔
      IsRun (Numeral.isDigit 10) digits ∧
        Numeral.value 10 digits = width ∧ 0 < width ∧ width < Word.count := by
  rw [width?, Option.filter_eq_some_iff, Numeral.read?_eq_some_iff, decide_eq_true_eq]
  constructor
  · rintro ⟨⟨nonempty, accepted, valueEq⟩, positive, small⟩
    exact ⟨⟨nonempty, List.all_eq_true.mp accepted⟩, valueEq, positive, small⟩
  · rintro ⟨digitRun, valueEq, positive, small⟩
    exact
      ⟨⟨digitRun.nonempty, List.all_eq_true.mpr digitRun.accepted, valueEq⟩, positive, small⟩

end RegisterTrace.Header
