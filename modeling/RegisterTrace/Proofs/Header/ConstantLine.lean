import RegisterTrace.Proofs.Header.OffsetLine

/-!
# Constant lines

A line that defines a name as a hexadecimal literal names a constant, if no word character follows
the literal and a word holds its number.
-/

namespace RegisterTrace.Header

variable {text name body digits : List Char}

/-- The digits of a literal must not be followed by anything that could be part of a name. -/
theorem constantBody?_eq_some_iff :
    constantBody? text = some digits ↔
      ∃ mark ∈ hexMarks, ∃ rest,
        IsRun (Numeral.isDigit 16) digits ∧
          StopsAt isWordCharacter rest ∧ text = mark ++ (digits ++ rest) := by
  rw [constantBody?]
  simp only [Option.bind_eq_bind, Option.bind_eq_some_iff, Prod.exists, hexLiteral?_eq_some_iff]
  constructor
  · rintro ⟨found, rest, ⟨mark, marked, run, -, split⟩, taken⟩
    split at taken
    · cases taken
    · next ends =>
        cases taken
        refine ⟨mark, marked, rest, run, ?_, split⟩
        intro character first
        rw [first, Option.any_some, Bool.not_eq_true] at ends
        exact ends
  · rintro ⟨mark, marked, rest, run, stops, split⟩
    have stopsDigits : StopsAt (Numeral.isDigit 16) rest := by
      intro character first
      rw [← Bool.not_eq_true]
      intro digit
      have word := isWordCharacter_of_isDigit digit
      rw [stops character first] at word
      cases word
    refine ⟨digits, rest, ⟨mark, marked, run, stopsDigits, split⟩, ?_⟩
    cases first : rest.head? with
    | none => rfl
    | some character =>
        rw [Option.any_some, stops character first]
        rfl

/-- What stands for a constant has no parenthesis in front. -/
theorem offsetBody?_eq_none_of_constantBody?
    (read : constantBody? body = some digits) :
    offsetBody? body = none := by
  rcases constantBody?_eq_some_iff.mp read with ⟨mark, marked, rest, -, -, rfl⟩
  simp only [hexMarks, List.mem_cons, List.not_mem_nil, or_false] at marked
  rcases marked with rfl | rfl
  · rfl
  · rfl

/-- A line that defines a name as a literal names a constant if a word holds the number. -/
theorem ofText_of_constantBody?
    {line : String}
    (defined : definition? (trimBlanks line.toList) = some (name, body))
    (read : constantBody? body = some digits) :
    Line.ofText line =
      match Word.ofNat? (Numeral.value 16 digits) with
      | some value => .constant (String.ofList name) value
      | none => .other := by
  rcases constantBody?_eq_some_iff.mp read with ⟨-, -, -, run, -⟩
  rw [Line.ofText]
  simp only [if_pos (isPrefixOf_of_definition? defined), defined]
  rw [Line.ofDefinition]
  have noOffset := offsetBody?_eq_none_of_constantBody? read
  have literal := literalWord?_of_isRun run
  cases held : Word.ofNat? (Numeral.value 16 digits) with
  | none => simp only [noOffset, read, Option.bind_some, literal, held]
  | some value => simp only [noOffset, read, Option.bind_some, literal, held]

end RegisterTrace.Header
