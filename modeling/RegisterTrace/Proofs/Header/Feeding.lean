import RegisterTrace.Proofs.Header.Offsets
import RegisterTrace.Proofs.History

/-!
# Lines that are refused

A builder can be fed further lines after one that it refused, so it may have come about by any mix
of good and bad lines.  Whatever they were, the current register is in the map, and a line is
refused for what the lines before it did or did not say: a field needs a line that opened a
register, and a register needs a constant and an address that a word holds.  A line that is refused
is counted and changes nothing else.
-/

namespace RegisterTrace.Header

/-! ## What lines say about a further line -/

/-- One of some lines that were fed to a builder says where a register is, and was accepted. -/
def OpensSome (lines : List String) : Prop :=
  ∃ before line after,
    lines = before ++ line :: after ∧
      (∃ name base distance, Line.ofText line = .offset name base distance) ∧
        ((fed before).addLine line).result = .ok ()

/-- Why a line is faulty after some others, which may have been faulty themselves. -/
inductive Faulty (before : List String) (line : String) : Error → Prop where
  | field
      {name : String}
      {width : Nat}
      (said : Line.ofText line = .field name width)
      (nowhere : ¬ OpensSome before) :
      Faulty before line (.fieldWithoutRegister (before.length + 1))
  | unknownBase
      {name base : String}
      {distance : Word}
      (said : Line.ofText line = .offset name base distance)
      (unknown : ∀ other ∈ before, ∀ value, Line.ofText other ≠ .constant base value) :
      Faulty before line (.unknownBase base (before.length + 1))
  | overflow
      {name base : String}
      {distance value : Word}
      (said : Line.ofText line = .offset name base distance)
      (known : constantValue? base before = some value)
      (large : Word.count ≤ value.toNat + distance.toNat) :
      Faulty before line (.addressOverflow name (before.length + 1))

/-- A constant has no value exactly if no line names it. -/
theorem constantValue?_eq_none_iff
    {name : String}
    {lines : List String} :
    constantValue? name lines = none ↔
      ∀ line ∈ lines, ∀ value, Line.ofText line ≠ .constant name value := by
  rw [constantValue?, List.findSome?_eq_none_iff]
  simp only [List.mem_reverse]
  refine forall_congr' fun line => forall_congr' fun _ => ?_
  cases Line.ofText line with
  | constant named value => simp [Line.constant?, eq_comm]
  | offset named base distance => simp [Line.constant?]
  | field named width => simp [Line.constant?]
  | other => simp [Line.constant?]

theorem not_opensSome_nil : ¬ OpensSome [] := by
  rintro ⟨before, line, after, split, -⟩
  simp at split

/-- A register was opened by the last line, or before it. -/
theorem opensSome_concat_iff
    {lines : List String}
    {line : String} :
    OpensSome (lines ++ [line]) ↔
      OpensSome lines ∨
        ((∃ name base distance, Line.ofText line = .offset name base distance) ∧
          ((fed lines).addLine line).result = .ok ()) := by
  constructor
  · rintro ⟨before, opener, after, split, said, accepted⟩
    rcases append_singleton_eq_append_cons_iff.mp split with ⟨rfl, rfl, -⟩ | ⟨most, -, front⟩
    · exact .inr ⟨said, accepted⟩
    · exact .inl ⟨before, opener, most, front, said, accepted⟩
  · rintro (⟨before, opener, after, rfl, said, accepted⟩ | ⟨said, accepted⟩)
    · exact ⟨before, opener, after ++ [line], by simp, said, accepted⟩
    · exact ⟨lines, line, [], rfl, said, accepted⟩

/-! ## The current register -/

/-- The current register, if there is one, is in the map. -/
def Builder.CurrentPresent (builder : Builder) : Prop :=
  ∀ address, builder.current = some address → (builder.registers.get? address).isSome

theorem Builder.Takes.currentPresent
    {builder next : Builder}
    {line : Line}
    (takes : builder.Takes line next)
    (present : builder.CurrentPresent) :
    next.CurrentPresent := by
  cases takes with
  | constant name value => exact present
  | offset known fits =>
      intro address isCurrent
      rw [openRegister, RegisterMap.get?_insert, if_pos (Option.some.inj isCurrent)]
      rfl
  | field current =>
      intro address isCurrent
      rw [RegisterMap.get?_addField, Option.isSome_map]
      exact present address isCurrent
  | other => exact present

/-- In every builder that was fed lines the current register is in the map. -/
theorem currentPresent_fed
    (lines : List String) :
    (fed lines).CurrentPresent := by
  induction lines using List.reverseRecOn with
  | nil => exact nofun
  | append_singleton lines line inductionHypothesis =>
      rw [fed_concat]
      rcases (fed lines).takes_or_refuses line with ⟨takes, -⟩ | ⟨error, -, -, same⟩
      · exact takes.currentPresent inductionHypothesis
      · rw [same]
        exact inductionHypothesis

theorem Builder.CurrentPresent.currentRegister?_eq
    {builder : Builder}
    (present : builder.CurrentPresent) :
    builder.currentRegister? = builder.current := by
  rw [currentRegister?]
  cases current : builder.current with
  | none => rfl
  | some address => rw [Option.filter_some, present address current, if_pos rfl]

/-- There is a current register after a line if there was one or the line opened one. -/
theorem Builder.Takes.current_isSome_iff
    {builder next : Builder}
    {line : Line}
    (takes : builder.Takes line next) :
    next.current.isSome ↔
      builder.current.isSome ∨ ∃ name base distance, line = .offset name base distance := by
  cases takes with
  | constant name value => simp [define]
  | offset known fits => simp [openRegister]
  | field current => simp
  | other => simp

/-- A builder that was fed lines has a current register exactly if one of them opened one. -/
theorem current_fed_isSome_iff
    (lines : List String) :
    (fed lines).current.isSome ↔ OpensSome lines := by
  induction lines using List.reverseRecOn with
  | nil => exact iff_of_false Bool.false_ne_true not_opensSome_nil
  | append_singleton lines line inductionHypothesis =>
      rw [fed_concat, opensSome_concat_iff, ← inductionHypothesis]
      rcases (fed lines).takes_or_refuses line with
        ⟨takes, accepted⟩ | ⟨error, -, refused, same⟩
      · rw [takes.current_isSome_iff, accepted]
        simp [Builder.countLine]
      · rw [same, refused]
        simp [Builder.countLine]

/-! ## Refusals -/

/-- A builder that was fed lines refuses a further one exactly if it is faulty after them. -/
theorem refuses_iff_faulty
    {before : List String}
    {line : String}
    {error : Error} :
    (fed before).countLine.Refuses (Line.ofText line) error ↔ Faulty before line error := by
  have counted : (fed before).countLine.lineCount = before.length + 1 := by
    rw [Builder.countLine, lineCount_fed]
  have constants (base : String) :
      (fed before).countLine.constants.lookup base = constantValue? base before :=
    lookup_constants_fed before base
  have nowhere : (fed before).countLine.currentRegister? = none ↔ ¬ OpensSome before := by
    have present : (fed before).countLine.CurrentPresent := currentPresent_fed before
    rw [present.currentRegister?_eq, ← current_fed_isSome_iff, Option.not_isSome_iff_eq_none]
    rfl
  constructor
  · intro refuses
    generalize said : Line.ofText line = what at refuses
    cases refuses with
    | field none =>
        rw [counted]
        exact .field said (nowhere.mp none)
    | unknownBase unknown =>
        rw [counted]
        rw [constants, constantValue?_eq_none_iff] at unknown
        exact .unknownBase said unknown
    | overflow known large =>
        rw [counted]
        rw [constants] at known
        exact .overflow said known (Word.add?_eq_none_iff.mp large)
  · intro faulty
    cases faulty with
    | field said none =>
        rw [said, ← counted]
        exact .field (nowhere.mpr none)
    | unknownBase said unknown =>
        rw [said, ← counted]
        rw [← constantValue?_eq_none_iff, ← constants] at unknown
        exact .unknownBase unknown
    | overflow said known large =>
        rw [said, ← counted]
        rw [← constants] at known
        exact .overflow known (Word.add?_eq_none_iff.mpr large)

/--
After any lines, refused ones among them, a further line is refused exactly if it is faulty after
them: it is a field and no line opened a register, or it is a register at an offset from a constant
that no line named, or from one that is too far away.  The refusal names the number of lines fed so
far, this one included, and only the count of lines changes.  The current register is always in the
map.
-/
theorem refused_iff_faulty_after_any_lines
    (before : List String)
    (line : String) :
    let builder := fed before
    let outcome := builder.addLine line
    (∀ error, outcome.result = .error error ↔ Faulty before line error) ∧
      (∀ error,
        outcome.result = .error error →
          outcome.state = { builder with lineCount := before.length + 1 }) ∧
        ∀ address,
          builder.current = some address →
            ∃ register, builder.registers.get? address = some register := by
  intro builder outcome
  refine ⟨?_, ?_, ?_⟩
  · intro error
    rw [Builder.addLine_refused_iff]
    exact refuses_iff_faulty
  · intro error refused
    rcases builder.takes_or_refuses line with ⟨-, accepted⟩ | ⟨other, -, -, same⟩
    · rw [show outcome.result = .ok () from accepted] at refused
      cases refused
    · rw [← lineCount_fed before]
      exact same
  · intro address current
    exact Option.isSome_iff_exists.mp (currentPresent_fed before address current)

/--
A field that comes too early, a constant, and registers at an unknown base and too far from the
constant: after three refusals the constant is known, there is no current register and a field is
refused once more.
-/
theorem field_refused_after_refusals :
    let before :=
      ["u32 early : 1;", "#define BASE 0xFFFFFFF0", "#define A (MISSING + 0x4)",
        "#define B (BASE + 0x20)"]
    let outcome := (fed before).addLine "u32 late : 2;"
    outcome.result = .error (.fieldWithoutRegister 5) ∧
      outcome.state = { constants := [("BASE", 0xFFFFFFF0)], lineCount := 5 } := by
  intro before outcome
  rcases refused_iff_faulty_after_any_lines before "u32 late : 2;" with ⟨refused, unchanged, -⟩
  have start : fed before = { constants := [("BASE", 0xFFFFFFF0)], lineCount := 4 } := by
    decide +kernel
  have said : Line.ofText "u32 late : 2;" = .field "late" 2 := by decide +kernel
  have nowhere : ¬ OpensSome before := by
    rw [← current_fed_isSome_iff, start]
    exact Bool.false_ne_true
  have late := (refused _).mpr (.field said nowhere)
  refine ⟨late, (unchanged _ late).trans ?_⟩
  rw [start]
  rfl

end RegisterTrace.Header
