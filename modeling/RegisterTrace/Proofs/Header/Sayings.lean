import RegisterTrace.Proofs.Header.FirstBadLine
import RegisterTrace.Proofs.Header.LineText

/-!
# What the lines of a text say

A builder takes from a line only what the line says, so the registers of a text are those of what
its lines say in order.  What says nothing is counted and does nothing else.  Put in between it
leaves the registers as they are, and moves the number of a line that is refused behind it by one.
-/

namespace RegisterTrace.Header

/-! ## Builders that take what a line says -/

/-- Takes what one line says. -/
def Builder.takeSaid (builder : Builder) (said : Line) : Outcome Builder Error Unit :=
  let counted := builder.countLine
  match counted.apply said with
  | .ok (next, log) => .accept next () log
  | .error error => .refuse counted error

/-- Takes what lines say, one after another. -/
def readSaid (builder : Builder) (said : List Line) : Outcome Builder Error Unit :=
  Outcome.run Builder.takeSaid builder said

/-- The registers that lines define by what they say, or why they are refused. -/
def registersOfSaid (said : List Line) : Except Error RegisterMap :=
  let outcome := readSaid {} said
  outcome.result.map fun _ => outcome.state.registers

theorem run_addLine_eq_readSaid
    (builder : Builder)
    (lines : List String) :
    Outcome.run Builder.addLine builder lines = readSaid builder (lines.map Line.ofText) :=
  (Outcome.run_map Builder.takeSaid Line.ofText builder lines).symm

variable
    {builder : Builder}
    {said before after : List Line}
    {error : Error}

/-- A line without a meaning is counted. -/
theorem readSaid_other
    (builder : Builder)
    (said : List Line) :
    readSaid builder (.other :: said) = readSaid builder.countLine said := by
  rw [readSaid, Outcome.run_cons]
  simp only [Builder.takeSaid, Builder.apply, Outcome.accept, Array.empty_append]
  rfl

/-! ## Line numbers -/

/-- The same error one line later. -/
def Error.later : Error → Error
  | fieldWithoutRegister line => fieldWithoutRegister (line + 1)
  | unknownBase base line => unknownBase base (line + 1)
  | addressOverflow name line => addressOverflow name (line + 1)
  | unreadable failure => unreadable failure

/-- An outcome of a builder that had counted one more line. -/
def oneLater (outcome : Outcome Builder Error Unit) : Outcome Builder Error Unit :=
  ⟨outcome.state.countLine, outcome.log, outcome.result.mapError Error.later⟩

theorem Builder.apply_countLine
    (builder : Builder)
    (line : Line) :
    builder.countLine.apply line =
      match builder.apply line with
      | .ok (next, log) => .ok (next.countLine, log)
      | .error error => .error error.later := by
  cases line with
  | constant name value => rfl
  | offset name base distance =>
      rw [apply, apply, address, address, countLine]
      cases builder.constants.lookup base with
      | none => rfl
      | some value =>
          cases sum : value.add? distance with
          | none => simp only [sum]; rfl
          | some address => simp only [sum]; rfl
  | field name width =>
      rw [apply, apply, currentRegister?, currentRegister?, countLine]
      cases builder.current.filter fun address => (builder.registers.get? address).isSome with
      | none => rfl
      | some address => rfl
  | other => rfl

theorem Builder.takeSaid_countLine
    (builder : Builder)
    (line : Line) :
    builder.countLine.takeSaid line = oneLater (builder.takeSaid line) := by
  rw [takeSaid, takeSaid, apply_countLine]
  cases builder.countLine.apply line with
  | error error => rfl
  | ok made => rfl

/-- A builder that has counted one more line does the same one line later. -/
theorem readSaid_countLine
    (builder : Builder)
    (said : List Line) :
    readSaid builder.countLine said = oneLater (readSaid builder said) := by
  induction said generalizing builder with
  | nil => rfl
  | cons line rest inductionHypothesis =>
      have step := builder.takeSaid_countLine line
      rw [readSaid, Outcome.run_cons, step, readSaid, Outcome.run_cons]
      cases result : (builder.takeSaid line).result with
      | error error => simp only [oneLater, result, Except.mapError]
      | ok value =>
          have later := inductionHypothesis (builder.takeSaid line).state
          rw [readSaid, readSaid] at later
          simp only [oneLater, result, Except.mapError] at later ⊢
          rw [later]

/-! ## Lines that are counted -/

theorem Builder.line?_of_takeSaid
    {line : Line}
    (refused : (builder.takeSaid line).result = .error error) :
    error.line? = some (builder.lineCount + 1) := by
  rw [takeSaid] at refused
  cases applied : builder.countLine.apply line with
  | ok made =>
      rw [applied] at refused
      cases refused
  | error other =>
      rw [applied] at refused
      cases refused
      cases apply_eq_error_iff.mp applied with
      | field nowhere => rfl
      | unknownBase unknown => rfl
      | overflow known large => rfl

theorem Builder.lineCount_takeSaid
    {line : Line}
    (accepted : (builder.takeSaid line).result = .ok ()) :
    (builder.takeSaid line).state.lineCount = builder.lineCount + 1 := by
  rw [takeSaid] at accepted ⊢
  cases applied : builder.countLine.apply line with
  | error other =>
      rw [applied] at accepted
      cases accepted
  | ok made => exact (takes_of_apply applied).lineCount_eq

theorem lineCount_readSaid
    (accepted : (readSaid builder said).result = .ok ()) :
    (readSaid builder said).state.lineCount = builder.lineCount + said.length := by
  induction said generalizing builder with
  | nil => rfl
  | cons line rest inductionHypothesis =>
      rw [readSaid] at accepted ⊢
      cases result : (builder.takeSaid line).result with
      | error other =>
          rw [Outcome.run_cons_of_refused result] at accepted
          cases accepted
      | ok value =>
          rw [Outcome.run_cons_of_accepted result] at accepted ⊢
          have later := inductionHypothesis accepted
          rw [Builder.lineCount_takeSaid result] at later
          rw [List.length_cons, Nat.add_comm rest.length, ← Nat.add_assoc]
          exact later

/-- A refusal names one of the lines that were taken. -/
theorem exists_number_of_readSaid
    (refused : (readSaid builder said).result = .error error) :
    ∃ number,
      error.line? = some number ∧
        builder.lineCount < number ∧ number ≤ builder.lineCount + said.length := by
  rcases Outcome.run_refused refused with ⟨front, line, back, rfl, accepted, stopped, -⟩
  have counted := lineCount_readSaid accepted
  refine ⟨_, Builder.line?_of_takeSaid stopped, ?_, ?_⟩
  · rw [← readSaid, counted]
    omega
  · rw [← readSaid, counted, List.length_append, List.length_cons]
    omega

/-! ## What says nothing -/

theorem registersOfSaid_eq_error_iff :
    registersOfSaid said = .error error ↔ (readSaid {} said).result = .error error := by
  rw [registersOfSaid]
  cases (readSaid {} said).result with
  | error other => simp only [Except.map, Except.error.injEq]
  | ok value => exact Iff.intro nofun nofun

/-- What is refused early is not made good later. -/
theorem registersOfSaid_append_of_refused
    (refused : (readSaid {} before).result = .error error)
    (after : List Line) :
    registersOfSaid (before ++ after) = .error error := by
  rw [registersOfSaid_eq_error_iff, readSaid, Outcome.run_append_of_refused refused]
  exact refused

theorem registersOfSaid_append_of_accepted
    (accepted : (readSaid {} before).result = .ok ())
    (after : List Line) :
    registersOfSaid (before ++ after) =
      let later := readSaid (readSaid {} before).state after
      later.result.map fun _ => later.state.registers := by
  rw [registersOfSaid, readSaid, Outcome.run_append_of_accepted accepted]
  rfl

/-- What says nothing at the end makes no difference. -/
theorem registersOfSaid_concat_other
    (said : List Line) :
    registersOfSaid (said ++ [.other]) = registersOfSaid said := by
  have same := List.append_nil said
  cases result : (readSaid {} said).result with
  | error error =>
      rw [registersOfSaid_append_of_refused result, registersOfSaid_eq_error_iff.mpr result]
  | ok value =>
      rw [← same, registersOfSaid_append_of_accepted result, same,
        registersOfSaid_append_of_accepted result, readSaid_other]
      rfl

/--
What says nothing leaves the registers as they are, and an error as well, except that a line behind
it is one line further down.
-/
theorem registersOfSaid_insert_other
    (before after : List Line) :
    (∀ map,
      registersOfSaid (before ++ after) = .ok map →
        registersOfSaid (before ++ .other :: after) = .ok map) ∧
      ∀ error,
        registersOfSaid (before ++ after) = .error error →
          ∃ number,
            error.line? = some number ∧
              registersOfSaid (before ++ .other :: after) =
                .error (if before.length < number then error.later else error) := by
  cases result : (readSaid {} before).result with
  | error error =>
      simp only [registersOfSaid_append_of_refused result]
      refine ⟨nofun, ?_⟩
      rintro _ ⟨⟩
      rcases exists_number_of_readSaid result with ⟨number, named, -, small⟩
      refine ⟨number, named, ?_⟩
      have early : ¬ before.length < number := by
        simpa using small
      rw [if_neg early]
  | ok value =>
      rw [registersOfSaid_append_of_accepted result, registersOfSaid_append_of_accepted result,
        readSaid_other, readSaid_countLine]
      cases later : (readSaid (readSaid {} before).state after).result with
      | error error =>
          simp only [oneLater, later]
          refine ⟨nofun, ?_⟩
          rintro _ ⟨⟩
          rcases exists_number_of_readSaid later with ⟨number, named, large, -⟩
          refine ⟨number, named, ?_⟩
          have behind : before.length < number := by
            rw [lineCount_readSaid result] at large
            simpa using large
          rw [if_pos behind]
          rfl
      | ok value =>
          simp only [oneLater, later]
          exact ⟨fun _ same => same, nofun⟩

/-! ## Texts -/

/-- What the lines of a text say, in order. -/
def sayings (text : String) : List Line :=
  (Source.textLines text).map Line.ofText

/-- The registers of a text are those of what its lines say. -/
theorem registers_ofText
    (text : String) :
    registers (Source.ofText text) = registersOfSaid (sayings text) := by
  rcases List.eq_nil_or_concat (Source.textLines text) with none | ⟨front, last, lines⟩
  · exact absurd none (Source.textLines_ne_nil text)
  rw [List.concat_eq_append] at lines
  have noFeed : ∀ line ∈ front ++ [last], '\n' ∉ line.toList := by
    rw [← lines]
    exact fun line => Source.feed_notMem_of_mem_textLines
  have sourceLines := Source.lines_ofText_intercalate noFeed
  rw [← lines, Source.intercalate_textLines] at sourceLines
  rw [registers, read, sourceLines, run_addRead_map_ok, run_addLine_eq_readSaid, List.map_append,
    map_ofText_withoutReturn, ← registersOfSaid, sayings, lines, List.map_append]
  by_cases empty : last = ""
  · subst empty
    rw [if_pos rfl, List.map_nil, List.append_nil, List.map_singleton, ofText_empty,
      registersOfSaid_concat_other]
  · rw [if_neg empty]

end RegisterTrace.Header
