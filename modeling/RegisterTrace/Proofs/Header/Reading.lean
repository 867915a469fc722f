import Mathlib.Data.List.Induction
import RegisterTrace.Header.Builder
import RegisterTrace.Proofs.RegisterMap.Changes
import RegisterTrace.Proofs.Run

/-!
# Reading a header line by line

A line that is accepted makes one of four things of a builder: it names a constant, opens a
register, adds a field to the current register, or changes nothing.  A line is refused for one of
three reasons, each of which says how many lines were counted.  An accepted header is a text all of
whose lines are accepted one after another, so what every line keeps holds of the registers that the
header defines; a refused one is a text that is accepted up to the line that the reason names.
-/

namespace RegisterTrace.Header

/-! ## One line -/

/-- What a line that is accepted makes of a builder. -/
inductive Builder.Takes (builder : Builder) : Line → Builder → Prop where
  | constant
      (name : String)
      (value : Word) :
      Takes builder (.constant name value) (builder.define name value)
  | offset
      {name base : String}
      {distance value address : Word}
      (known : builder.constants.lookup base = some value)
      (fits : value.add? distance = some address) :
      Takes builder (.offset name base distance) (builder.openRegister name address)
  | field
      {name : String}
      {width : Nat}
      {address : Word}
      (current : builder.currentRegister? = some address) :
      Takes builder (.field name width)
        { builder with registers := builder.registers.addField address ⟨name, width⟩ }
  | other : Takes builder .other builder

theorem Builder.address_eq_ok_iff
    {builder : Builder}
    {name base : String}
    {distance address : Word} :
    builder.address name base distance = .ok address ↔
      ∃ value, builder.constants.lookup base = some value ∧ value.add? distance = some address := by
  rw [Builder.address]
  constructor
  · intro resolved
    split at resolved
    · cases resolved
    · next value known =>
        split at resolved
        · cases resolved
        · next sum fits =>
            cases resolved
            exact ⟨value, known, fits⟩
  · rintro ⟨value, known, fits⟩
    simp only [known, fits]

theorem Builder.takes_of_apply
    {builder next : Builder}
    {line : Line}
    {log : Log}
    (applied : builder.apply line = .ok (next, log)) :
    builder.Takes line next := by
  cases line with
  | constant name value =>
      cases applied
      exact .constant name value
  | offset name base distance =>
      rw [apply] at applied
      cases resolved : builder.address name base distance with
      | error error =>
          rw [resolved] at applied
          cases applied
      | ok address =>
          rw [resolved] at applied
          cases applied
          rcases address_eq_ok_iff.mp resolved with ⟨value, known, fits⟩
          exact .offset known fits
  | field name width =>
      rw [apply] at applied
      split at applied
      · next address current =>
          cases applied
          exact .field current
      · cases applied
  | other =>
      cases applied
      exact .other

/-- Why a line that a builder has counted is refused. -/
inductive Builder.Refuses (builder : Builder) : Line → Error → Prop where
  | field
      {name : String}
      {width : Nat}
      (nowhere : builder.currentRegister? = none) :
      Refuses builder (.field name width) (.fieldWithoutRegister builder.lineCount)
  | unknownBase
      {name base : String}
      {distance : Word}
      (unknown : builder.constants.lookup base = none) :
      Refuses builder (.offset name base distance) (.unknownBase base builder.lineCount)
  | overflow
      {name base : String}
      {distance value : Word}
      (known : builder.constants.lookup base = some value)
      (large : value.add? distance = none) :
      Refuses builder (.offset name base distance) (.addressOverflow name builder.lineCount)

theorem Builder.apply_eq_error_iff
    {builder : Builder}
    {line : Line}
    {error : Error} :
    builder.apply line = .error error ↔ builder.Refuses line error := by
  constructor
  · intro refused
    cases line with
    | constant name value => cases refused
    | offset name base distance =>
        rw [apply, address] at refused
        cases known : builder.constants.lookup base with
        | none =>
            rw [known] at refused
            cases refused
            exact .unknownBase known
        | some value =>
            cases sum : value.add? distance with
            | none =>
                simp only [known, sum] at refused
                cases refused
                exact .overflow known sum
            | some address =>
                simp only [known, sum] at refused
                cases refused
    | field name width =>
        rw [apply] at refused
        split at refused
        · cases refused
        · next nowhere =>
            cases refused
            exact .field nowhere
    | other => cases refused
  · intro refuses
    cases refuses with
    | field nowhere => simp only [apply, nowhere]
    | unknownBase unknown =>
        simp only [apply, address, unknown]
        rfl
    | overflow known large =>
        simp only [apply, address, known, large]
        rfl

theorem Builder.addLine_refused_iff
    {builder : Builder}
    {line : String}
    {error : Error} :
    (builder.addLine line).result = .error error ↔
      builder.countLine.Refuses (Line.ofText line) error := by
  rw [← apply_eq_error_iff, addLine]
  cases builder.countLine.apply (Line.ofText line) with
  | error other => simp only [Outcome.refuse, Except.error.injEq]
  | ok made => exact Iff.intro nofun nofun

theorem Builder.takes_of_addLine
    {builder : Builder}
    {line : String}
    (accepted : (builder.addLine line).result = .ok ()) :
    builder.countLine.Takes (Line.ofText line) (builder.addLine line).state := by
  rw [addLine] at accepted ⊢
  cases applied : builder.countLine.apply (Line.ofText line) with
  | error error =>
      simp only [applied] at accepted
      cases accepted
  | ok made =>
      rcases made with ⟨next, log⟩
      exact takes_of_apply applied

theorem Builder.Takes.exists_apply
    {builder next : Builder}
    {line : Line}
    (takes : builder.Takes line next) :
    ∃ log, builder.apply line = .ok (next, log) := by
  cases takes with
  | constant name value => exact ⟨_, rfl⟩
  | @offset name base distance value address known fits =>
      have resolved : builder.address name base distance = .ok address :=
        address_eq_ok_iff.mpr ⟨value, known, fits⟩
      rw [apply, resolved]
      exact ⟨_, rfl⟩
  | field current =>
      simp only [apply, current]
      exact ⟨_, rfl⟩
  | other => exact ⟨_, rfl⟩

/-- A line that a builder takes once it has counted the line is accepted. -/
theorem Builder.addLine_of_takes
    {builder next : Builder}
    {line : String}
    (takes : builder.countLine.Takes (Line.ofText line) next) :
    (builder.addLine line).result = .ok () ∧ (builder.addLine line).state = next := by
  rcases takes.exists_apply with ⟨log, applied⟩
  rw [addLine]
  simp only [applied]
  exact ⟨rfl, rfl⟩

/-- A line is taken by the builder that has counted it, or it is refused and only counted. -/
theorem Builder.takes_or_refuses
    (builder : Builder)
    (line : String) :
    (builder.countLine.Takes (Line.ofText line) (builder.addLine line).state ∧
        (builder.addLine line).result = .ok ()) ∨
      ∃ error,
        builder.countLine.Refuses (Line.ofText line) error ∧
          (builder.addLine line).result = .error error ∧
            (builder.addLine line).state = builder.countLine := by
  rw [addLine]
  cases applied : builder.countLine.apply (Line.ofText line) with
  | error error => exact .inr ⟨error, apply_eq_error_iff.mp applied, rfl, rfl⟩
  | ok made => exact .inl ⟨takes_of_apply applied, rfl⟩

theorem Builder.Takes.lineCount_eq
    {builder next : Builder}
    {line : Line}
    (takes : builder.Takes line next) :
    next.lineCount = builder.lineCount := by
  cases takes with
  | constant name value => rfl
  | offset known fits => rfl
  | field current => rfl
  | other => rfl

/-! ## Lines that are fed one after another -/

/-- The builder that is fed some lines, going on after each one that is refused. -/
def fed (lines : List String) : Builder :=
  lines.foldl (fun builder line => (builder.addLine line).state) {}

theorem fed_concat
    (lines : List String)
    (line : String) :
    fed (lines ++ [line]) = ((fed lines).addLine line).state := by
  rw [fed, List.foldl_append, ← fed]
  rfl

/-- Every line is counted, refused or not. -/
theorem lineCount_fed
    (lines : List String) :
    (fed lines).lineCount = lines.length := by
  induction lines using List.reverseRecOn with
  | nil => rfl
  | append_singleton lines line inductionHypothesis =>
      have counted : ((fed lines).addLine line).state.lineCount = (fed lines).lineCount + 1 := by
        rcases (fed lines).takes_or_refuses line with ⟨takes, -⟩ | ⟨error, -, -, same⟩
        · exact takes.lineCount_eq
        · rw [same]
          rfl
      rw [fed_concat, counted, inductionHypothesis, List.length_append, List.length_singleton]

/-! ## Accepted headers -/

/-- Reads lines of text. -/
def readLines (lines : List String) : Outcome Builder Error Unit :=
  Outcome.run Builder.addLine {} lines

/-- The builder after some lines, up to the first one that is refused. -/
def after (lines : List String) : Builder :=
  (readLines lines).state

/-- After accepted lines one more line is taken by the builder that they leave. -/
theorem readLines_concat_of_accepted
    {lines : List String}
    (accepted : (readLines lines).result = .ok ())
    (line : String) :
    readLines (lines ++ [line]) =
      let taken := (after lines).addLine line
      ⟨taken.state, (readLines lines).log ++ taken.log, taken.result⟩ := by
  rw [readLines, Outcome.run_append_of_accepted accepted, ← readLines, ← after]
  cases taken : ((after lines).addLine line).result with
  | error error =>
      rw [Outcome.run_cons_of_refused taken]
      simp only [taken]
  | ok value =>
      rw [Outcome.run_cons_of_accepted taken, Outcome.run_nil]
      simp only [taken, Array.append_empty]

/-- Lines with one more are accepted if the lines are and the builder after them takes that one. -/
theorem readLines_concat
    {lines : List String}
    {line : String}
    (accepted : (readLines (lines ++ [line])).result = .ok ()) :
    (readLines lines).result = .ok () ∧
      (after lines).countLine.Takes (Line.ofText line) (after (lines ++ [line])) := by
  have before : (readLines lines).result = .ok () := Outcome.run_accepted_of_append accepted
  have whole := readLines_concat_of_accepted before line
  have taken : ((after lines).addLine line).result = .ok () := by
    rw [whole] at accepted
    exact accepted
  have reached : after (lines ++ [line]) = ((after lines).addLine line).state := by
    rw [after, whole]
  rw [reached]
  exact ⟨before, Builder.takes_of_addLine taken⟩

/-- Every one of accepted lines is taken by the builder that the lines before it leave. -/
theorem takes_of_accepted
    {before rest : List String}
    {line : String}
    (accepted : (readLines (before ++ line :: rest)).result = .ok ()) :
    (readLines before).result = .ok () ∧
      (after before).countLine.Takes (Line.ofText line) (after (before ++ [line])) := by
  rw [List.append_cons] at accepted
  exact readLines_concat (Outcome.run_accepted_of_append accepted)

/-- After accepted lines the builder is the one that was fed them. -/
theorem after_eq_fed
    {lines : List String}
    (accepted : (readLines lines).result = .ok ()) :
    after lines = fed lines :=
  Outcome.run_state_of_accepted accepted

theorem lineCount_after
    {lines : List String}
    (accepted : (readLines lines).result = .ok ()) :
    (after lines).lineCount = lines.length := by
  rw [after_eq_fed accepted, lineCount_fed]

theorem Builder.Takes.exists_built
    {builder next : Builder}
    {line : Line}
    (takes : builder.Takes line next)
    (built : ∃ changes, builder.registers = RegisterMap.built changes) :
    ∃ changes, next.registers = RegisterMap.built changes := by
  rcases built with ⟨changes, same⟩
  cases takes with
  | constant name value => exact ⟨changes, same⟩
  | @offset name _ _ _ address known fits =>
      refine ⟨changes ++ [.insert { name, address }], ?_⟩
      rw [RegisterMap.built_concat, ← same]
      rfl
  | @field name width address current =>
      refine ⟨changes ++ [.addField address ⟨name, width⟩], ?_⟩
      rw [RegisterMap.built_concat, ← same]
      rfl
  | other => exact ⟨changes, same⟩

theorem exists_built_after
    {lines : List String}
    (accepted : (readLines lines).result = .ok ()) :
    ∃ changes, (after lines).registers = RegisterMap.built changes := by
  induction lines using List.reverseRecOn with
  | nil => exact ⟨[], rfl⟩
  | append_singleton lines line inductionHypothesis =>
      rcases readLines_concat accepted with ⟨before, takes⟩
      exact takes.exists_built (inductionHypothesis before)

/-! ## Sources -/

theorem run_addRead_map_ok
    (builder : Builder)
    (lines : List String) :
    Outcome.run Builder.addRead builder (lines.map .ok) =
      Outcome.run Builder.addLine builder lines :=
  Outcome.run_map Builder.addRead .ok builder lines

/-- A line that could not be read is refused, so what was accepted is text. -/
theorem exists_text_of_accepted
    {read : List (Except Source.Failure String)}
    (accepted : (Outcome.run Builder.addRead {} read).result = .ok ()) :
    ∃ lines : List String, read = lines.map .ok := by
  refine
    Outcome.run_induction
      (motive := fun done _ => ∃ lines : List String, done = lines.map .ok) ⟨[], rfl⟩ ?_ accepted
  rintro done builder line ⟨lines, rfl⟩ taken
  cases line with
  | ok text => exact ⟨lines ++ [text], by rw [List.map_append, List.map_singleton]⟩
  | error failure => cases taken

/-- A header is accepted exactly if all its lines are text and are accepted. -/
theorem registers_eq_ok_iff
    {source : Source}
    {map : RegisterMap} :
    registers source = .ok map ↔
      ∃ lines,
        source.lines = lines.map .ok ∧
          (readLines lines).result = .ok () ∧ (after lines).registers = map := by
  constructor
  · intro accepted
    cases result : (read source).result with
    | error error =>
        rw [registers, result] at accepted
        cases accepted
    | ok value =>
        rcases exists_text_of_accepted result with ⟨lines, text⟩
        have same := run_addRead_map_ok {} lines
        rw [registers, result] at accepted
        cases accepted
        rw [read, text, same] at result
        exact ⟨lines, text, result, by rw [read, text, same, after, readLines]⟩
  · rintro ⟨lines, text, accepted, rfl⟩
    rw [registers, read, text, run_addRead_map_ok, ← readLines, accepted]
    rfl

/-- The registers of a header come about from the empty map by insertions and added fields. -/
theorem exists_built_of_registers_eq_ok
    {source : Source}
    {map : RegisterMap}
    (accepted : registers source = .ok map) :
    ∃ changes, map = RegisterMap.built changes := by
  rcases registers_eq_ok_iff.mp accepted with ⟨lines, -, acceptedLines, rfl⟩
  exact exists_built_after acceptedLines

theorem registers_eq_error_iff
    {source : Source}
    {error : Error} :
    registers source = .error error ↔ (read source).result = .error error := by
  rw [registers]
  cases (read source).result with
  | error other => simp only [Except.map, Except.error.injEq]
  | ok value => exact Iff.intro nofun nofun

/-- A header that could be read is refused at its first line that is refused, which it names. -/
theorem registers_eq_error_iff_of_read
    {source : Source}
    {error : Error}
    (readable : ∀ failure, error ≠ .unreadable failure) :
    registers source = .error error ↔
      ∃ before line rest,
        source.lines = before.map .ok ++ .ok line :: rest ∧
          (readLines before).result = .ok () ∧
            (after before).countLine.Refuses (Line.ofText line) error := by
  rw [registers_eq_error_iff]
  constructor
  · intro refused
    rcases Outcome.run_refused refused with ⟨front, line, rest, split, accepted, stopped, -⟩
    rcases exists_text_of_accepted accepted with ⟨before, rfl⟩
    rw [run_addRead_map_ok] at accepted stopped
    cases line with
    | error failure =>
        cases stopped
        exact absurd rfl (readable failure)
    | ok text =>
        exact ⟨before, text, rest, split, accepted, Builder.addLine_refused_iff.mp stopped⟩
  · rintro ⟨before, line, rest, split, accepted, refuses⟩
    have taken := run_addRead_map_ok {} before
    have stopped := Builder.addLine_refused_iff.mpr refuses
    rw [read, split]
    refine (Outcome.run_of_refused ?_ ?_ rest).1
    · rw [taken]
      exact accepted
    · rw [taken]
      exact stopped

end RegisterTrace.Header
