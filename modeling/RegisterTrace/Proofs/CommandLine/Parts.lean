import RegisterTrace.CommandLine

/-!
# The parts of a command line

A command line says some things one after another: values, the path of the header, the flag that
asks for a detailed log, or that there is to be no run.  How arguments spell these parts is told
from the arguments alone.  Several letters may share a dash, a path may stand in the argument of
its option or be the next argument, and behind two dashes everything is a value.  What arguments
mean is what their parts mean, one after another.
-/

namespace RegisterTrace.CommandLine

/-- One thing that a command line says. -/
inductive Part where
  | value (text : String)
  | registers (path : String)
  | debug
  | stop (reason : Stop)
  deriving DecidableEq, Repr

/-! ## How parts are spelled -/

/-- The parts that an argument spells, and whether it leaves a path to the next argument. -/
structure Spelling where
  parts : List Part
  awaitsPath : Bool := false

/-- What the letters behind one dash spell. -/
def spelledLetters : List Char → Spelling
  | [] => ⟨[], false⟩
  | 'd' :: rest => ⟨.debug :: (spelledLetters rest).parts, (spelledLetters rest).awaitsPath⟩
  | 'V' :: _ => ⟨[.stop .version], false⟩
  | 'h' :: _ => ⟨[.stop .help], false⟩
  | ['r'] => ⟨[], true⟩
  | 'r' :: '=' :: path => ⟨[.registers (String.ofList path)], false⟩
  | 'r' :: path => ⟨[.registers (String.ofList path)], false⟩
  | _ => ⟨[.stop .usage], false⟩

/-- What a name behind two dashes spells, with the value that it may carry. -/
def spelledName (name : List Char) (value : Option (List Char)) : Spelling :=
  match String.ofList name, value with
  | "registers", some path => ⟨[.registers (String.ofList path)], false⟩
  | "registers", none => ⟨[], true⟩
  | "debug", none => ⟨[.debug], false⟩
  | "version", none => ⟨[.stop .version], false⟩
  | "help", none => ⟨[.stop .help], false⟩
  | _, _ => ⟨[.stop .usage], false⟩

/-- What an argument spells behind its first dash. -/
def spelledDashed : List Char → Spelling
  | '-' :: long =>
      if '=' ∈ long then
        spelledName (long.takeWhile (· ≠ '=')) (some ((long.dropWhile (· ≠ '=')).drop 1))
      else
        spelledName long none
  | letters => spelledLetters letters

/-- What one argument spells; a dash alone is a value. -/
def spelled (argument : String) : Spelling :=
  match argument.toList with
  | '-' :: first :: more => spelledDashed (first :: more)
  | _ => ⟨[.value argument], false⟩

/-- Whether an argument starts with a dash and goes on behind it. -/
def isDashed (argument : String) : Bool :=
  match argument.toList with
  | '-' :: _ :: _ => true
  | _ => false

/-- The parts that arguments spell, the first of them possibly the path of the header. -/
def partsFrom : Bool → List String → List Part
  | false, [] => []
  | true, [] => [.stop .usage]
  | true, path :: rest =>
      if isDashed path then [.stop .usage] else .registers path :: partsFrom false rest
  | false, argument :: rest =>
      if argument = "--" then
        rest.map .value
      else
        (spelled argument).parts ++ partsFrom (spelled argument).awaitsPath rest

/-- The parts that a command line spells. -/
def parts (arguments : List String) : List Part :=
  partsFrom false arguments

/-! ## What parts mean -/

namespace State

/-- Takes one part. -/
def takePart (state : State) : Part → Except Stop State
  | .value text => state.takeValue text
  | .registers path => state.takeRegisters path
  | .debug => state.takeDebug
  | .stop reason => .error reason

/-- Takes what an argument spells. -/
def takeSpelling (state : State) (spelling : Spelling) : Except Stop State :=
  (spelling.parts.foldlM takePart state).map fun next =>
    if spelling.awaitsPath then next.expectRegisters else next

@[simp]
theorem takeSpelling_single
    (state : State)
    (part : Part) :
    state.takeSpelling ⟨[part], false⟩ = state.takePart part := by
  cases taken : state.takePart part with
  | error stop => simp [takeSpelling, taken, Except.map, bind, Except.bind]
  | ok next => simp [takeSpelling, taken, Except.map, bind, Except.bind, pure, Except.pure]

@[simp]
theorem takeSpelling_awaiting
    (state : State) :
    state.takeSpelling ⟨[], true⟩ = .ok state.expectRegisters := rfl

/-- A part in front of others is taken before them. -/
theorem takeSpelling_cons
    (state : State)
    (part : Part)
    (behind : Spelling) :
    state.takeSpelling ⟨part :: behind.parts, behind.awaitsPath⟩ =
      state.takePart part >>= fun next => next.takeSpelling behind := by
  cases taken : state.takePart part with
  | error stop => simp [takeSpelling, taken, Except.map, bind, Except.bind]
  | ok next => simp [takeSpelling, taken, bind, Except.bind]

theorem takeLetters_eq
    (state : State)
    (letters : List Char) :
    state.takeLetters letters = state.takeSpelling (spelledLetters letters) := by
  fun_induction spelledLetters letters generalizing state with
  | case1 => rfl
  | case2 rest inductionHypothesis =>
      rw [takeSpelling_cons, takeLetters, takePart]
      cases state.takeDebug with
      | error stop => rfl
      | ok next => exact inductionHypothesis next
  | case3 => rfl
  | case4 => rfl
  | case5 => rfl
  | case6 path =>
      rw [takeSpelling_single]
      rfl
  | case7 path notLast notMarked =>
      rw [takeSpelling_single, takeLetters, takePart]
      · exact notLast
      · exact notMarked
  | case8 letters =>
      rw [takeSpelling_single, takeLetters, takePart]
      all_goals assumption

theorem takeNamed_eq
    (state : State)
    (name : List Char)
    (value : Option (List Char)) :
    state.takeNamed name value = state.takeSpelling (spelledName name value) := by
  fun_cases spelledName name value <;> simp_all [takeNamed, takePart]

theorem takeDashed_eq
    (state : State)
    (argument : List Char) :
    state.takeDashed argument = state.takeSpelling (spelledDashed argument) := by
  fun_cases spelledDashed argument with
  | case1 long marked => rw [takeDashed, if_pos marked, takeNamed_eq]
  | case2 long unmarked => rw [takeDashed, if_neg unmarked, takeNamed_eq]
  | case3 letters =>
      rw [takeDashed, takeLetters_eq]
      assumption

/-! ## Arguments as their parts -/

/-- The next argument may spell a part, being neither the header's path nor behind two dashes. -/
structure Ready (state : State) : Prop where
  notLiteral : state.literal = false
  awaitsNothing : state.awaitsRegisters = false

theorem takeValue_eq
    {state : State}
    (awaitsNothing : state.awaitsRegisters = false)
    (value : String) :
    state.takeValue value =
      match state.values with
      | [] => if value.isEmpty then .error .usage else .ok { state with values := [value] }
      | [capture] => .ok { state with values := [capture, value] }
      | _ => .error .usage := by
  have notAwaiting : ¬ state.awaitsRegisters = true := by
    simp [awaitsNothing]
  exact if_neg notAwaiting

/-- A part that is taken sets the values, the path of the header, or the flag for the first time. -/
theorem Ready.takePart_cases
    {state next : State}
    (ready : state.Ready)
    {part : Part}
    (taken : state.takePart part = .ok next) :
    (∃ values, next = { state with values }) ∨
      (∃ path, next = { state with registers := some path, awaitsRegisters := false }) ∨
        (part = .debug ∧ state.debug = false ∧ next = { state with debug := true }) := by
  cases part with
  | value text =>
      rw [takePart, takeValue_eq ready.awaitsNothing] at taken
      split at taken
      · split at taken
        · cases taken
        · cases taken
          exact .inl ⟨_, rfl⟩
      · cases taken
        exact .inl ⟨_, rfl⟩
      · cases taken
  | registers path =>
      rw [takePart, takeRegisters] at taken
      split at taken
      · cases taken
      · cases taken
        exact .inr (.inl ⟨path, rfl⟩)
  | debug =>
      rw [takePart, takeDebug] at taken
      split at taken
      · cases taken
      · next unset =>
          cases taken
          exact .inr (.inr ⟨rfl, Bool.eq_false_iff.mpr unset, rfl⟩)
  | stop reason => cases taken

/-- Taking a part leaves a state ready for the next. -/
theorem Ready.of_takePart
    {state next : State}
    (ready : state.Ready)
    {part : Part}
    (taken : state.takePart part = .ok next) :
    next.Ready := by
  rcases ready.takePart_cases taken with ⟨values, rfl⟩ | ⟨path, rfl⟩ | ⟨-, -, rfl⟩
  · exact ⟨ready.notLiteral, ready.awaitsNothing⟩
  · exact ⟨ready.notLiteral, rfl⟩
  · exact ⟨ready.notLiteral, ready.awaitsNothing⟩

theorem Ready.of_foldlM_takePart
    {state next : State}
    (ready : state.Ready)
    {parts : List Part}
    (taken : parts.foldlM takePart state = .ok next) :
    next.Ready := by
  induction parts generalizing state with
  | nil =>
      cases taken
      exact ready
  | cons part rest inductionHypothesis =>
      rw [List.foldlM_cons] at taken
      cases first : state.takePart part with
      | error stop =>
          rw [first] at taken
          cases taken
      | ok between =>
          rw [first] at taken
          exact inductionHypothesis (ready.of_takePart first) taken

/-- Where a part may start, an argument is taken as what it spells. -/
theorem Ready.take_eq
    {state : State}
    (ready : state.Ready)
    {argument : String}
    (notDashes : argument ≠ "--") :
    state.take argument = state.takeSpelling (spelled argument) := by
  have notBoth : argument.toList ≠ ['-', '-'] := fun same =>
    notDashes (String.toList_injective same)
  rw [take, ready.notLiteral, spelled]
  split
  · next same => exact absurd same notBoth
  · next first more _ shape =>
      rw [shape, ready.awaitsNothing]
      exact takeDashed_eq _ _
  · next notDashed =>
      split
      · next first more shape => exact absurd shape (notDashed first more rfl)
      · rw [takeSpelling_single, takePart]

/-- The path of the header is taken from the next argument, unless that one starts with a dash. -/
theorem Ready.take_expectRegisters
    {state : State}
    (ready : state.Ready)
    (path : String) :
    state.expectRegisters.take path =
      if isDashed path then .error .usage else state.takeRegisters path := by
  have notLiteral : state.expectRegisters.literal = false := ready.notLiteral
  rw [take, notLiteral, isDashed]
  split
  · next shape =>
      rw [shape]
      rfl
  · next first more _ shape =>
      rw [shape]
      rfl
  · next notDashed =>
      split
      · next first more shape => exact absurd shape (notDashed first more rfl)
      · rfl

/-- The state once two dashes were read. -/
def literally (state : State) : State :=
  { state with literal := true }

theorem Ready.take_dashes
    {state : State}
    (ready : state.Ready) :
    state.take "--" = .ok state.literally := by
  have shape : "--".toList = ['-', '-'] := rfl
  simp [take, ready.notLiteral, shape, ready.awaitsNothing, literally]

/-- Behind two dashes an argument is a value, whatever it looks like. -/
theorem Ready.take_literally
    {state : State}
    (ready : state.Ready)
    (value : String) :
    state.literally.take value = (state.takePart (.value value)).map literally := by
  have isValue : state.literally.take value = state.literally.takeValue value := rfl
  have awaitsNothing : state.literally.awaitsRegisters = false := ready.awaitsNothing
  have sameValues : state.literally.values = state.values := rfl
  rw [isValue, takePart, takeValue_eq awaitsNothing, takeValue_eq ready.awaitsNothing, sameValues]
  split
  · split <;> rfl
  · rfl
  · rfl

theorem Ready.foldlM_take_literally
    {state : State}
    (ready : state.Ready)
    (values : List String) :
    values.foldlM take state.literally =
      Except.map literally ((values.map Part.value).foldlM takePart state) := by
  induction values generalizing state with
  | nil => rfl
  | cons value rest inductionHypothesis =>
      rw [List.foldlM_cons, List.map_cons, List.foldlM_cons, ready.take_literally]
      cases taken : state.takePart (.value value) with
      | error stop => rfl
      | ok next => exact inductionHypothesis (ready.of_takePart taken)

theorem finish_expectRegisters
    (state : State) :
    state.expectRegisters.finish = .error .usage := by
  rw [finish]
  split <;> rfl

/-- Arguments are taken as the parts that they spell. -/
theorem Ready.foldlM_take_finish
    {state : State}
    (ready : state.Ready)
    (awaitsPath : Bool)
    (arguments : List String) :
    (arguments.foldlM take (if awaitsPath then state.expectRegisters else state) >>= finish) =
      ((partsFrom awaitsPath arguments).foldlM takePart state >>= finish) := by
  fun_induction partsFrom awaitsPath arguments generalizing state with
  | case1 => rfl
  | case2 => exact finish_expectRegisters state
  | case3 path rest dashed =>
      rw [if_pos rfl, List.foldlM_cons, ready.take_expectRegisters, if_pos dashed]
      rfl
  | case4 path rest notDashed inductionHypothesis =>
      rw [if_pos rfl, List.foldlM_cons, List.foldlM_cons, ready.take_expectRegisters,
        if_neg notDashed]
      cases taken : state.takePart (.registers path) with
      | error stop =>
          rw [takePart] at taken
          rw [taken]
          rfl
      | ok next =>
          have later := inductionHypothesis (ready.of_takePart taken)
          rw [takePart] at taken
          rw [taken]
          exact later
  | case5 rest =>
      rw [if_neg Bool.false_ne_true, List.foldlM_cons, ready.take_dashes]
      calc
        rest.foldlM take state.literally >>= finish
            = Except.map literally ((rest.map Part.value).foldlM takePart state) >>= finish := by
          rw [ready.foldlM_take_literally]
        _ = (rest.map Part.value).foldlM takePart state >>= finish := by
          cases (rest.map Part.value).foldlM takePart state <;> rfl
  | case6 argument rest notDashes inductionHypothesis =>
      rw [if_neg Bool.false_ne_true, List.foldlM_cons, ready.take_eq notDashes,
        List.foldlM_append, takeSpelling]
      cases taken : (spelled argument).parts.foldlM takePart state with
      | error stop => rfl
      | ok next => exact inductionHypothesis (ready.of_foldlM_takePart taken)

end State

/-- A command line means what its parts mean, one after another. -/
theorem parse_eq_foldlM_parts
    (arguments : List String) :
    parse arguments = (parts arguments).foldlM State.takePart {} >>= State.finish :=
  State.Ready.foldlM_take_finish ⟨rfl, rfl⟩ false arguments

end RegisterTrace.CommandLine
