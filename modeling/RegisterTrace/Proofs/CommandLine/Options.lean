import Mathlib.Data.List.Induction
import RegisterTrace.Proofs.CommandLine.Parts

/-!
# What command lines mean

A command line is valid exactly if none of its parts stops the program, its values are a capture
with a name and a device, the path of the header is given at most once and is not empty, and the
flag is given at most once.  It then means just these.  The flag means nothing else: taking it out
of a command line, or putting it in, changes no other option and stops no run.
-/

namespace RegisterTrace.CommandLine

/-! ## Parts of each kind -/

/-- The values among parts. -/
def Part.values (parts : List Part) : List String :=
  parts.filterMap fun
    | .value text => some text
    | _ => none

/-- The paths that parts give for the header. -/
def Part.paths (parts : List Part) : List String :=
  parts.filterMap fun
    | .registers path => some path
    | _ => none

@[simp]
theorem values_append
    (first second : List Part) :
    Part.values (first ++ second) = Part.values first ++ Part.values second :=
  List.filterMap_append

@[simp]
theorem paths_append
    (first second : List Part) :
    Part.paths (first ++ second) = Part.paths first ++ Part.paths second :=
  List.filterMap_append

@[simp]
theorem values_single
    (part : Part) :
    Part.values [part] =
      match part with
      | .value text => [text]
      | _ => [] := by
  cases part <;> rfl

@[simp]
theorem paths_single
    (part : Part) :
    Part.paths [part] =
      match part with
      | .registers path => [path]
      | _ => [] := by
  cases part <;> rfl

/-! ## Parts that go together -/

/-- Parts none of which is too much, though some may be missing. -/
structure Together (parts : List Part) : Prop where
  goesOn : ∀ reason, .stop reason ∉ parts
  fewValues : (Part.values parts).length ≤ 2
  named : (Part.values parts).head? ≠ some ""
  fewPaths : (Part.paths parts).length ≤ 1
  filled : "" ∉ Part.paths parts
  oneFlag : parts.count .debug ≤ 1

theorem together_nil : Together [] := by
  constructor <;> simp [Part.values, Part.paths]

/-- What one more part needs of the parts before it. -/
def Admits (parts : List Part) : Part → Prop
  | .value text => (Part.values parts = [] ∧ text ≠ "") ∨ (Part.values parts).length = 1
  | .registers path => Part.paths parts = [] ∧ path ≠ ""
  | .debug => .debug ∉ parts
  | .stop _ => False

/-- Parts that go together admit each other. -/
theorem Together.of_concat
    {parts : List Part}
    {part : Part}
    (together : Together (parts ++ [part])) :
    Together parts ∧ Admits parts part := by
  rcases together with ⟨goesOn, fewValues, named, fewPaths, filled, oneFlag⟩
  simp only [values_append, paths_append, List.length_append, List.count_append, List.mem_append,
    not_or] at goesOn fewValues fewPaths filled oneFlag
  rw [values_append] at named
  constructor
  · refine ⟨fun reason => (goesOn reason).1, by omega, ?_, by omega, filled.1, by omega⟩
    intro unnamed
    exact named (by rw [List.head?_append, unnamed, Option.some_or])
  · cases part with
    | value text =>
        rcases shape : Part.values parts with _ | ⟨first, _ | ⟨second, later⟩⟩
        · rw [shape] at named
          exact .inl ⟨shape, fun empty => named (by simp [empty])⟩
        · exact .inr (by rw [shape]; rfl)
        · simp [shape] at fewValues
    | registers path =>
        have none : (Part.paths parts).length = 0 := by simpa using fewPaths
        exact ⟨List.eq_nil_of_length_eq_zero none, fun empty => filled.2 (by simp [empty])⟩
    | debug => exact List.count_eq_zero.mp (by simpa using oneFlag)
    | stop reason => exact (goesOn reason).2 List.mem_cons_self

/-- A part that others admit goes together with them. -/
theorem Together.concat
    {parts : List Part}
    {part : Part}
    (together : Together parts)
    (admits : Admits parts part) :
    Together (parts ++ [part]) := by
  rcases together with ⟨goesOn, fewValues, named, fewPaths, filled, oneFlag⟩
  cases part with
  | value text =>
      rcases admits with ⟨none, filledText⟩ | one
      · constructor <;> simp_all
      · rcases List.length_eq_one_iff.mp one with ⟨first, shape⟩
        constructor <;> simp_all
  | registers path =>
      rcases admits with ⟨none, filledPath⟩
      constructor <;> simp_all [Ne.symm filledPath]
  | debug =>
      have first : parts.count .debug = 0 := List.count_eq_zero.mpr admits
      constructor <;> simp_all
  | stop reason => cases admits

/-! ## Taking parts -/

/-- What parts that go together amount to. -/
def State.ofParts (parts : List Part) : State where
  values := Part.values parts
  registers := (Part.paths parts).head?
  debug := parts.contains .debug

/-- One more part is taken exactly if the parts before it admit it. -/
theorem takePart_ofParts_eq_ok_iff
    {parts : List Part}
    {part : Part}
    {next : State} :
    (State.ofParts parts).takePart part = .ok next ↔
      Admits parts part ∧ State.ofParts (parts ++ [part]) = next := by
  cases part with
  | value text =>
      rw [State.takePart, State.takeValue_eq rfl, Admits]
      rcases shape : Part.values parts with _ | ⟨first, _ | ⟨second, later⟩⟩
      · by_cases empty : text = "" <;> simp [State.ofParts, shape, empty]
      · simp [State.ofParts, shape]
      · simp [State.ofParts, shape]
  | registers path =>
      rw [State.takePart, State.takeRegisters, Admits]
      rcases shape : Part.paths parts with _ | ⟨first, later⟩
      · by_cases empty : path = "" <;> simp [State.ofParts, shape, empty]
      · simp [State.ofParts, shape]
  | debug =>
      rw [State.takePart, State.takeDebug, Admits]
      by_cases member : .debug ∈ parts <;> simp [State.ofParts, member]
  | stop reason => simp [State.takePart, Admits]

/-- Parts are taken exactly if they go together. -/
theorem foldlM_takePart_eq_ok_iff
    {parts : List Part}
    {state : State} :
    parts.foldlM State.takePart {} = .ok state ↔
      Together parts ∧ State.ofParts parts = state := by
  induction parts using List.reverseRecOn generalizing state with
  | nil =>
      constructor
      · intro taken
        cases taken
        exact ⟨together_nil, rfl⟩
      · rintro ⟨-, rfl⟩
        rfl
  | append_singleton parts part inductionHypothesis =>
      simp only [List.foldlM_append, List.foldlM_cons, List.foldlM_nil, bind_pure]
      constructor
      · intro taken
        cases before : parts.foldlM State.takePart {} with
        | error stop =>
            rw [before] at taken
            cases taken
        | ok between =>
            rcases inductionHypothesis.mp before with ⟨together, rfl⟩
            rw [before] at taken
            rcases takePart_ofParts_eq_ok_iff.mp taken with ⟨admits, same⟩
            exact ⟨together.concat admits, same⟩
      · rintro ⟨together, rfl⟩
        rcases together.of_concat with ⟨before, admits⟩
        rw [inductionHypothesis.mpr ⟨before, rfl⟩]
        exact takePart_ofParts_eq_ok_iff.mpr ⟨admits, rfl⟩

/-! ## Valid command lines -/

/-- Parts say just these options, and nothing that would stop the program. -/
structure Means (parts : List Part) (options : Options) : Prop where
  goesOn : ∀ reason, .stop reason ∉ parts
  values : Part.values parts = [options.capture, options.device]
  capture : options.capture ≠ ""
  registers :
    (Part.paths parts = [] ∧ options.registers = "../fl2000_registers.h") ∨
      (Part.paths parts = [options.registers] ∧ options.registers ≠ "")
  debug : parts.count .debug = options.debug.toNat

/-- A state without a pending option is finished by a capture and a device. -/
theorem finish_ofParts_eq_ok_iff
    {parts : List Part}
    {options : Options} :
    (State.ofParts parts).finish = .ok options ↔
      ∃ capture device,
        Part.values parts = [capture, device] ∧
          { capture, device
            registers := (Part.paths parts).head?.getD "../fl2000_registers.h"
            debug := parts.contains .debug } = options := by
  rw [State.finish]
  rcases shape : Part.values parts with _ | ⟨capture, _ | ⟨device, _ | ⟨third, later⟩⟩⟩ <;>
    simp [State.ofParts, shape]

theorem Together.count_debug
    {parts : List Part}
    (together : Together parts) :
    parts.count .debug = (parts.contains .debug).toNat := by
  have few := together.oneFlag
  by_cases member : .debug ∈ parts
  · have some := List.count_pos_iff.mpr member
    rw [List.contains_iff_mem.mpr member]
    exact Nat.le_antisymm few some
  · rw [List.count_eq_zero.mpr member, List.contains_eq_mem, decide_eq_false member]
    rfl

/-- Parts that go together mean the options that they amount to. -/
theorem Together.means
    {parts : List Part}
    (together : Together parts)
    {options : Options}
    (finished : (State.ofParts parts).finish = .ok options) :
    Means parts options := by
  rcases finish_ofParts_eq_ok_iff.mp finished with ⟨capture, device, values, rfl⟩
  refine ⟨together.goesOn, values, ?_, ?_, together.count_debug⟩
  · have named := together.named
    simpa [values] using named
  · rcases shape : Part.paths parts with _ | ⟨path, _ | ⟨second, later⟩⟩
    · exact .inl ⟨rfl, rfl⟩
    · have filled := together.filled
      rw [shape] at filled
      exact .inr ⟨rfl, fun empty => filled (List.mem_singleton.mpr empty.symm)⟩
    · have few := together.fewPaths
      simp [shape] at few

/-- Parts that mean options go together. -/
theorem Means.together
    {parts : List Part}
    {options : Options}
    (means : Means parts options) :
    Together parts := by
  refine ⟨means.goesOn, ?_, ?_, ?_, ?_, ?_⟩
  · rw [means.values]
    exact Nat.le_refl 2
  · rw [means.values]
    simpa using means.capture
  · rcases means.registers with ⟨paths, -⟩ | ⟨paths, -⟩ <;> simp [paths]
  · rcases means.registers with ⟨paths, -⟩ | ⟨paths, filled⟩
    · simp [paths]
    · simpa [paths] using Ne.symm filled
  · rw [means.debug]
    exact Bool.toNat_le options.debug

/-- Parts that mean options amount to them. -/
theorem Means.finish_eq
    {parts : List Part}
    {options : Options}
    (means : Means parts options) :
    (State.ofParts parts).finish = .ok options := by
  have flag : parts.contains .debug = options.debug := by
    have count := means.together.count_debug
    rw [means.debug] at count
    generalize parts.contains .debug = given at count ⊢
    revert count
    cases given <;> cases options.debug <;> decide
  have path :
      (Part.paths parts).head?.getD "../fl2000_registers.h" = options.registers := by
    rcases means.registers with ⟨paths, default⟩ | ⟨paths, -⟩
    · rw [paths, default]
      rfl
    · rw [paths]
      rfl
  refine finish_ofParts_eq_ok_iff.mpr ⟨_, _, means.values, ?_⟩
  rw [path, flag]

/-- A command line is valid exactly if its parts mean some options, and then it gives these. -/
theorem parse_eq_ok_iff
    {arguments : List String}
    {options : Options} :
    parse arguments = .ok options ↔ Means (parts arguments) options := by
  rw [parse_eq_foldlM_parts]
  constructor
  · intro parsed
    cases taken : (parts arguments).foldlM State.takePart {} with
    | error stop =>
        rw [taken] at parsed
        cases parsed
    | ok state =>
        rcases foldlM_takePart_eq_ok_iff.mp taken with ⟨together, rfl⟩
        rw [taken] at parsed
        exact together.means parsed
  · intro means
    rw [foldlM_takePart_eq_ok_iff.mpr ⟨means.together, rfl⟩]
    exact means.finish_eq

/-! ## The flag -/

/-- Options without the flag. -/
def Options.quiet (options : Options) : Options :=
  { options with debug := false }

/-- What was read so far without the flag. -/
def State.quiet (state : State) : State :=
  { state with debug := false }

/-- Two command lines that say the same but for the flag, which each may give once. -/
structure SameButFlag (left right : List String) : Prop where
  same : (parts left).filter (· ≠ .debug) = (parts right).filter (· ≠ .debug)
  left : (parts left).count .debug ≤ 1
  right : (parts right).count .debug ≤ 1

theorem SameButFlag.symm
    {left right : List String}
    (same : SameButFlag left right) :
    SameButFlag right left :=
  ⟨same.same.symm, same.right, same.left⟩

theorem takeRegisters_quiet
    (state : State)
    (path : String) :
    state.quiet.takeRegisters path = (state.takeRegisters path).map State.quiet := by
  rw [State.takeRegisters, State.takeRegisters]
  by_cases refused : path.isEmpty ∨ state.registers.isSome = true
  · rw [if_pos refused]
    exact if_pos refused
  · rw [if_neg refused]
    exact if_neg refused

/-- Any other part is taken alike with and without the flag. -/
theorem takePart_quiet
    {part : Part}
    (other : part ≠ .debug)
    (state : State) :
    state.quiet.takePart part = (state.takePart part).map State.quiet := by
  cases part with
  | value text =>
      rw [State.takePart, State.takePart]
      cases awaits : state.awaitsRegisters with
      | true =>
          have quietAwaits : state.quiet.awaitsRegisters = true := awaits
          rw [State.takeValue, State.takeValue, if_pos awaits, if_pos quietAwaits]
          exact takeRegisters_quiet state text
      | false =>
          have quietAwaits : state.quiet.awaitsRegisters = false := awaits
          have sameValues : state.quiet.values = state.values := rfl
          rw [State.takeValue_eq awaits, State.takeValue_eq quietAwaits, sameValues]
          split
          · split <;> rfl
          · rfl
          · rfl
  | registers path => exact takeRegisters_quiet state path
  | debug => exact absurd rfl other
  | stop reason => rfl

/-- Parts with the flag given at most once are taken as those without it. -/
theorem foldlM_takePart_quiet
    {parts : List Part}
    {state : State}
    (ready : state.Ready)
    (few : parts.count .debug + state.debug.toNat ≤ 1) :
    Except.map State.quiet (parts.foldlM State.takePart state) =
      (parts.filter (· ≠ .debug)).foldlM State.takePart state.quiet := by
  induction parts generalizing state with
  | nil => rfl
  | cons part rest inductionHypothesis =>
      by_cases flag : part = .debug
      · -- The flag is given for the first time, so it is taken, and the others give it no more.
        subst flag
        rw [List.count_cons_self] at few
        have unset : state.debug = false := by
          cases given : state.debug with
          | false => rfl
          | true =>
              rw [given, Bool.toNat_true] at few
              omega
        have taken : state.takePart .debug = .ok { state with debug := true } := by
          rw [State.takePart, State.takeDebug, unset]
          rfl
        rw [unset, Bool.toNat_false] at few
        rw [List.foldlM_cons, taken, List.filter_cons_of_neg (by simp)]
        exact inductionHypothesis (ready.of_takePart taken) few
      · rw [List.count_cons_of_ne flag] at few
        rw [List.foldlM_cons, List.filter_cons_of_pos (by simpa using flag), List.foldlM_cons,
          takePart_quiet flag]
        cases taken : state.takePart part with
        | error stop => rfl
        | ok next =>
            have same : next.debug = state.debug := by
              rcases ready.takePart_cases taken with ⟨values, rfl⟩ | ⟨path, rfl⟩ | ⟨isFlag, -⟩
              · rfl
              · rfl
              · exact absurd isFlag flag
            rw [← same] at few
            exact inductionHypothesis (ready.of_takePart taken) few

theorem finish_quiet
    (state : State) :
    state.quiet.finish = state.finish.map Options.quiet := by
  have sameValues : state.quiet.values = state.values := rfl
  rw [State.finish, State.finish, sameValues]
  split
  · by_cases awaits : state.awaitsRegisters = true
    · rw [if_pos awaits]
      exact if_pos awaits
    · rw [if_neg awaits]
      exact if_neg awaits
  · rfl

/-- Without the flag, a command line means the same otherwise, and stops in the same way. -/
theorem map_quiet_parse
    {arguments : List String}
    (few : (parts arguments).count .debug ≤ 1) :
    (parse arguments).map Options.quiet =
      ((parts arguments).filter (· ≠ .debug)).foldlM State.takePart {} >>= State.finish := by
  have without :
      Except.map State.quiet ((parts arguments).foldlM State.takePart {}) =
        ((parts arguments).filter (· ≠ .debug)).foldlM State.takePart {} :=
    foldlM_takePart_quiet ⟨rfl, rfl⟩ few
  rw [parse_eq_foldlM_parts, ← without]
  cases (parts arguments).foldlM State.takePart {} with
  | error stop => rfl
  | ok state => exact (finish_quiet state).symm

/-- Command lines that are the same but for the flag give the same other options. -/
theorem SameButFlag.map_quiet_parse
    {left right : List String}
    (same : SameButFlag left right) :
    (parse left).map Options.quiet = (parse right).map Options.quiet := by
  rw [CommandLine.map_quiet_parse same.left, CommandLine.map_quiet_parse same.right, same.same]

/-- Command lines that are the same but for the flag stop alike or give the same other options. -/
theorem SameButFlag.parse_cases
    {left right : List String}
    (same : SameButFlag left right) :
    (∃ stop, parse left = .error stop ∧ parse right = .error stop) ∨
      ∃ leftOptions rightOptions,
        parse left = .ok leftOptions ∧
          parse right = .ok rightOptions ∧ leftOptions.quiet = rightOptions.quiet := by
  have sameParse := same.map_quiet_parse
  cases leftParsed : parse left with
  | error leftStop =>
      cases rightParsed : parse right with
      | error rightStop =>
          rw [leftParsed, rightParsed] at sameParse
          cases sameParse
          exact .inl ⟨leftStop, rfl, rfl⟩
      | ok rightOptions =>
          rw [leftParsed, rightParsed] at sameParse
          cases sameParse
  | ok leftOptions =>
      cases rightParsed : parse right with
      | error rightStop =>
          rw [leftParsed, rightParsed] at sameParse
          cases sameParse
      | ok rightOptions =>
          rw [leftParsed, rightParsed] at sameParse
          exact .inr ⟨leftOptions, rightOptions, rfl, rfl, Except.ok.inj sameParse⟩

/-- Command lines that are the same but for the flag are refused together. -/
theorem SameButFlag.refused
    {left right : List String}
    (same : SameButFlag left right)
    (refused : parse left = .error .usage) :
    parse right = .error .usage := by
  rcases same.parse_cases with ⟨stop, leftStops, rightStops⟩ | ⟨options, -, leftParsed, -, -⟩
  · rw [rightStops, ← leftStops, refused]
  · rw [refused] at leftParsed
    cases leftParsed

end RegisterTrace.CommandLine
