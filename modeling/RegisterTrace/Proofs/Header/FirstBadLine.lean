import RegisterTrace.Proofs.Header.Feeding
import RegisterTrace.Proofs.Source

/-!
# The first bad line of a header

A line of bytes is bad if it is no text or if it is refused after the texts before it.  The first
bad line of a header is its error, and nothing behind it matters.  A header without bad lines is
accepted if its source ends.  If the source breaks instead, then what stands behind the last line
feed is no line: it is neither checked nor applied, and the header is refused in any case.
-/

namespace RegisterTrace.Header

/-! ## Bad lines -/

/-- The line that an error names by its number, if it names one. -/
def Error.line? : Error → Option Nat
  | fieldWithoutRegister line => some line
  | unknownBase _ line => some line
  | addressOverflow _ line => some line
  | unreadable _ => none

/-- Why a line of bytes is bad after some others: it is no text, or refused after the texts. -/
inductive Bad (before : List (List UInt8)) (line : List UInt8) : Error → Prop where
  | notText
      (undecoded : Utf8.decode? line = none) :
      Bad before line (.unreadable .notText)
  | refused
      {text : String}
      {error : Error}
      (decoded : Utf8.decode? line = some text)
      (refused : ((fed (before.filterMap Utf8.decode?)).addLine text).result = .error error) :
      Bad before line error

/-- None of some lines is bad. -/
def AllGood (lines : List (List UInt8)) : Prop :=
  Throughout (fun before line => ∀ error, ¬ Bad before line error) lines

/-- The first bad line of some lines is bad for a reason, which may name its place. -/
def FirstBad (lines : List (List UInt8)) (error : Error) : Prop :=
  ∃ before line after,
    lines = before ++ line :: after ∧
      AllGood before ∧
        Bad before line error ∧ ∀ number, error.line? = some number → number = before.length + 1

/-- Reads lines of bytes. -/
def readBytes (lines : List (List UInt8)) : Outcome Builder Error Unit :=
  Outcome.run Builder.addRead {} (lines.map Source.line)

variable
    {lines before after : List (List UInt8)}
    {line : List UInt8}
    {error : Error}

/-! ## Runs over lines of bytes -/

theorem filterMap_decode?_of_text
    {texts : List String}
    (text : lines.map Source.line = texts.map .ok) :
    lines.filterMap Utf8.decode? = texts := by
  have decode : Utf8.decode? = Except.toOption ∘ Source.line := by
    funext bytes
    rw [Function.comp_apply, Source.line]
    cases Utf8.decode? bytes with
    | none => rfl
    | some found => rfl
  rw [decode, ← List.filterMap_map, text, List.filterMap_map]
  exact List.filterMap_some

/-- Accepted lines are texts, and leave the builder that was fed these. -/
theorem state_of_accepted
    (accepted : (readBytes lines).result = .ok ()) :
    (readBytes lines).state = fed (lines.filterMap Utf8.decode?) ∧
      (lines.filterMap Utf8.decode?).length = lines.length := by
  rcases exists_text_of_accepted accepted with ⟨texts, text⟩
  have same : readBytes lines = readLines texts := by
    rw [readBytes, text, run_addRead_map_ok, readLines]
  have sameLength := congrArg List.length text
  rw [List.length_map, List.length_map] at sameLength
  rw [same] at accepted ⊢
  rw [filterMap_decode?_of_text text]
  exact ⟨after_eq_fed accepted, sameLength.symm⟩

/-- A line is refused after accepted ones exactly if it is bad after them. -/
theorem addRead_refused_iff_bad
    (accepted : (readBytes before).result = .ok ()) :
    ((readBytes before).state.addRead (Source.line line)).result = .error error ↔
      Bad before line error := by
  rw [(state_of_accepted accepted).1, Source.line]
  constructor
  · intro refused
    cases decoded : Utf8.decode? line with
    | none =>
        rw [decoded] at refused
        cases refused
        exact .notText decoded
    | some text =>
        rw [decoded] at refused
        exact .refused decoded refused
  · intro bad
    cases bad with
    | notText undecoded =>
        rw [undecoded]
        rfl
    | refused decoded refused =>
        rw [decoded]
        exact refused

/-- A bad line behind accepted ones is the error, whatever comes behind it. -/
theorem readBytes_of_bad
    (accepted : (readBytes before).result = .ok ())
    (bad : Bad before line error)
    (after : List (List UInt8)) :
    (readBytes (before ++ line :: after)).result = .error error := by
  rw [readBytes, List.map_append, List.map_cons]
  exact (Outcome.run_of_refused accepted ((addRead_refused_iff_bad accepted).mpr bad) _).1

/-- What is refused has a bad line behind accepted ones. -/
theorem exists_bad_of_refused
    (refused : (readBytes lines).result = .error error) :
    ∃ before line after,
      lines = before ++ line :: after ∧
        (readBytes before).result = .ok () ∧ Bad before line error := by
  rcases Outcome.run_refused refused with ⟨front, item, back, split, accepted, stopped, -⟩
  rcases List.map_eq_append_iff.mp split with ⟨before, others, rfl, rfl, sameOthers⟩
  rcases List.map_eq_cons_iff.mp sameOthers with ⟨line, after, rfl, rfl, -⟩
  exact ⟨before, line, after, rfl, accepted, (addRead_refused_iff_bad accepted).mp stopped⟩

theorem readBytes_accepted_iff :
    (readBytes lines).result = .ok () ↔ AllGood lines := by
  constructor
  · rintro accepted before line after rfl error bad
    have soFar : (readBytes before).result = .ok () := by
      rw [readBytes, List.map_append] at accepted
      exact Outcome.run_accepted_of_append accepted
    rw [readBytes_of_bad soFar bad after] at accepted
    cases accepted
  · intro good
    cases result : (readBytes lines).result with
    | ok value => rfl
    | error error =>
        rcases exists_bad_of_refused result with ⟨before, line, after, split, -, bad⟩
        exact absurd bad (good before line after split error)

/-- A refusal that names a line names the one that is refused. -/
theorem number_of_bad
    (good : AllGood before)
    (bad : Bad before line error)
    {number : Nat}
    (named : error.line? = some number) :
    number = before.length + 1 := by
  rw [← (state_of_accepted (readBytes_accepted_iff.mpr good)).2]
  cases bad with
  | notText undecoded => cases named
  | refused decoded refused =>
      rw [Builder.addLine_refused_iff, refuses_iff_faulty] at refused
      cases refused with
      | field said nowhere => exact (Option.some.inj named).symm
      | unknownBase said unknown => exact (Option.some.inj named).symm
      | overflow said known large => exact (Option.some.inj named).symm

theorem readBytes_refused_iff :
    (readBytes lines).result = .error error ↔ FirstBad lines error := by
  constructor
  · intro refused
    rcases exists_bad_of_refused refused with ⟨before, line, after, split, accepted, bad⟩
    have good := readBytes_accepted_iff.mp accepted
    exact ⟨before, line, after, split, good, bad, fun number => number_of_bad good bad⟩
  · rintro ⟨before, line, after, rfl, good, bad, -⟩
    exact readBytes_of_bad (readBytes_accepted_iff.mpr good) bad after

/-! ## Sources -/

/-- The lines of a source that ends: what stands behind the last line feed is one, if not empty. -/
def withRest (ended : List (List UInt8)) (rest : List UInt8) : List (List UInt8) :=
  ended ++ if rest = [] then [] else [rest]

variable
    {bytes rest : List UInt8}
    {ended : List (List UInt8)}

theorem read_finished
    (cut : Source.Cut bytes ended rest) :
    read ⟨bytes, .finished⟩ = readBytes (withRest (ended.map Source.dropReturn) rest) := by
  have atEnd :
      Source.remainder rest .finished = (if rest = [] then [] else [rest]).map Source.line := by
    rw [Source.remainder]
    cases rest with
    | nil => rfl
    | cons first more => rfl
  rw [read, cut.lines_eq, atEnd, readBytes, withRest, List.map_append]

/-- A source that breaks gives its failure in place of what is left behind the last line feed. -/
theorem read_broken
    (cut : Source.Cut bytes ended rest)
    (reason : String) :
    read ⟨bytes, .broken reason⟩ =
      Outcome.run Builder.addRead {}
        ((ended.map Source.dropReturn).map Source.line ++ [.error (.broken reason)]) := by
  rw [read, cut.lines_eq]
  rfl

theorem Builder.addRead_broken
    (builder : Builder)
    (reason : String) :
    (builder.addRead (.error (.broken reason))).result =
      .error (.unreadable (.broken reason)) := rfl

/-- A source that breaks is refused for its first bad line, or else because it broke. -/
theorem registers_broken_eq_error_iff
    (cut : Source.Cut bytes ended rest)
    (reason : String) :
    registers ⟨bytes, .broken reason⟩ = .error error ↔
      FirstBad (ended.map Source.dropReturn) error ∨
        (AllGood (ended.map Source.dropReturn) ∧ error = .unreadable (.broken reason)) := by
  rw [registers_eq_error_iff, read_broken cut, ← readBytes_refused_iff, ← readBytes_accepted_iff]
  cases result : (readBytes (ended.map Source.dropReturn)).result with
  | error other =>
      rw [Outcome.run_append_of_refused result, ← readBytes, result]
      simp
  | ok value =>
      have stops := Outcome.run_of_refused result (Builder.addRead_broken _ reason) []
      rw [stops.1]
      simp [eq_comm]

/-- A source that breaks is never accepted. -/
theorem registers_broken_ne_ok
    (cut : Source.Cut bytes ended rest)
    (reason : String)
    (map : RegisterMap) :
    registers ⟨bytes, .broken reason⟩ ≠ .ok map := by
  have refused_iff (error : Error) :=
    @registers_broken_eq_error_iff error bytes rest ended cut reason
  intro accepted
  cases result : (readBytes (ended.map Source.dropReturn)).result with
  | error error =>
      have refused := (refused_iff error).mpr (.inl (readBytes_refused_iff.mp result))
      rw [accepted] at refused
      cases refused
  | ok value =>
      have refused := (refused_iff _).mpr (.inr ⟨readBytes_accepted_iff.mp result, rfl⟩)
      rw [accepted] at refused
      cases refused

/--
A header is refused exactly if one of its lines is bad, and its error is that of the first bad line,
whatever comes behind that line and even if the source breaks there.  A source that breaks after
good lines is refused because it broke.  What stands behind its last line feed makes no difference.
-/
theorem first_bad_line_decides
    (bytes : List UInt8) :
    ∃ ended rest,
      Source.Cut bytes ended rest ∧
        let completed := ended.map Source.dropReturn
        let lines := withRest completed rest
        ((∃ error, registers ⟨bytes, .finished⟩ = .error error) ↔
            ∃ before line after error, lines = before ++ line :: after ∧ Bad before line error) ∧
          (∀ error, registers ⟨bytes, .finished⟩ = .error error ↔ FirstBad lines error) ∧
            (∀ error,
              FirstBad completed error →
                ∀ more ending,
                  registers ⟨Source.joined ended ++ more, ending⟩ = .error error) ∧
              (∀ reason error,
                registers ⟨bytes, .broken reason⟩ = .error error ↔
                  FirstBad completed error ∨
                    (AllGood completed ∧ error = .unreadable (.broken reason))) ∧
                (∀ reason map, registers ⟨bytes, .broken reason⟩ ≠ .ok map) ∧
                  ∀ reason other,
                    Source.lineFeed ∉ other →
                      read ⟨Source.joined ended ++ other, .broken reason⟩ =
                        read ⟨bytes, .broken reason⟩ := by
  rcases Source.exists_cut bytes with ⟨ended, rest, cut⟩
  refine ⟨ended, rest, cut, ?_⟩
  intro completed lines
  have refused_iff (error : Error) :
      registers ⟨bytes, .finished⟩ = .error error ↔ FirstBad lines error := by
    rw [registers_eq_error_iff, read_finished cut, readBytes_refused_iff]
  refine
    ⟨?_, refused_iff, ?_, fun reason _ => registers_broken_eq_error_iff cut reason, ?_, ?_⟩
  · constructor
    · rintro ⟨error, refused⟩
      rcases (refused_iff error).mp refused with ⟨before, line, after, split, -, bad, -⟩
      exact ⟨before, line, after, error, split, bad⟩
    · rintro ⟨before, line, after, error, split, bad⟩
      have notGood : ¬ AllGood lines := fun good => good before line after split error bad
      rw [← readBytes_accepted_iff] at notGood
      cases result : (readBytes lines).result with
      | ok value => exact absurd result notGood
      | error first => exact ⟨first, (refused_iff first).mpr (readBytes_refused_iff.mp result)⟩
  · intro error first more ending
    rcases Source.exists_cut more with ⟨later, unfinished, cutMore⟩
    have refused := readBytes_refused_iff.mpr first
    rw [registers_eq_error_iff, read, (cut.joined_append cutMore).lines_eq, List.map_append,
      List.map_append, List.append_assoc, Outcome.run_append_of_refused refused]
    exact refused
  · exact registers_broken_ne_ok cut
  · intro reason other noFeed
    have otherCut : Source.Cut (Source.joined ended ++ other) ended other :=
      ⟨rfl, cut.noFeed, noFeed⟩
    rw [read_broken otherCut, read_broken cut]

/--
A line at an unknown base is the error although bytes follow it that are no text, and a field that
comes too early is none if its line is not completed.
-/
theorem refused_before_broken_tail :
    let header := Utf8.encode "#define BASE 0x10\r\n#define A (OTHER + 0x4)\n"
    let unfinished := Utf8.encode "#define BASE 0x10\nu32 early : 1;"
    (∀ ending, registers ⟨header ++ [0xFF], ending⟩ = .error (.unknownBase "OTHER" 2)) ∧
      registers ⟨unfinished, .broken "lost"⟩ = .error (.unreadable (.broken "lost")) := by
  intro header unfinished
  constructor
  · intro ending
    have known :
        Source.Cut header
          [Utf8.encode "#define BASE 0x10\r", Utf8.encode "#define A (OTHER + 0x4)"] [] :=
      ⟨by decide, by decide, by decide⟩
    rcases first_bad_line_decides header with ⟨ended, rest, cut, -, -, followed, -⟩
    rcases cut.unique known with ⟨rfl, rfl⟩
    have refused :
        (readBytes
          ([Utf8.encode "#define BASE 0x10\r", Utf8.encode "#define A (OTHER + 0x4)"].map
            Source.dropReturn)).result = .error (.unknownBase "OTHER" 2) := by
      decide +kernel
    have found := followed _ (readBytes_refused_iff.mp refused) [0xFF] ending
    rw [cut.whole, List.append_nil]
    exact found
  · rcases first_bad_line_decides unfinished with ⟨ended, rest, cut, -, -, -, broken, -⟩
    have known :
        Source.Cut unfinished [Utf8.encode "#define BASE 0x10"] (Utf8.encode "u32 early : 1;") :=
      ⟨by decide, by decide, by decide⟩
    rcases cut.unique known with ⟨rfl, rfl⟩
    have accepted :
        (readBytes ([Utf8.encode "#define BASE 0x10"].map Source.dropReturn)).result = .ok () := by
      decide +kernel
    exact (broken "lost" _).mpr (.inr ⟨readBytes_accepted_iff.mp accepted, rfl⟩)

end RegisterTrace.Header
