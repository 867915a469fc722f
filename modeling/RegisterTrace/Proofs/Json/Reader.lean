import RegisterTrace.Proofs.Json.Grammar

/-!
# What a successful reader took

A reader that gives a value took some bytes off the front and left the others.  Each step of a
reader says which bytes these can be, and a loop that gives a value is a chain of turns, so what
holds of its last turn and is kept from every turn to the one before it holds of the whole loop.
-/

namespace RegisterTrace.Json.Reader

variable
    {State Result Other : Type}
    {ending : Ending}
    {bytes rest : List UInt8}

/-! ## Steps -/

theorem run_bind_eq_ok_iff
    {first : Reader Other}
    {next : Other → Reader Result}
    {result : Result} :
    (first >>= next).run ending bytes = .ok (result, rest) ↔
      ∃ value middle,
        first.run ending bytes = .ok (value, middle) ∧
          (next value).run ending middle = .ok (result, rest) := by
  rw [run_bind]
  cases read : first.run ending bytes with
  | error fault =>
      constructor
      · intro impossible
        cases impossible
      · rintro ⟨value, middle, impossible, -⟩
        cases impossible
  | ok made =>
      constructor
      · intro later
        exact ⟨made.1, made.2, rfl, later⟩
      · rintro ⟨value, middle, same, later⟩
        cases same
        exact later

theorem run_bind_of_ok
    {first : Reader Other}
    {next : Other → Reader Result}
    {value : Other}
    (read : first.run ending bytes = .ok (value, rest)) :
    (first >>= next).run ending bytes = (next value).run ending rest := by
  rw [run_bind, read]

theorem run_pure_eq_ok_iff
    {value result : Result} :
    (pure value : Reader Result).run ending bytes = .ok (result, rest) ↔
      value = result ∧ bytes = rest := by
  rw [run_pure, Except.ok.injEq, Prod.mk.injEq]

theorem run_map_eq_ok_iff
    {first : Reader Other}
    {change : Other → Result}
    {result : Result} :
    (change <$> first).run ending bytes = .ok (result, rest) ↔
      ∃ value, first.run ending bytes = .ok (value, rest) ∧ change value = result := by
  rw [map_eq_pure_bind, run_bind_eq_ok_iff]
  constructor
  · rintro ⟨value, middle, read, made⟩
    rcases run_pure_eq_ok_iff.mp made with ⟨same, rfl⟩
    exact ⟨value, read, same⟩
  · rintro ⟨value, read, same⟩
    exact ⟨value, rest, read, run_pure_eq_ok_iff.mpr ⟨same, rfl⟩⟩

@[simp]
theorem run_peek_cons
    (value : UInt8)
    (tail : List UInt8) :
    peek.run ending (value :: tail) = .ok (some value, value :: tail) := rfl

@[simp]
theorem run_next_cons
    (value : UInt8)
    (tail : List UInt8) :
    next.run ending (value :: tail) = .ok (some value, tail) := rfl

/-- A byte that was looked at is the next one, and there is none only at the end. -/
theorem run_peek_eq_ok_iff
    {found : Option UInt8} :
    peek.run ending bytes = .ok (found, rest) ↔
      bytes = rest ∧ bytes.head? = found ∧ (bytes = [] → ending = .finished) := by
  cases bytes with
  | nil =>
      cases ending with
      | finished => simp [peek, afterLast, eq_comm, and_comm]
      | broken reason => simp [peek, afterLast]
  | cons value tail => simp [eq_comm, and_comm]

/-- A byte that was taken was the next one, and there was none only at the end. -/
theorem run_next_eq_ok_iff
    {found : Option UInt8} :
    next.run ending bytes = .ok (found, rest) ↔
      (∃ value, found = some value ∧ bytes = value :: rest) ∨
        found = none ∧ bytes = [] ∧ rest = [] ∧ ending = .finished := by
  cases bytes with
  | nil =>
      cases ending with
      | finished => simp [next, afterLast, eq_comm]
      | broken reason => simp [next, afterLast]
  | cons value tail => simp [eq_comm]

/-! ## Loops -/

/-- A loop that gives a value took a byte, and the step was the last one or the loop went on. -/
theorem run_loop_eq_ok_iff
    {step : State → UInt8 → Reader (Turn State Result)}
    {atEnd : State → Fault}
    {state : State}
    {result : Result} :
    (loop step atEnd state).run ending bytes = .ok (result, rest) ↔
      ∃ value tail,
        bytes = value :: tail ∧
          ((step state value).run ending tail = .ok (.done result, rest) ∨
            ∃ following middle,
              (step state value).run ending tail = .ok (.again following, middle) ∧
                (loop step atEnd following).run ending middle = .ok (result, rest)) := by
  cases bytes with
  | nil =>
      rw [run_loop_nil]
      cases ending <;> simp
  | cons value tail =>
      rw [run_loop_cons]
      cases read : (step state value).run ending tail with
      | error fault => simp [read]
      | ok made =>
          rcases made with ⟨turn, middle⟩
          cases turn with
          | again following => simp [read]
          | done last => simp [read]

/--
What holds where a loop gives its value, and at each byte if it holds after the turn that this byte
leads to, holds where the loop started.
-/
theorem run_loop_induction
    {step : State → UInt8 → Reader (Turn State Result)}
    {atEnd : State → Fault}
    {result : Result}
    {motive : State → List UInt8 → Prop}
    (done :
      ∀ state value tail,
        (step state value).run ending tail = .ok (.done result, rest) →
          motive state (value :: tail))
    (again :
      ∀ state value tail following middle,
        (step state value).run ending tail = .ok (.again following, middle) →
          motive following middle → motive state (value :: tail))
    {state : State}
    {bytes : List UInt8}
    (read : (loop step atEnd state).run ending bytes = .ok (result, rest)) :
    motive state bytes := by
  -- Every turn leaves fewer bytes than there were.
  induction count : bytes.length using Nat.strongRecOn generalizing state bytes with
  | ind count inductionHypothesis =>
      rcases run_loop_eq_ok_iff.mp read with
        ⟨value, tail, rfl, last | ⟨following, middle, stepRead, later⟩⟩
      · exact done state value tail last
      · have shorter := ((step state value).isSuffix_of_run stepRead).length_le
        refine again state value tail following middle stepRead ?_
        refine inductionHypothesis middle.length ?_ later rfl
        rw [← count, List.length_cons]
        omega

/-- A loop that goes on over spaces as it was can be read behind them. -/
theorem run_loop_spaces
    {step : State → UInt8 → Reader (Turn State Result)}
    {atEnd : State → Fault}
    {state : State}
    (skips : ∀ value, isSpace value → step state value = pure (.again state))
    {gap : List UInt8}
    (spaces : Spaces gap)
    (bytes : List UInt8) :
    (loop step atEnd state).run ending (gap ++ bytes) =
      (loop step atEnd state).run ending bytes := by
  induction gap with
  | nil => rfl
  | cons first more inductionHypothesis =>
      rcases List.forall_mem_cons.mp spaces with ⟨space, spacesMore⟩
      rw [List.cons_append, run_loop_cons, skips first space]
      exact inductionHypothesis spacesMore

/-! ## Tokens -/

theorem run_spaces
    (ending : Ending)
    (bytes : List UInt8) :
    Reader.spaces.run ending bytes = .ok ((), bytes.dropWhile isSpace) := rfl

/-- Dropping spaces leaves what a byte starts that is no space, or nothing. -/
theorem dropWhile_isSpace_eq_iff
    (stops : ∀ value, rest.head? = some value → isSpace value = false) :
    bytes.dropWhile isSpace = rest ↔ ∃ gap, Spaces gap ∧ bytes = gap ++ rest := by
  constructor
  · rintro rfl
    refine ⟨bytes.takeWhile isSpace, ?_, List.takeWhile_append_dropWhile.symm⟩
    intro value member
    exact List.all_eq_true.mp List.all_takeWhile value member
  · rintro ⟨gap, spaces, rfl⟩
    rw [List.dropWhile_append_of_pos spaces]
    cases rest with
    | nil => rfl
    | cons first more => rw [List.dropWhile_cons_of_neg (by simp [stops first rfl])]

theorem head?_dropWhile_isSpace
    {value : UInt8}
    {more : List UInt8}
    (left : bytes.dropWhile isSpace = value :: more) :
    isSpace value = false := by
  have head := List.head?_dropWhile_not isSpace bytes
  rw [left] at head
  simpa using head

/-- The next token that is looked at is behind the spaces, and there is none only at the end. -/
theorem run_peekToken_eq_ok_iff
    {found : Option UInt8} :
    peekToken.run ending bytes = .ok (found, rest) ↔
      ∃ gap,
        Spaces gap ∧
          bytes = gap ++ rest ∧
            rest.head? = found ∧
              (∀ value, found = some value → isSpace value = false) ∧
                (rest = [] → ending = .finished) := by
  have looked : peekToken.run ending bytes = peek.run ending (bytes.dropWhile isSpace) := by
    rw [peekToken, run_bind_of_ok (run_spaces ending bytes)]
  rw [looked, run_peek_eq_ok_iff]
  constructor
  · rintro ⟨left, head, atEnd⟩
    have stops : ∀ value, rest.head? = some value → isSpace value = false := by
      intro value first
      rcases List.head?_eq_some_iff.mp first with ⟨more, rfl⟩
      exact head?_dropWhile_isSpace left
    rcases (dropWhile_isSpace_eq_iff stops).mp left with ⟨gap, spaces, split⟩
    rw [left] at head atEnd
    refine ⟨gap, spaces, split, head, ?_, atEnd⟩
    intro value same
    exact stops value (head.trans same)
  · rintro ⟨gap, spaces, split, head, stops, atEnd⟩
    have left : bytes.dropWhile isSpace = rest := by
      rw [dropWhile_isSpace_eq_iff fun value first => stops value (head.symm.trans first)]
      exact ⟨gap, spaces, split⟩
    rw [left]
    exact ⟨rfl, head, atEnd⟩

theorem run_peekToken_of_gap
    {gap : List UInt8}
    (spaces : Spaces gap)
    {value : UInt8}
    (noSpace : isSpace value = false)
    (more : List UInt8) :
    peekToken.run ending (gap ++ value :: more) = .ok (some value, value :: more) := by
  rw [run_peekToken_eq_ok_iff]
  refine ⟨gap, spaces, rfl, rfl, ?_, nofun⟩
  rintro _ ⟨⟩
  exact noSpace

/-- Behind spaces that end where the source breaks, looking for a token meets the failure. -/
theorem run_peekToken_of_broken
    {gap : List UInt8}
    (spaces : Spaces gap)
    (reason : String) :
    peekToken.run (.broken reason) gap = .error (.unreadable reason) := by
  have left : gap.dropWhile isSpace = [] :=
    (dropWhile_isSpace_eq_iff (by simp)).mpr ⟨gap, spaces, (List.append_nil gap).symm⟩
  rw [peekToken, run_bind_of_ok (run_spaces _ gap), left]
  rfl

/-- The next token that is taken is the first byte behind the spaces. -/
theorem run_nextToken_eq_some_iff
    {value : UInt8} :
    nextToken.run ending bytes = .ok (some value, rest) ↔
      isSpace value = false ∧ ∃ gap, Spaces gap ∧ bytes = gap ++ value :: rest := by
  have taken : nextToken.run ending bytes = next.run ending (bytes.dropWhile isSpace) := by
    rw [nextToken, run_bind_of_ok (run_spaces ending bytes)]
  rw [taken, run_next_eq_ok_iff]
  constructor
  · rintro (⟨other, same, left⟩ | ⟨impossible, -⟩)
    · cases same
      have noSpace := head?_dropWhile_isSpace left
      refine ⟨noSpace, (dropWhile_isSpace_eq_iff ?_).mp left⟩
      rintro _ ⟨⟩
      exact noSpace
    · cases impossible
  · rintro ⟨noSpace, split⟩
    refine .inl ⟨value, rfl, (dropWhile_isSpace_eq_iff ?_).mpr split⟩
    rintro _ ⟨⟩
    exact noSpace

theorem run_nextToken_of_gap
    {gap : List UInt8}
    (spaces : Spaces gap)
    {value : UInt8}
    (noSpace : isSpace value = false)
    (more : List UInt8) :
    nextToken.run ending (gap ++ value :: more) = .ok (some value, more) :=
  run_nextToken_eq_some_iff.mpr ⟨noSpace, gap, spaces, rfl⟩

theorem run_word_eq_ok_iff
    {characters : List UInt8}
    {result : Unit} :
    (word characters).run ending bytes = .ok (result, rest) ↔ bytes = characters ++ rest := by
  induction characters generalizing bytes with
  | nil => exact run_pure_eq_ok_iff.trans (and_iff_right rfl)
  | cons expected more inductionHypothesis =>
      rw [word, run_bind_eq_ok_iff]
      constructor
      · rintro ⟨found, middle, taken, read⟩
        cases found with
        | none => cases read
        | some value =>
            simp only at read
            split at read
            · next same =>
                rcases run_next_eq_ok_iff.mp taken with ⟨_, ⟨⟩, rfl⟩ | ⟨impossible, -⟩
                · rw [inductionHypothesis.mp read, same, List.cons_append]
                · cases impossible
            · cases read
      · rintro rfl
        refine ⟨some expected, more ++ rest, rfl, ?_⟩
        simp only [if_true]
        exact inductionHypothesis.mpr rfl

theorem run_colon_eq_ok_iff
    {result : Unit} :
    colon.run ending bytes = .ok (result, rest) ↔
      ∃ gap, Spaces gap ∧ bytes = gap ++ byte ':' :: rest := by
  have noSpace : isSpace (byte ':') = false := by decide
  rw [colon, run_bind_eq_ok_iff]
  constructor
  · rintro ⟨found, middle, taken, read⟩
    cases found with
    | none => cases read
    | some value =>
        simp only at read
        split at read
        · next same =>
            rcases run_pure_eq_ok_iff.mp read with ⟨-, rfl⟩
            rw [same] at taken
            exact (run_nextToken_eq_some_iff.mp taken).2
        · cases read
  · rintro split
    refine ⟨some (byte ':'), rest, run_nextToken_eq_some_iff.mpr ⟨noSpace, split⟩, ?_⟩
    simp only [if_true]
    rfl

end RegisterTrace.Json.Reader
