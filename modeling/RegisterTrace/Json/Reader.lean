import RegisterTrace.Json.Fault
import RegisterTrace.Source

/-!
# Readers

A reader takes a value off the front of the bytes of a source, or stops with a fault.  What it
leaves is always an end piece of what it was given.  Readers are built from a few steps that look at
one byte, and from `Reader.loop`, the only recursion: it takes one byte each time round.

A reader that needs to know whether a byte follows asks the source for it, and so meets the
failure of a source that breaks there.
-/

namespace RegisterTrace.Json

/-- Takes a value off the front of bytes after which a source ends or breaks. -/
structure Reader (Result : Type) where
  run : Ending → List UInt8 → Except Fault (Result × List UInt8)
  isSuffix_of_run : ∀ {ending bytes result rest},
    run ending bytes = .ok (result, rest) → rest <:+ bytes

namespace Reader

variable {State Result Other : Type}

/-- The reader that takes nothing. -/
protected def pure (result : Result) : Reader Result where
  run _ bytes := .ok (result, bytes)
  isSuffix_of_run := by
    intro ending bytes result rest read
    cases read
    exact List.suffix_refl bytes

/-- Reads a value and then what that value asks for. -/
protected def bind (first : Reader Other) (next : Other → Reader Result) : Reader Result where
  run ending bytes :=
    match first.run ending bytes with
    | .error fault => .error fault
    | .ok (result, rest) => (next result).run ending rest
  isSuffix_of_run := by
    intro ending bytes result rest read
    split at read
    · cases read
    · next firstRead =>
        exact ((next _).isSuffix_of_run read).trans (first.isSuffix_of_run firstRead)

instance : Monad Reader where
  pure := Reader.pure
  bind := Reader.bind

/-- The reader that stops with a fault. -/
def fail (fault : Fault) : Reader Result where
  run _ _ := .error fault
  isSuffix_of_run := by
    intro ending bytes result rest read
    cases read

/-- Stops with a breach of the grammar. -/
def slip (slip : Slip) : Reader Result :=
  fail (.malformed slip)

/-- The answer of a source that is asked for a byte after its last. -/
def afterLast (ending : Ending) : Except Fault (Option UInt8 × List UInt8) :=
  match ending with
  | .finished => .ok (none, [])
  | .broken reason => .error (.unreadable reason)

/-- Looks at the next byte, if one follows. -/
def peek : Reader (Option UInt8) where
  run ending bytes :=
    match bytes with
    | [] => afterLast ending
    | byte :: rest => .ok (some byte, byte :: rest)
  isSuffix_of_run := by
    intro ending bytes result rest read
    cases bytes with
    | nil =>
        cases ending with
        | finished => cases read; exact List.suffix_refl []
        | broken reason => cases read
    | cons byte tail => cases read; exact List.suffix_refl (byte :: tail)

/-- Takes the next byte, if one follows. -/
def next : Reader (Option UInt8) where
  run ending bytes :=
    match bytes with
    | [] => afterLast ending
    | byte :: rest => .ok (some byte, rest)
  isSuffix_of_run := by
    intro ending bytes result rest read
    cases bytes with
    | nil =>
        cases ending with
        | finished => cases read; exact List.suffix_refl []
        | broken reason => cases read
    | cons byte tail => cases read; exact List.suffix_cons byte _

/-- Takes the longest run of accepted bytes and asks for none after it. -/
def span (accepts : UInt8 → Bool) : Reader (List UInt8) where
  run _ bytes := .ok (bytes.takeWhile accepts, bytes.dropWhile accepts)
  isSuffix_of_run := by
    intro ending bytes result rest read
    cases read
    exact List.dropWhile_suffix accepts

/-- Looks at the next of the bytes that were delivered, without asking the source for one. -/
def glance : Reader (Option UInt8) where
  run _ bytes := .ok (bytes.head?, bytes)
  isSuffix_of_run := by
    intro ending bytes result rest read
    cases read
    exact List.suffix_refl bytes

/-- Whether a loop goes on or is over. -/
inductive Turn (State Result : Type) where
  | again (state : State)
  | done (result : Result)

/-- Takes bytes one by one and reads with each what a step asks for, until a step is done. -/
def runLoop
    (step : State → UInt8 → Reader (Turn State Result))
    (atEnd : State → Fault)
    (ending : Ending)
    (state : State)
    (bytes : List UInt8) :
    Except Fault (Result × List UInt8) :=
  match bytes with
  | [] =>
      match ending with
      | .finished => .error (atEnd state)
      | .broken reason => .error (.unreadable reason)
  | byte :: tail =>
      match read : (step state byte).run ending tail with
      | .error fault => .error fault
      | .ok (.again following, rest) =>
          have := ((step state byte).isSuffix_of_run read).length_le
          runLoop step atEnd ending following rest
      | .ok (.done result, rest) => .ok (result, rest)
termination_by bytes.length
decreasing_by
  simp only [List.length_cons]
  omega

theorem isSuffix_of_runLoop
    (step : State → UInt8 → Reader (Turn State Result))
    (atEnd : State → Fault)
    (ending : Ending)
    (state : State)
    (bytes : List UInt8)
    {result : Result}
    {rest : List UInt8}
    (read : runLoop step atEnd ending state bytes = .ok (result, rest)) :
    rest <:+ bytes := by
  fun_induction runLoop step atEnd ending state bytes with
  | case1 => cases read
  | case2 => cases read
  | case3 => cases read
  | case4 state byte tail following middle stepRead _ inductionHypothesis =>
      have later := inductionHypothesis read
      have earlier := (step state byte).isSuffix_of_run stepRead
      exact (later.trans earlier).trans (List.suffix_cons byte tail)
  | case5 state byte tail result rest stepRead =>
      cases read
      have earlier := (step state byte).isSuffix_of_run stepRead
      exact earlier.trans (List.suffix_cons byte tail)

/--
Takes bytes one by one until a step is done.  Bytes that end before that are the fault which the
state names.
-/
def loop
    (step : State → UInt8 → Reader (Turn State Result))
    (atEnd : State → Fault)
    (state : State) :
    Reader Result where
  run ending bytes := runLoop step atEnd ending state bytes
  isSuffix_of_run := isSuffix_of_runLoop step atEnd _ state _

/-! ## What readers give -/

@[ext]
theorem ext
    {left right : Reader Result}
    (same : ∀ ending bytes, left.run ending bytes = right.run ending bytes) :
    left = right := by
  cases left
  cases right
  congr
  funext ending bytes
  exact same ending bytes

@[simp]
theorem run_pure
    (result : Result)
    (ending : Ending)
    (bytes : List UInt8) :
    (pure result : Reader Result).run ending bytes = .ok (result, bytes) := rfl

@[simp]
theorem run_bind
    (first : Reader Other)
    (next : Other → Reader Result)
    (ending : Ending)
    (bytes : List UInt8) :
    (first >>= next).run ending bytes =
      match first.run ending bytes with
      | .error fault => .error fault
      | .ok (result, rest) => (next result).run ending rest := rfl

@[simp]
theorem run_fail
    (fault : Fault)
    (ending : Ending)
    (bytes : List UInt8) :
    (fail fault : Reader Result).run ending bytes = .error fault := rfl

theorem map_id
    (reader : Reader Result) :
    id <$> reader = reader := by
  ext ending bytes
  change (reader >>= pure).run ending bytes = reader.run ending bytes
  rw [run_bind]
  cases reader.run ending bytes <;> rfl

theorem bind_assoc
    {Third : Type}
    (first : Reader Other)
    (next : Other → Reader Result)
    (last : Result → Reader Third) :
    first >>= next >>= last = first >>= fun value => next value >>= last := by
  ext ending bytes
  simp only [run_bind]
  cases first.run ending bytes <;> rfl

instance : LawfulMonad Reader :=
  LawfulMonad.mk' Reader map_id (fun _ _ => rfl) bind_assoc

/-- A loop whose bytes are used up stops. -/
theorem run_loop_nil
    (step : State → UInt8 → Reader (Turn State Result))
    (atEnd : State → Fault)
    (state : State)
    (ending : Ending) :
    (loop step atEnd state).run ending [] =
      match ending with
      | .finished => .error (atEnd state)
      | .broken reason => .error (.unreadable reason) := by
  change runLoop step atEnd ending state [] = _
  rw [runLoop.eq_def]

/-- A loop takes one byte and goes on as the step says. -/
theorem run_loop_cons
    (step : State → UInt8 → Reader (Turn State Result))
    (atEnd : State → Fault)
    (state : State)
    (ending : Ending)
    (byte : UInt8)
    (tail : List UInt8) :
    (loop step atEnd state).run ending (byte :: tail) =
      match (step state byte).run ending tail with
      | .error fault => .error fault
      | .ok (.again following, rest) => (loop step atEnd following).run ending rest
      | .ok (.done result, rest) => .ok (result, rest) := by
  change runLoop step atEnd ending state (byte :: tail) = _
  rw [runLoop.eq_def]
  dsimp only
  split
  · next stepRead => simp only [stepRead]
  · next stepRead => simp only [stepRead, loop]
  · next stepRead => simp only [stepRead]

end Reader

/-! ## Bytes -/

/-- The byte of an ASCII character. -/
def byte (character : Char) : UInt8 :=
  UInt8.ofNat character.toNat

/-- Whether a byte may stand between the parts of a text. -/
def isSpace (value : UInt8) : Bool :=
  value == 0x20 || value == 0x0A || value == 0x09 || value == 0x0D

/-- Whether a byte is a decimal digit. -/
def isDigit (value : UInt8) : Bool :=
  0x30 ≤ value && value ≤ 0x39

namespace Reader

/-- Takes the spaces in front. -/
def spaces : Reader Unit := do
  let _ ← span isSpace
  return ()

/-- Looks at the next byte that is not a space. -/
def peekToken : Reader (Option UInt8) := do
  spaces
  peek

/-- Takes the next byte that is not a space. -/
def nextToken : Reader (Option UInt8) := do
  spaces
  next

/-- Takes bytes that spell the rest of a word. -/
def word (characters : List UInt8) : Reader Unit :=
  match characters with
  | [] => pure ()
  | expected :: more => do
      match ← next with
      | none => fail (.ended .value)
      | some found => if found = expected then word more else slip .unknownWord

/-- Takes the colon after a key. -/
def colon : Reader Unit := do
  match ← nextToken with
  | none => fail (.ended .object)
  | some found => if found = byte ':' then pure () else slip .noColon

end Reader

end RegisterTrace.Json
