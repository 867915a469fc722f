import Mathlib.Data.List.TakeWhile
import RegisterTrace.Proofs.Json.Reader

/-!
# Readers that read forward only

What a reader found before its source broke is found as well if the source goes on instead: the
values that it gave stay as they are, and so does the fault that it stopped with, unless that is
the failure itself.  There is one exception.  Behind a comma that must not be there a reader may
look at the bytes delivered so far only, and which fault it names depends on the next of them.

Every step of a reader reads forward, and so does what is built from such steps.  A run of bytes
alone does not, since more bytes may make it longer, but it does together with a step that asks for
the byte after it.
-/

namespace RegisterTrace.Json.Reader

variable
    {State Result Other : Type}
    {reason : String}
    {bytes rest : List UInt8}
    {fault : Fault}

/-! ## Faults that last -/

/-- Bytes end with a comma that nothing but spaces follows. -/
def EndsWithComma (bytes : List UInt8) : Prop :=
  ∃ front gap, Spaces gap ∧ bytes = front ++ byte ',' :: gap

/-- What is wrong with a comma that must not be there, by the bytes behind it. -/
def afterComma (more : List UInt8) : Slip :=
  if (more.dropWhile isSpace).head? = some (byte ']') then .trailingComma else .trailingCharacters

/-- What a fault that was met at the end of some bytes is by the bytes that follow them. -/
inductive Lasting (bytes : List UInt8) : Fault → (List UInt8 → Fault) → Prop
  | always (fault : Fault) : Lasting bytes fault fun _ => fault
  | behindComma
      (ends : EndsWithComma bytes) :
      Lasting bytes (.malformed .trailingCharacters) fun more => .malformed (afterComma more)

/-- A fault of a source that breaks is its failure, or it is there whatever follows. -/
def Settled (reader : Reader Result) (reason : String) (bytes : List UInt8) (fault : Fault) :
    Prop :=
  fault = .unreadable reason ∨
    ∃ later,
      Lasting bytes fault later ∧
        ∀ ending more, reader.run ending (bytes ++ more) = .error (later more)

/-- All faults of a reader are settled where they are met. -/
def FaultsSettle (reader : Reader Result) : Prop :=
  ∀ {reason bytes fault},
    reader.run (.broken reason) bytes = .error fault → reader.Settled reason bytes fault

/-- What a reader takes off a source that breaks is taken off whatever it goes on with. -/
def Extends (reader : Reader Result) (result : Result) (bytes rest : List UInt8) : Prop :=
  ∀ ending more, reader.run ending (bytes ++ more) = .ok (result, rest ++ more)

/-- What a reader found before a source broke is found whatever follows. -/
structure Forward (reader : Reader Result) : Prop where
  taken :
    ∀ {reason bytes result rest},
      reader.run (.broken reason) bytes = .ok (result, rest) → reader.Extends result bytes rest
  settled : reader.FaultsSettle

/-- A reader needs a byte. -/
def Asks (reader : Reader Result) : Prop :=
  ∀ reason, reader.run (.broken reason) [] = .error (.unreadable reason)

/--
A reader reads forward up to a run of bytes that it ends with.  If the bytes are used up there, then
those that follow may make the run longer.
-/
structure EndsWithRun
    (accepts : UInt8 → Bool)
    (lengthen : Result → List UInt8 → Result)
    (reader : Reader Result) :
    Prop where
  taken :
    ∀ {reason bytes result rest},
      reader.run (.broken reason) bytes = .ok (result, rest) →
        reader.Extends result bytes rest ∨
          rest = [] ∧
            ∀ ending more,
              reader.run ending (bytes ++ more) =
                .ok (lengthen result (more.takeWhile accepts), more.dropWhile accepts)
  settled : reader.FaultsSettle

theorem EndsWithComma.of_suffix
    (ends : EndsWithComma rest)
    (suffix : rest <:+ bytes) :
    EndsWithComma bytes := by
  rcases suffix with ⟨before, rfl⟩
  rcases ends with ⟨front, gap, spaces, rfl⟩
  exact ⟨before ++ front, gap, spaces, (List.append_assoc before front _).symm⟩

theorem Lasting.of_suffix
    {later : List UInt8 → Fault}
    (lasting : Lasting rest fault later)
    (suffix : rest <:+ bytes) :
    Lasting bytes fault later := by
  cases lasting with
  | always => exact .always fault
  | behindComma ends => exact .behindComma (ends.of_suffix suffix)

/-! ## Faults met later -/

/-- A fault that is met behind what was taken is settled, if the whole reads as the part does. -/
theorem Settled.of_suffix
    {whole : Reader Result}
    {part : Reader Other}
    (settled : part.Settled reason rest fault)
    (suffix : rest <:+ bytes)
    (same :
      ∀ ending more later,
        part.run ending (rest ++ more) = .error later →
          whole.run ending (bytes ++ more) = .error later) :
    whole.Settled reason bytes fault := by
  rcases settled with failed | ⟨later, lasting, met⟩
  · exact .inl failed
  · exact .inr ⟨later, lasting.of_suffix suffix, fun ending more => same _ _ _ (met ending more)⟩

theorem Extends.run_bind
    {first : Reader Other}
    {next : Other → Reader Result}
    {value : Other}
    (extended : first.Extends value bytes rest)
    (ending : Ending)
    (more : List UInt8) :
    (first >>= next).run ending (bytes ++ more) = (next value).run ending (rest ++ more) :=
  run_bind_of_ok (extended ending more)

theorem run_bind_of_error
    {ending : Ending}
    {first : Reader Other}
    (next : Other → Reader Result)
    (failed : first.run ending bytes = .error fault) :
    (first >>= next).run ending bytes = .error fault := by
  rw [run_bind, failed]

theorem run_map_of_error
    {ending : Ending}
    {reader : Reader Other}
    (change : Other → Result)
    (failed : reader.run ending bytes = .error fault) :
    (change <$> reader).run ending bytes = .error fault := by
  rw [map_eq_pure_bind, run_bind_of_error _ failed]

/-- A reader of two parts stops in its first part or behind it. -/
theorem run_bind_eq_error_iff
    {ending : Ending}
    {first : Reader Other}
    {next : Other → Reader Result} :
    (first >>= next).run ending bytes = .error fault ↔
      first.run ending bytes = .error fault ∨
        ∃ value rest,
          first.run ending bytes = .ok (value, rest) ∧
            (next value).run ending rest = .error fault := by
  rw [run_bind]
  cases read : first.run ending bytes with
  | error earlier => simp
  | ok made =>
      rcases made with ⟨value, rest⟩
      simp

theorem Settled.bind
    {first : Reader Other}
    (next : Other → Reader Result)
    (settled : first.Settled reason bytes fault) :
    (first >>= next).Settled reason bytes fault :=
  settled.of_suffix (List.suffix_refl bytes) fun _ _ _ failed => run_bind_of_error next failed

theorem Settled.bind_of_extends
    {first : Reader Other}
    {next : Other → Reader Result}
    {value : Other}
    (settled : (next value).Settled reason rest fault)
    (suffix : rest <:+ bytes)
    (extended : first.Extends value bytes rest) :
    (first >>= next).Settled reason bytes fault := by
  refine settled.of_suffix suffix ?_
  intro ending more later failed
  rw [extended.run_bind, failed]

/-! ## Steps one after another -/

theorem Forward.faultsSettle_bind
    {first : Reader Other}
    {next : Other → Reader Result}
    (forward : first.Forward)
    (settle : ∀ value, (next value).FaultsSettle) :
    (first >>= next).FaultsSettle := by
  intro reason bytes fault failed
  rcases run_bind_eq_error_iff.mp failed with early | ⟨value, rest, read, late⟩
  · exact (forward.settled early).bind next
  · exact (settle value late).bind_of_extends (first.isSuffix_of_run read) (forward.taken read)

theorem Forward.bind
    {first : Reader Other}
    {next : Other → Reader Result}
    (forward : first.Forward)
    (nextForward : ∀ value, (next value).Forward) :
    (first >>= next).Forward where
  settled := forward.faultsSettle_bind fun value => (nextForward value).settled
  taken := by
    intro reason bytes result rest read ending more
    rcases run_bind_eq_ok_iff.mp read with ⟨value, middle, firstRead, nextRead⟩
    rw [(forward.taken firstRead).run_bind]
    exact (nextForward value).taken nextRead ending more

theorem forward_pure
    (result : Result) :
    (pure result : Reader Result).Forward where
  settled := nofun
  taken := by
    intro reason bytes value rest read ending more
    rcases run_pure_eq_ok_iff.mp read with ⟨rfl, rfl⟩
    rfl

theorem forward_fail
    (fault : Fault) :
    (fail fault : Reader Result).Forward where
  taken := nofun
  settled := by
    intro reason bytes other failed
    cases failed
    exact .inr ⟨fun _ => fault, .always fault, fun _ _ => rfl⟩

theorem forward_slip
    (breach : Slip) :
    (slip breach : Reader Result).Forward :=
  forward_fail (.malformed breach)

theorem forward_ite
    {condition : Prop}
    [Decidable condition]
    {left right : Reader Result}
    (leftForward : left.Forward)
    (rightForward : right.Forward) :
    (if condition then left else right).Forward := by
  split
  · exact leftForward
  · exact rightForward

theorem Forward.map
    {reader : Reader Other}
    (forward : reader.Forward)
    (change : Other → Result) :
    (change <$> reader).Forward := by
  rw [map_eq_pure_bind]
  exact forward.bind fun value => forward_pure (change value)

/-- A reader that needs one byte, and decides by it alone what to give and to leave. -/
theorem forward_of_head
    {reader : Reader Result}
    (asks : reader.Asks)
    (found : UInt8 → Result)
    (left : UInt8 → List UInt8)
    (run_cons :
      ∀ ending value tail,
        reader.run ending (value :: tail) = .ok (found value, left value ++ tail)) :
    reader.Forward where
  taken := by
    intro reason bytes result rest read ending more
    cases bytes with
    | nil =>
        rw [asks reason] at read
        cases read
    | cons value tail =>
        rw [run_cons] at read
        cases read
        rw [List.cons_append, run_cons, List.append_assoc]
  settled := by
    intro reason bytes fault failed
    cases bytes with
    | nil =>
        rw [asks reason] at failed
        cases failed
        exact .inl rfl
    | cons value tail =>
        rw [run_cons] at failed
        cases failed

theorem asks_peek : peek.Asks :=
  fun _ => rfl

theorem asks_next : next.Asks :=
  fun _ => rfl

theorem forward_peek : peek.Forward :=
  forward_of_head asks_peek some ([·]) fun _ _ _ => rfl

theorem forward_next : next.Forward :=
  forward_of_head asks_next some (fun _ => []) fun _ _ _ => rfl

/-- A loop stops at a byte with what the step finds there or with what is found later. -/
theorem run_loop_cons_eq_error_iff
    {step : State → UInt8 → Reader (Turn State Result)}
    {atEnd : State → Fault}
    {state : State}
    {ending : Ending}
    {value : UInt8}
    {tail : List UInt8} :
    (loop step atEnd state).run ending (value :: tail) = .error fault ↔
      (step state value).run ending tail = .error fault ∨
        ∃ following middle,
          (step state value).run ending tail = .ok (.again following, middle) ∧
            (loop step atEnd following).run ending middle = .error fault := by
  rw [run_loop_cons]
  cases stepRead : (step state value).run ending tail with
  | error met => simp
  | ok made =>
      rcases made with ⟨turn, middle⟩
      cases turn with
      | again following => simp
      | done result => simp

/-- A loop whose steps read forward does so too. -/
theorem forward_loop
    {step : State → UInt8 → Reader (Turn State Result)}
    {atEnd : State → Fault}
    (steps : ∀ state value, (step state value).Forward)
    (state : State) :
    (loop step atEnd state).Forward where
  taken := by
    intro reason bytes result rest read ending more
    refine run_loop_induction
      (motive := fun state bytes =>
        (loop step atEnd state).run ending (bytes ++ more) = .ok (result, rest ++ more))
      ?_ ?_ read
    · intro state value tail last
      rw [List.cons_append, run_loop_cons, (steps state value).taken last ending more]
    · intro state value tail following middle stepRead later
      rw [List.cons_append, run_loop_cons, (steps state value).taken stepRead ending more]
      exact later
  settled := by
    intro reason bytes fault failed
    -- Every turn leaves fewer bytes than there were.
    induction count : bytes.length using Nat.strongRecOn generalizing state bytes with
    | ind count inductionHypothesis =>
        cases bytes with
        | nil =>
            rw [run_loop_nil] at failed
            cases failed
            exact .inl rfl
        | cons value tail =>
            have suffix := List.suffix_cons value tail
            rcases run_loop_cons_eq_error_iff.mp failed with
              stepFailed | ⟨following, middle, stepRead, laterFailed⟩
            · refine ((steps state value).settled stepFailed).of_suffix suffix ?_
              intro ending more later met
              exact run_loop_cons_eq_error_iff.mpr (.inl met)
            · have left := (step state value).isSuffix_of_run stepRead
              have behind : (loop step atEnd following).Settled reason middle fault := by
                refine inductionHypothesis middle.length ?_ following laterFailed rfl
                rw [← count]
                exact Nat.lt_succ_of_le left.length_le
              refine behind.of_suffix (left.trans suffix) ?_
              intro ending more later met
              have stepExtended := (steps state value).taken stepRead ending more
              exact run_loop_cons_eq_error_iff.mpr (.inr ⟨following, _, stepExtended, met⟩)

/-! ## Runs of bytes -/

theorem Asks.bind
    {first : Reader Other}
    (asks : first.Asks)
    (next : Other → Reader Result) :
    (first >>= next).Asks :=
  fun reason => run_bind_of_error next (asks reason)

/-- More bytes make a run longer only if it takes all that is there. -/
theorem endsWithRun_span
    (accepts : UInt8 → Bool) :
    (span accepts).EndsWithRun accepts (· ++ ·) where
  settled := nofun
  taken := by
    intro reason bytes run rest read
    cases read
    cases left : bytes.dropWhile accepts with
    | nil =>
        have all : ∀ value ∈ bytes, accepts value := List.dropWhile_eq_nil_iff.mp left
        refine .inr ⟨rfl, fun ending more => ?_⟩
        change Except.ok (_, _) = _
        rw [List.takeWhile_append_of_pos all, List.dropWhile_append_of_pos all,
          List.takeWhile_eq_self_iff.mpr all]
    | cons value tail =>
        refine .inl fun ending more => ?_
        have shorter : (bytes.takeWhile accepts).length ≠ bytes.length := by
          intro whole
          have all := List.takeWhile_eq_self_iff.mp
            ((List.takeWhile_prefix accepts).eq_of_length whole)
          rw [List.dropWhile_eq_nil_iff.mpr all] at left
          cases left
        change Except.ok (_, _) = _
        rw [List.takeWhile_append, if_neg shorter, List.dropWhile_append, left]
        rfl

theorem Forward.endsWithRun
    {reader : Reader Result}
    (forward : reader.Forward)
    (accepts : UInt8 → Bool)
    (lengthen : Result → List UInt8 → Result) :
    reader.EndsWithRun accepts lengthen where
  taken read := .inl (forward.taken read)
  settled := forward.settled

theorem Forward.bind_endsWithRun
    {accepts : UInt8 → Bool}
    {lengthen : Result → List UInt8 → Result}
    {first : Reader Other}
    {next : Other → Reader Result}
    (forward : first.Forward)
    (ends : ∀ value, (next value).EndsWithRun accepts lengthen) :
    (first >>= next).EndsWithRun accepts lengthen where
  settled := forward.faultsSettle_bind fun value => (ends value).settled
  taken := by
    intro reason bytes result rest read
    rcases run_bind_eq_ok_iff.mp read with ⟨value, middle, firstRead, nextRead⟩
    have firstExtends := forward.taken firstRead
    rcases (ends value).taken nextRead with nextExtends | ⟨usedUp, longer⟩
    · refine .inl fun ending more => ?_
      rw [firstExtends.run_bind, nextExtends]
    · refine .inr ⟨usedUp, fun ending more => ?_⟩
      rw [firstExtends.run_bind, longer]

/-- What is made of the value of a reader ends with the same run. -/
theorem EndsWithRun.map
    {accepts : UInt8 → Bool}
    {lengthen : Other → List UInt8 → Other}
    {lengthenMade : Result → List UInt8 → Result}
    {reader : Reader Other}
    (ends : reader.EndsWithRun accepts lengthen)
    (change : Other → Result)
    (commutes : ∀ value run, change (lengthen value run) = lengthenMade (change value) run) :
    (reader >>= fun value => pure (change value)).EndsWithRun accepts lengthenMade where
  settled := by
    intro reason bytes fault failed
    rcases run_bind_eq_error_iff.mp failed with early | ⟨value, rest, -, impossible⟩
    · exact (ends.settled early).bind _
    · cases impossible
  taken := by
    intro reason bytes result rest read
    rcases run_bind_eq_ok_iff.mp read with ⟨value, middle, valueRead, made⟩
    rcases run_pure_eq_ok_iff.mp made with ⟨rfl, rfl⟩
    rcases ends.taken valueRead with valueExtends | ⟨usedUp, longer⟩
    · exact .inl fun ending more => valueExtends.run_bind ending more
    · refine .inr ⟨usedUp, fun ending more => ?_⟩
      rw [run_bind_of_ok (longer ending more), commutes, run_pure]

/--
A run of bytes is read forward together with a step that asks for the byte after it.  The step need
not ask for one if it refuses the run however long it becomes.
-/
theorem EndsWithRun.bind
    {accepts : UInt8 → Bool}
    {lengthen : Other → List UInt8 → Other}
    {first : Reader Other}
    {next : Other → Reader Result}
    (ends : first.EndsWithRun accepts lengthen)
    (nextForward : ∀ value, (next value).Forward)
    (asks :
      ∀ value,
        (next value).Asks ∨
          ∃ fault, next value = fail fault ∧ ∀ run, next (lengthen value run) = fail fault) :
    (first >>= next).Forward where
  taken := by
    intro reason bytes result rest read ending more
    rcases run_bind_eq_ok_iff.mp read with ⟨value, middle, firstRead, nextRead⟩
    rcases ends.taken firstRead with firstExtends | ⟨rfl, -⟩
    · rw [firstExtends.run_bind]
      exact (nextForward value).taken nextRead ending more
    · rcases asks value with nextAsks | ⟨fault, refuses, -⟩
      · rw [nextAsks reason] at nextRead
        cases nextRead
      · rw [refuses] at nextRead
        cases nextRead
  settled := by
    intro reason bytes fault failed
    rcases run_bind_eq_error_iff.mp failed with early | ⟨value, rest, firstRead, late⟩
    · exact (ends.settled early).bind next
    · -- Where the run used up the bytes, the step asks for one more, or refuses any longer run.
      rcases ends.taken firstRead with firstExtends | ⟨rfl, longer⟩
      · have suffix := first.isSuffix_of_run firstRead
        exact ((nextForward value).settled late).bind_of_extends suffix firstExtends
      · rcases asks value with nextAsks | ⟨_, refuses, refusesLonger⟩
        · rw [nextAsks reason] at late
          cases late
          exact .inl rfl
        · rw [refuses] at late
          cases late
          refine .inr ⟨fun _ => fault, .always fault, fun ending more => ?_⟩
          rw [run_bind_of_ok (longer ending more), refusesLonger]
          rfl

/-! ## Tokens -/

theorem endsWithRun_spaces : spaces.EndsWithRun isSpace fun _ _ => () :=
  (endsWithRun_span isSpace).map (fun _ => ()) fun _ _ => rfl

theorem forward_peekToken : peekToken.Forward :=
  endsWithRun_spaces.bind (fun _ => forward_peek) fun _ => .inl asks_peek

theorem forward_nextToken : nextToken.Forward :=
  endsWithRun_spaces.bind (fun _ => forward_next) fun _ => .inl asks_next

theorem forward_word
    (characters : List UInt8) :
    (word characters).Forward := by
  induction characters with
  | nil => exact forward_pure ()
  | cons expected more inductionHypothesis =>
      exact forward_next.bind fun
        | none => forward_fail _
        | some _ => forward_ite inductionHypothesis (forward_slip _)

theorem forward_colon : colon.Forward :=
  forward_nextToken.bind fun
    | none => forward_fail _
    | some _ => forward_ite (forward_pure ()) (forward_slip _)

end RegisterTrace.Json.Reader
