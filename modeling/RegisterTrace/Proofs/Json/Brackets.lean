import RegisterTrace.Proofs.Json.Reader

/-!
# Loops over items in brackets

The rest of a list and the rest of an object are read by loops of one form: they pass over spaces,
take an item behind each comma, and are done at the closing bracket.  Such a loop gives a value
exactly if items with commas between them follow, each of which takes the state to the next one.
-/

namespace RegisterTrace.Json

open Reader

variable
    {State Result : Type}
    {takes : State → List UInt8 → State → Prop}
    {finishes : State → Result → Prop}
    {ending : Ending}
    {closing : UInt8}
    {step : State → UInt8 → Reader (Turn State Result)}
    {atEnd : State → Fault}
    {state : State}
    {result : Result}
    {bytes rest : List UInt8}

/-- What items give one after another: each takes the state to the next, the last one is done. -/
inductive Gives
    (takes : State → List UInt8 → State → Prop)
    (finishes : State → Result → Prop) :
    State → List (List UInt8) → Result → Prop where
  | finish
      {state : State}
      {result : Result}
      (finished : finishes state result) :
      Gives takes finishes state [] result
  | take
      {state following : State}
      {item : List UInt8}
      {items : List (List UInt8)}
      {result : Result}
      (taken : takes state item following)
      (later : Gives takes finishes following items result) :
      Gives takes finishes state (item :: items) result

/-- What the step of a loop over items does at a space, a bracket, a comma and any other byte. -/
structure TakesItems
    (ending : Ending)
    (closing : UInt8)
    (step : State → UInt8 → Reader (Turn State Result))
    (takes : State → List UInt8 → State → Prop)
    (finishes : State → Result → Prop) :
    Prop where
  closes : closing = byte ']' ∨ closing = byte '\x7d'
  space : ∀ state value, isSpace value → step state value = pure (.again state)
  close :
    ∀ {state bytes turn rest},
      (step state closing).run ending bytes = .ok (turn, rest) ↔
        ∃ result, finishes state result ∧ turn = .done result ∧ bytes = rest
  of_comma :
    ∀ {state bytes turn rest},
      (step state (byte ',')).run ending bytes = .ok (turn, rest) →
        ∃ gap item following,
          Spaces gap ∧
            takes state item following ∧ turn = .again following ∧ bytes = gap ++ (item ++ rest)
  comma :
    ∀ {state gap item following rest},
      Spaces gap →
        takes state item following →
          Ends rest →
            (step state (byte ',')).run ending (gap ++ (item ++ rest)) =
              .ok (.again following, rest)
  other :
    ∀ {state value bytes turn rest},
      isSpace value = false →
        value ≠ closing →
          value ≠ byte ',' → (step state value).run ending bytes ≠ .ok (turn, rest)

namespace TakesItems

/-- A step that gives a turn was at a space, at the closing bracket or at a comma. -/
theorem cases_of_run
    (takesItems : TakesItems ending closing step takes finishes)
    {value : UInt8}
    {turn : Turn State Result}
    (read : (step state value).run ending bytes = .ok (turn, rest)) :
    isSpace value ∨ value = closing ∨ value = byte ',' := by
  by_contra none
  rw [not_or, not_or, Bool.not_eq_true] at none
  exact takesItems.other none.1 none.2.1 none.2.2 read

theorem run_loop_eq_ok_iff
    (takesItems : TakesItems ending closing step takes finishes) :
    (loop step atEnd state).run ending bytes = .ok (result, rest) ↔
      ∃ items text,
        Following closing items text ∧
          Gives takes finishes state items result ∧ bytes = text ++ rest := by
  constructor
  · intro read
    refine
      run_loop_induction
        (motive := fun before given =>
          ∃ items text,
            Following closing items text ∧
              Gives takes finishes before items result ∧ given = text ++ rest)
        ?_ ?_ read
    · intro before value tail stepRead
      rcases takesItems.cases_of_run stepRead with space | rfl | rfl
      · rw [takesItems.space before value space] at stepRead
        cases stepRead
      · rcases takesItems.close.mp stepRead with ⟨made, finished, same, rfl⟩
        cases same
        exact ⟨[], [value], .close spaces_nil, .finish finished, rfl⟩
      · rcases takesItems.of_comma stepRead with ⟨_, _, _, -, -, impossible, -⟩
        cases impossible
    · rintro before value tail following middle stepRead ⟨items, text, isFollowing, gives, rfl⟩
      rcases takesItems.cases_of_run stepRead with space | rfl | rfl
      · rw [takesItems.space before value space] at stepRead
        cases stepRead
        exact ⟨items, value :: text, isFollowing.cons_space space, gives, rfl⟩
      · rcases takesItems.close.mp stepRead with ⟨_, -, impossible, -⟩
        cases impossible
      · rcases takesItems.of_comma stepRead with ⟨gap, item, next, spaces, taken, same, rfl⟩
        cases same
        exact
          ⟨item :: items, _, .next spaces_nil spaces isFollowing, .take taken gives, by simp⟩
  · rintro ⟨items, text, following, gives, rfl⟩
    induction gives generalizing text with
    | finish finished =>
        cases following with
        | close spaces =>
            have stepRead := takesItems.close.mpr ⟨_, finished, rfl, @rfl _ rest⟩
            rw [List.append_assoc, run_loop_spaces (takesItems.space _) spaces,
              List.singleton_append, run_loop_cons, stepRead]
    | @take before next item items made taken later inductionHypothesis =>
        cases following with
        | @next beforeComma afterComma _ others _ spacesBefore spacesAfter isFollowing =>
            have stepRead :=
              takesItems.comma spacesAfter taken (isFollowing.ends takesItems.closes rest)
            rw [List.append_assoc, run_loop_spaces (takesItems.space _) spacesBefore,
              List.cons_append, run_loop_cons, List.append_assoc, List.append_assoc, stepRead]
            exact inductionHypothesis others isFollowing

end TakesItems

end RegisterTrace.Json
