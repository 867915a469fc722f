import RegisterTrace.Outcome

/-!
# Runs of refusable steps

What holds of a run follows from what holds of one step.  A run that gets through its items is a
chain of accepted steps, so a property of the items done so far and of the state holds at its end
if every accepted step keeps it.  A run that is refused gets through the items before some item and
is refused at that one.
-/

namespace RegisterTrace.Outcome

variable {State Refusal Item : Type}

theorem run_cons_of_refused
    {step : State → Item → Outcome State Refusal Unit}
    {state : State}
    {item : Item}
    {refusal : Refusal}
    (refused : (step state item).result = .error refusal)
    (rest : List Item) :
    run step state (item :: rest) =
      ⟨(step state item).state, (step state item).log, .error refusal⟩ := by
  rw [run_cons, refused]

theorem run_cons_of_accepted
    {step : State → Item → Outcome State Refusal Unit}
    {state : State}
    {item : Item}
    (accepted : (step state item).result = .ok ())
    (rest : List Item) :
    run step state (item :: rest) =
      let later := run step (step state item).state rest
      ⟨later.state, (step state item).log ++ later.log, later.result⟩ := by
  rw [run_cons, accepted]

/-- A run that gets through a first part goes on with the second part from where it is. -/
theorem run_append_of_accepted
    {step : State → Item → Outcome State Refusal Unit}
    {state : State}
    {first : List Item}
    (accepted : (run step state first).result = .ok ())
    (second : List Item) :
    run step state (first ++ second) =
      let later := run step (run step state first).state second
      ⟨later.state, (run step state first).log ++ later.log, later.result⟩ := by
  induction first generalizing state with
  | nil => simp [run_nil]
  | cons item rest inductionHypothesis =>
      cases result : (step state item).result with
      | error refusal =>
          rw [run_cons_of_refused result] at accepted
          cases accepted
      | ok value =>
          rw [run_cons_of_accepted result] at accepted
          rw [List.cons_append, run_cons_of_accepted result, run_cons_of_accepted result,
            inductionHypothesis accepted]
          simp only [Array.append_assoc]

/-- A run that goes on after some items are done keeps what every accepted step keeps. -/
theorem run_induction_from
    {step : State → Item → Outcome State Refusal Unit}
    {motive : List Item → State → Prop}
    (kept :
      ∀ done state item,
        motive done state →
          (step state item).result = .ok () →
            motive (done ++ [item]) (step state item).state)
    {done : List Item}
    {state : State}
    {items : List Item}
    (start : motive done state)
    (accepted : (run step state items).result = .ok ()) :
    motive (done ++ items) (run step state items).state := by
  induction items generalizing done state with
  | nil => simpa [run_nil] using start
  | cons item rest inductionHypothesis =>
      cases result : (step state item).result with
      | error refusal =>
          rw [run_cons_of_refused result] at accepted
          cases accepted
      | ok value =>
          rw [run_cons_of_accepted result] at accepted
          have next := kept done state item start result
          have whole := inductionHypothesis next accepted
          rw [run_cons_of_accepted result]
          simpa using whole

/--
A property of the items done and of the state holds at the end of a run that gets through its
items, if every accepted step keeps it.
-/
theorem run_induction
    {step : State → Item → Outcome State Refusal Unit}
    {motive : List Item → State → Prop}
    {state : State}
    (start : motive [] state)
    (kept :
      ∀ done state item,
        motive done state →
          (step state item).result = .ok () →
            motive (done ++ [item]) (step state item).state)
    {items : List Item}
    (accepted : (run step state items).result = .ok ()) :
    motive items (run step state items).state :=
  run_induction_from kept start accepted

/-- A run keeps what every step keeps, refused or not. -/
theorem run_invariant
    {step : State → Item → Outcome State Refusal Unit}
    {motive : State → Prop}
    (kept : ∀ state item, motive state → motive (step state item).state)
    {state : State}
    (start : motive state)
    (items : List Item) :
    motive (run step state items).state := by
  induction items generalizing state with
  | nil => exact start
  | cons item rest inductionHypothesis =>
      have next := kept state item start
      cases result : (step state item).result with
      | error refusal =>
          rw [run_cons_of_refused result]
          exact next
      | ok value =>
          rw [run_cons_of_accepted result]
          exact inductionHypothesis next

/-- A run that gets through all items takes every step, as if refusals did not stop it. -/
theorem run_state_of_accepted
    {step : State → Item → Outcome State Refusal Unit}
    {state : State}
    {items : List Item}
    (accepted : (run step state items).result = .ok ()) :
    (run step state items).state =
      items.foldl (fun state item => (step state item).state) state := by
  induction items generalizing state with
  | nil => rfl
  | cons item rest inductionHypothesis =>
      cases result : (step state item).result with
      | error refusal =>
          rw [run_cons_of_refused result] at accepted
          cases accepted
      | ok value =>
          rw [run_cons_of_accepted result] at accepted ⊢
          exact inductionHypothesis accepted

/-- A run is refused at the item where it stops; the items before that one are accepted. -/
theorem run_refused
    {step : State → Item → Outcome State Refusal Unit}
    {state : State}
    {items : List Item}
    {refusal : Refusal}
    (refused : (run step state items).result = .error refusal) :
    ∃ before item after,
      items = before ++ item :: after ∧
        (run step state before).result = .ok () ∧
          (step (run step state before).state item).result = .error refusal ∧
            (run step state items).state = (step (run step state before).state item).state := by
  induction items generalizing state with
  | nil =>
      rw [run_nil] at refused
      cases refused
  | cons item rest inductionHypothesis =>
      cases result : (step state item).result with
      | error other =>
          rw [run_cons_of_refused result] at refused
          cases refused
          refine ⟨[], item, rest, rfl, by rw [run_nil], ?_, ?_⟩
          · rw [run_nil]
            exact result
          · rw [run_cons_of_refused result, run_nil]
      | ok value =>
          rw [run_cons_of_accepted result] at refused
          rcases inductionHypothesis refused with
            ⟨before, last, after, split, accepted, stopped, stop⟩
          refine ⟨item :: before, last, after, by rw [split, List.cons_append], ?_, ?_, ?_⟩
          · rw [run_cons_of_accepted result]
            exact accepted
          · rw [run_cons_of_accepted result]
            exact stopped
          · rw [run_cons_of_accepted result, run_cons_of_accepted result]
            exact stop

/-- A run that gets through the items before a refused one stops at that one. -/
theorem run_of_refused
    {step : State → Item → Outcome State Refusal Unit}
    {state : State}
    {before : List Item}
    {item : Item}
    {refusal : Refusal}
    (accepted : (run step state before).result = .ok ())
    (refused : (step (run step state before).state item).result = .error refusal)
    (after : List Item) :
    (run step state (before ++ item :: after)).result = .error refusal ∧
      (run step state (before ++ item :: after)).state =
        (step (run step state before).state item).state := by
  rw [run_append_of_accepted accepted, run_cons_of_refused refused]
  exact ⟨rfl, rfl⟩

/-- A run that is refused in a first part never comes to the second part. -/
theorem run_append_of_refused
    {step : State → Item → Outcome State Refusal Unit}
    {state : State}
    {first : List Item}
    {refusal : Refusal}
    (refused : (run step state first).result = .error refusal)
    (second : List Item) :
    run step state (first ++ second) = run step state first := by
  induction first generalizing state with
  | nil =>
      rw [run_nil] at refused
      cases refused
  | cons item rest inductionHypothesis =>
      cases result : (step state item).result with
      | error other =>
          rw [List.cons_append, run_cons_of_refused result, run_cons_of_refused result]
      | ok value =>
          rw [run_cons_of_accepted result] at refused
          rw [List.cons_append, run_cons_of_accepted result, run_cons_of_accepted result,
            inductionHypothesis refused]

/-- A run that gets through all items gets through the first of them. -/
theorem run_accepted_of_append
    {step : State → Item → Outcome State Refusal Unit}
    {state : State}
    {first second : List Item}
    (accepted : (run step state (first ++ second)).result = .ok ()) :
    (run step state first).result = .ok () := by
  cases refused : (run step state first).result with
  | ok value => rfl
  | error refusal =>
      rw [run_append_of_refused refused, refused] at accepted
      cases accepted

/-- A run over images takes the steps of the images. -/
theorem run_map
    {Source : Type}
    (step : State → Item → Outcome State Refusal Unit)
    (image : Source → Item)
    (state : State)
    (items : List Source) :
    run step state (items.map image) =
      run (fun state item => step state (image item)) state items := by
  induction items generalizing state with
  | nil => rfl
  | cons item rest inductionHypothesis =>
      rw [List.map_cons, run_cons, run_cons]
      cases (step state (image item)).result with
      | error refusal => rfl
      | ok value => simp only [inductionHypothesis]

/-! ## Runs from a changed state -/

/-- The outcome with another state, reported and ended as before. -/
def mapState
    {Result NextState : Type}
    (change : State → NextState)
    (outcome : Outcome State Refusal Result) :
    Outcome NextState Refusal Result :=
  ⟨change outcome.state, outcome.log, outcome.result⟩

/-- A run commutes with a change of the state that every step commutes with. -/
theorem run_mapState
    {step : State → Item → Outcome State Refusal Unit}
    {change : State → State}
    (commutes :
      ∀ state item, step (change state) item = (step state item).mapState change)
    (state : State)
    (items : List Item) :
    run step (change state) items = (run step state items).mapState change := by
  induction items generalizing state with
  | nil => rfl
  | cons item rest inductionHypothesis =>
      have changed := commutes state item
      cases result : (step state item).result with
      | error refusal =>
          have changedResult : (step (change state) item).result = .error refusal := by
            rw [changed]
            exact result
          rw [run_cons_of_refused result, run_cons_of_refused changedResult, changed]
          rfl
      | ok value =>
          have changedResult : (step (change state) item).result = .ok () := by
            rw [changed]
            exact result
          have later := inductionHypothesis (step state item).state
          rw [run_cons_of_accepted result, run_cons_of_accepted changedResult, changed]
          simp only [mapState] at later ⊢
          rw [later]

end RegisterTrace.Outcome
