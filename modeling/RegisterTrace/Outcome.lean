import RegisterTrace.Log

/-!
# Outcomes

A step that may be refused leaves three things behind: the state after it, which holds also when
it was refused, what it reported, and its result.  `Outcome.run` takes such steps one after another
and stops at the first refusal, keeping the state and the log as they are then.
-/

namespace RegisterTrace

/-- The state after a step, what the step reported, and its result or refusal. -/
structure Outcome (State Refusal Result : Type) where
  state : State
  log : Log := #[]
  result : Except Refusal Result

namespace Outcome

variable {State Refusal Result Item : Type}

/-- A step that succeeds. -/
def accept (state : State) (result : Result) (log : Log := #[]) :
    Outcome State Refusal Result :=
  ⟨state, log, .ok result⟩

/-- A step that is refused. -/
def refuse (state : State) (refusal : Refusal) (log : Log := #[]) :
    Outcome State Refusal Result :=
  ⟨state, log, .error refusal⟩

/-- Runs one step per item, from a state and a log, until an item is refused. -/
def runFrom
    (step : State → Item → Outcome State Refusal Unit)
    (state : State)
    (log : Log) :
    List Item → Outcome State Refusal Unit
  | [] => ⟨state, log, .ok ()⟩
  | item :: rest =>
      let next := step state item
      match next.result with
      | .error refusal => ⟨next.state, log ++ next.log, .error refusal⟩
      | .ok () => runFrom step next.state (log ++ next.log) rest

/-- Runs one step per item until an item is refused. -/
def run
    (step : State → Item → Outcome State Refusal Unit)
    (state : State)
    (items : List Item) :
    Outcome State Refusal Unit :=
  runFrom step state #[] items

/-- What was reported before a run stands in front of what the run reports. -/
theorem runFrom_eq_run
    (step : State → Item → Outcome State Refusal Unit)
    (state : State)
    (log : Log)
    (items : List Item) :
    runFrom step state log items =
      { run step state items with log := log ++ (run step state items).log } := by
  induction items generalizing state log with
  | nil => simp [run, runFrom]
  | cons item rest inductionHypothesis =>
      cases result : (step state item).result with
      | error refusal => simp [run, runFrom, result]
      | ok value =>
          have whole := inductionHypothesis (step state item).state (log ++ (step state item).log)
          have alone := inductionHypothesis (step state item).state (step state item).log
          simp only [run, runFrom, result, Array.empty_append] at whole alone ⊢
          rw [whole, alone]
          simp [Array.append_assoc]

theorem run_nil
    (step : State → Item → Outcome State Refusal Unit)
    (state : State) :
    run step state [] = ⟨state, #[], .ok ()⟩ := rfl

/-- A run goes on after its first item exactly if that item is accepted. -/
theorem run_cons
    (step : State → Item → Outcome State Refusal Unit)
    (state : State)
    (item : Item)
    (rest : List Item) :
    run step state (item :: rest) =
      match (step state item).result with
      | .error refusal => ⟨(step state item).state, (step state item).log, .error refusal⟩
      | .ok () =>
          let later := run step (step state item).state rest
          ⟨later.state, (step state item).log ++ later.log, later.result⟩ := by
  rw [run, runFrom]
  cases result : (step state item).result with
  | error refusal => simp
  | ok value => simp [runFrom_eq_run]

end Outcome

end RegisterTrace
