import RegisterTrace.Proofs.Program.Stages

/-!
# What the log changes

The flag of the command line and the setting of the log choose how much of the log is shown, and
nothing else.  Two processes that differ in these alone keep one and the same log, of which each
shows the entries up to its own threshold, and they end in the same way with the same output.  Only
the refusal of arguments that are not understood may tell whether the flag is among them.
-/

namespace RegisterTrace

/-! ## Thresholds in order -/

namespace Log

/-- The setting that names a threshold. -/
def Threshold.name : Threshold → String
  | none => "off"
  | some .error => "error"
  | some .warn => "warn"
  | some .info => "info"
  | some .debug => "debug"
  | some .trace => "trace"

/-- How far down a threshold reaches; one that lets nothing through stands first. -/
def Threshold.rank : Threshold → Nat
  | none => 0
  | some level => level.rank

@[simp]
theorem named?_name
    (threshold : Threshold) :
    Threshold.named? threshold.name = some threshold := by
  rcases threshold with _ | level
  · rfl
  · cases level <;> rfl

theorem Level.rank_pos
    (level : Level) :
    0 < level.rank := by
  cases level <;> decide

/-- A threshold lets the entries through that are ranked no later than itself. -/
theorem shows_iff
    {threshold : Threshold}
    {entry : Entry} :
    threshold.shows entry = true ↔ entry.level.rank ≤ threshold.rank := by
  cases threshold with
  | none => simp [Threshold.shows, Threshold.rank, Nat.ne_of_gt entry.level.rank_pos]
  | some least => simp [Threshold.shows, Threshold.rank]

end Log

/-- What a less verbose threshold shows of a log is part of what a more verbose one shows. -/
theorem Log.lines_sublist
    (log : Log)
    {lower higher : Log.Threshold}
    (below : lower.rank ≤ higher.rank) :
    (log.lines lower).Sublist (log.lines higher) := by
  apply List.Sublist.map
  apply List.monotone_filter_right
  intro entry shown
  exact Log.shows_iff.mpr (Nat.le_trans (Log.shows_iff.mp shown) below)

namespace Program

/-! ## The threshold in effect -/

/-- Two processes end alike, each showing the entries of one log up to its threshold. -/
structure DifferInLog
    (leftThreshold rightThreshold : Log.Threshold)
    (left right : Exit) :
    Prop where
  code : left.code = right.code
  output : left.output = right.output
  report : left.report = right.report
  logged :
    ∃ log : Log, left.logged = log.lines leftThreshold ∧ right.logged = log.lines rightThreshold

theorem DifferInLog.sublist
    {lower higher : Log.Threshold}
    {left right : Exit}
    (alike : DifferInLog lower higher left right)
    (below : lower.rank ≤ higher.rank) :
    left.logged.Sublist right.logged := by
  rcases alike.logged with ⟨log, first, second⟩
  rw [first, second]
  exact log.lines_sublist below

end Program

end RegisterTrace
