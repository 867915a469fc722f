/-!
# Log entries

What the library reports while it works is a value: a sequence of entries, each with a level and
the part of the program that it comes from.  Every entry is always kept; which of them a reader
sees is decided at the end, by a threshold.
-/

namespace RegisterTrace

namespace Log

/-- How important an entry is, from the most important on. -/
inductive Level where
  | error
  | warn
  | info
  | debug
  | trace
  deriving DecidableEq, Repr

/-- The place of a level in the order of importance. -/
def Level.rank : Level → Nat
  | error => 1
  | warn => 2
  | info => 3
  | debug => 4
  | trace => 5

/-- The name under which a level is shown. -/
def Level.label : Level → String
  | error => "ERROR"
  | warn => "WARN"
  | info => "INFO"
  | debug => "DEBUG"
  | trace => "TRACE"

/-- The part of the program that reports an entry. -/
inductive Origin where
  | program
  | header
  | session
  deriving DecidableEq, Repr

/-- The path under which an origin is shown. -/
def Origin.path : Origin → String
  | program => "fl2000_regdecode"
  | header => "fl2000_regdecode::header"
  | session => "fl2000_regdecode::decoder"

/-- One report. -/
structure Entry where
  level : Level
  origin : Origin
  message : String
  deriving DecidableEq, Repr

/-- The line that shows an entry. -/
def Entry.line (entry : Entry) : String :=
  entry.level.label ++ " [" ++ entry.origin.path ++ "] " ++ entry.message ++ "\n"

/-- The least important level that is shown, if any is. -/
abbrev Threshold := Option Level

/-- Whether a threshold lets an entry through. -/
def Threshold.shows (threshold : Threshold) (entry : Entry) : Bool :=
  threshold.any fun least => entry.level.rank ≤ least.rank

/-- The threshold that a setting names. -/
def Threshold.named? : String → Option Threshold
  | "off" => some none
  | "error" => some (some .error)
  | "warn" => some (some .warn)
  | "info" => some (some .info)
  | "debug" => some (some .debug)
  | "trace" => some (some .trace)
  | _ => none

end Log

/-- Everything that was reported, in order. -/
abbrev Log := Array Log.Entry

/-- The lines of the entries that a threshold lets through. -/
def Log.lines (log : Log) (threshold : Log.Threshold) : List String :=
  (log.toList.filter threshold.shows).map Log.Entry.line

/-- The text of the entries that a threshold lets through. -/
def Log.text (log : Log) (threshold : Log.Threshold) : String :=
  String.join (log.lines threshold)

end RegisterTrace
