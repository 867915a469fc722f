import RegisterTrace.Capture.Read
import RegisterTrace.CommandLine
import RegisterTrace.Header.Builder
import RegisterTrace.Session

/-!
# A run of the program

A run reads the registers, then the capture, and then decodes the packets of the capture.  The
first of these that fails ends it.  Everything is reported whatever the reader wants to see: the
report keeps the whole log, and a threshold is applied where its text is made.  The whole process
takes its arguments, the texts that refuse arguments, a way to open files, and the setting of its
log.  How a refusal is worded is left open, and it may depend on everything that was given.
-/

namespace RegisterTrace.Program

/-- A file that was opened, or why it could not be. -/
abbrev File := Except String Source

/-- Why a run failed: what it was doing and the causes of the failure, the nearest first. -/
structure Failure where
  summary : String
  causes : List String := []
  deriving DecidableEq, Repr

/-- The lines of the causes, which are numbered if there are several. -/
def causeLines : List String → List String
  | [cause] => ["    " ++ cause]
  | causes => causes.mapIdx fun place cause => "    " ++ Numeral.decimal place ++ ": " ++ cause

/-- The text of a failure. -/
def Failure.text (failure : Failure) : String :=
  let causes :=
    if failure.causes.isEmpty then
      ""
    else
      "\nCaused by:\n" ++ String.join ((causeLines failure.causes).map (· ++ "\n"))
  "Error: " ++ failure.summary ++ "\n" ++ causes

/-- What a run leaves behind. -/
structure Report where
  output : ByteArray := ByteArray.empty
  log : Log := #[]
  failure : Option Failure := none

namespace Report

/-- The exit code of a run. -/
def exitCode (report : Report) : Nat :=
  if report.failure.isSome then 1 else 0

/-- What a run says besides its output. -/
def messages (report : Report) (threshold : Log.Threshold) : String :=
  report.log.text threshold ++ (report.failure.map Failure.text).getD ""

/-- The report with earlier entries in front of its log. -/
def logAfter (report : Report) (earlier : Log) : Report :=
  { report with log := earlier ++ report.log }

end Report

/-- A report of the program itself. -/
def inform (message : String) : Log :=
  #[⟨.info, .program, message⟩]

/-- The threshold of a run: a setting that names a level wins over the flag. -/
def threshold (options : CommandLine.Options) (setting : Option String) : Log.Threshold :=
  match setting.bind Log.Threshold.named? with
  | some threshold => threshold
  | none => if options.debug then some .debug else some .warn

/-- The registers of the header that a run was told to use. -/
def loadRegisters (path : String) (file : File) : Log × Except Failure RegisterMap :=
  let summary := "loading registers from " ++ path
  match file with
  | .error reason => (#[], .error ⟨summary, [reason]⟩)
  | .ok source =>
      let outcome := Header.read source
      match outcome.result with
      | .error error => (outcome.log, .error ⟨summary, [error.message]⟩)
      | .ok () =>
          let registers := outcome.state.registers
          let count := Numeral.decimal registers.size
          (outcome.log ++ inform (count ++ " registers loaded from " ++ path), .ok registers)

/-- The packets of the capture that a run was told to decode. -/
def loadCapture (path : String) (file : File) : Log × Except Failure (List Packet) :=
  let summary := "loading capture " ++ path
  match file with
  | .error reason => (#[], .error ⟨summary, [reason]⟩)
  | .ok source =>
      match Capture.read source with
      | .error fault => (#[], .error ⟨summary, [Capture.message fault, fault.message]⟩)
      | .ok packets =>
          (inform (Numeral.decimal packets.length ++ " packets in capture"), .ok packets)

/-- The line that sums a session up. -/
def summary (tally : Tally) : String :=
  Numeral.decimal tally.packets ++ " packets, " ++ Numeral.decimal tally.matched ++ " matched, " ++
    Numeral.decimal tally.reads ++ " reads, " ++ Numeral.decimal tally.writes ++ " writes"

/-- Decodes packets with the registers of a header. -/
def decode (registers : RegisterMap) (device : String) (packets : List Packet) : Report :=
  let outcome := Session.transcribe { registers, device } packets {}
  let output := outcome.state.sink.written
  match outcome.result with
  | .error error => { output, log := outcome.log, failure := some ⟨error.message, []⟩ }
  | .ok () =>
      { output, log := outcome.log ++ inform (summary outcome.state.session.tally) }

/-- A whole run, given the two files that it opens. -/
def run (options : CommandLine.Options) (header capture : File) : Report :=
  match loadRegisters options.registers header with
  | (log, .error failure) => { log, failure := some failure }
  | (log, .ok registers) =>
      match loadCapture options.capture capture with
      | (more, .error failure) => { log := log ++ more, failure := some failure }
      | (more, .ok packets) => (decode registers options.device packets).logAfter (log ++ more)

/-! ## The whole process -/

/-- What a finished process leaves: its exit code, its output, its log lines, and its report. -/
structure Exit where
  code : Nat
  output : ByteArray := ByteArray.empty
  logged : List String := []
  report : String := ""

/-- Everything that a process said besides its output. -/
def Exit.messages (exit : Exit) : String :=
  String.join exit.logged ++ exit.report

/-- How a process ends without a run; a refusal answers arguments that are not understood. -/
def Exit.ofStop (refusal : String) : CommandLine.Stop → Exit
  | .usage => { code := 2, report := refusal }
  | .version => { code := 0, output := CommandLine.versionText.toUTF8 }
  | .help => { code := 0, output := CommandLine.helpText.toUTF8 }

/-- How a process ends that made a run and shows its log up to a threshold. -/
def Report.exit (report : Report) (threshold : Log.Threshold) : Exit where
  code := report.exitCode
  output := report.output
  logged := report.log.lines threshold
  report := (report.failure.map Failure.text).getD ""

/--
Runs the program on its arguments, with the texts that refuse arguments, a way to open files, and
the setting of the log.  Both files are opened first; what the capture holds has no effect if the
header fails.
-/
def invoke
    {m : Type → Type}
    [Monad m]
    (refusal : List String → String)
    (openFile : String → m File)
    (setting : Option String)
    (arguments : List String) :
    m Exit := do
  match CommandLine.parse arguments with
  | .error stop => return .ofStop (refusal arguments) stop
  | .ok options =>
      let header ← openFile options.registers
      let capture ← openFile options.capture
      return (run options header capture).exit (threshold options setting)

end RegisterTrace.Program
