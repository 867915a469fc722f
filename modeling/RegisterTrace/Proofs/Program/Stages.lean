import RegisterTrace.Program
import RegisterTrace.Proofs.Capture.Written
import RegisterTrace.Proofs.CommandLine.Options

/-!
# The stages of a run

A run has three stages: the registers of the header, the packets of the capture, and the decoding
of these packets in a new session.  A process that is given a valid command line leaves what the
stages give when they are done on their own.  The first stage that fails tells the error, and only
the last one writes any output, up to its own failure.
-/

namespace RegisterTrace.Program

/-! ## The stages on their own -/

/-- The registers of a header file, or the reason why there are none. -/
def headerRegisters (file : File) : Except String RegisterMap := do
  let source ← file
  (Header.registers source).mapError Header.Error.message

/-- The packets of a capture file, or the causes why there are none, the nearest first. -/
def capturePackets (file : File) : Except (List String) (List Packet) := do
  let source ← file.mapError fun reason => [reason]
  (Capture.read source).mapError fun fault => [Capture.message fault, fault.message]

/-- What a run says that cannot use its header. -/
def headerFailure (options : CommandLine.Options) (reason : String) : Failure :=
  ⟨"loading registers from " ++ options.registers, [reason]⟩

/-- What a run says that cannot use its capture. -/
def captureFailure (options : CommandLine.Options) (causes : List String) : Failure :=
  ⟨"loading capture " ++ options.capture, causes⟩

/-- What a run says whose packets were decoded with a result. -/
def decodeFailure? : Except DecodeError Unit → Option Failure
  | .error error => some ⟨error.message, []⟩
  | .ok () => none

/-! ## Runs by the stage that fails -/

/-- Loading the registers of a header is the first stage, with some log. -/
theorem exists_loadRegisters_eq
    (options : CommandLine.Options)
    (file : File) :
    ∃ log,
      loadRegisters options.registers file =
        (log, (headerRegisters file).mapError (headerFailure options)) := by
  cases file with
  | error reason => exact ⟨_, rfl⟩
  | ok source =>
      simp only [loadRegisters, headerRegisters, Header.registers, bind, Except.bind]
      cases (Header.read source).result with
      | error error => exact ⟨_, rfl⟩
      | ok value => exact ⟨_, rfl⟩

/-- Loading the packets of a capture is the second stage, with some log. -/
theorem exists_loadCapture_eq
    (options : CommandLine.Options)
    (file : File) :
    ∃ log,
      loadCapture options.capture file =
        (log, (capturePackets file).mapError (captureFailure options)) := by
  cases file with
  | error reason => exact ⟨_, rfl⟩
  | ok source =>
      simp only [loadCapture, capturePackets, bind, Except.bind, Except.mapError]
      cases Capture.read source with
      | error fault => exact ⟨_, rfl⟩
      | ok packets => exact ⟨_, rfl⟩

variable
    {options : CommandLine.Options}
    {header capture : File}

/-- A header that cannot be used ends a run, whatever the capture. -/
theorem run_of_bad_header
    {reason : String}
    (bad : headerRegisters header = .error reason) :
    (run options header capture).output = ByteArray.empty ∧
      (run options header capture).failure = some (headerFailure options reason) := by
  rcases exists_loadRegisters_eq options header with ⟨log, loaded⟩
  rw [bad] at loaded
  rw [run, loaded]
  exact ⟨rfl, rfl⟩

/-- A capture that cannot be used ends a run with a good header. -/
theorem run_of_bad_capture
    {registers : RegisterMap}
    {causes : List String}
    (good : headerRegisters header = .ok registers)
    (bad : capturePackets capture = .error causes) :
    (run options header capture).output = ByteArray.empty ∧
      (run options header capture).failure = some (captureFailure options causes) := by
  rcases exists_loadRegisters_eq options header with ⟨log, loaded⟩
  rcases exists_loadCapture_eq options capture with ⟨more, delivered⟩
  rw [good] at loaded
  rw [bad] at delivered
  rw [run, loaded, delivered]
  exact ⟨rfl, rfl⟩

/-- Decoding leaves what its session writes, and fails as the session does. -/
theorem decode_eq_transcribe
    (registers : RegisterMap)
    (device : String)
    (packets : List Packet) :
    let decoded := Session.transcribe { registers, device } packets {}
    (decode registers device packets).output = decoded.state.sink.written ∧
      (decode registers device packets).failure = decodeFailure? decoded.result := by
  intro decoded
  rw [decode]
  cases decoded.result with
  | error error => exact ⟨rfl, rfl⟩
  | ok value => exact ⟨rfl, rfl⟩

/-- With both files good, a run leaves what decoding the packets leaves. -/
theorem run_of_good_files
    {registers : RegisterMap}
    {packets : List Packet}
    (good : headerRegisters header = .ok registers)
    (complete : capturePackets capture = .ok packets) :
    let decoded := Session.transcribe { registers, device := options.device } packets {}
    (run options header capture).output = decoded.state.sink.written ∧
      (run options header capture).failure = decodeFailure? decoded.result := by
  rcases exists_loadRegisters_eq options header with ⟨log, loaded⟩
  rcases exists_loadCapture_eq options capture with ⟨more, delivered⟩
  rw [good] at loaded
  rw [complete] at delivered
  rw [run, loaded, delivered]
  exact decode_eq_transcribe registers options.device packets

/-! ## Processes -/

/-- A process ends as the stages of a run on a header and a capture do. -/
structure EndsAsStages
    (options : CommandLine.Options)
    (header capture : File)
    (exit : Exit) :
    Prop where
  code : exit.code = 0 ∨ exit.code = 1
  success :
    exit.code = 0 ↔
      ∃ registers packets,
        headerRegisters header = .ok registers ∧
          capturePackets capture = .ok packets ∧
            (Session.transcribe { registers, device := options.device } packets {}).result =
              .ok ()
  badHeader :
    ∀ reason,
      headerRegisters header = .error reason →
        exit.output = ByteArray.empty ∧ exit.report = (headerFailure options reason).text
  badCapture :
    ∀ registers causes,
      headerRegisters header = .ok registers →
        capturePackets capture = .error causes →
          exit.output = ByteArray.empty ∧ exit.report = (captureFailure options causes).text
  goodFiles :
    ∀ registers packets,
      headerRegisters header = .ok registers →
        capturePackets capture = .ok packets →
          let decoded := Session.transcribe { registers, device := options.device } packets {}
          exit.output = decoded.state.sink.written ∧
            exit.report =
              match decoded.result with
              | .error error => Failure.text ⟨error.message, []⟩
              | .ok () => ""

theorem code_exit_cases
    (report : Report)
    (threshold : Log.Threshold) :
    (report.exit threshold).code = 0 ∨ (report.exit threshold).code = 1 := by
  cases failure : report.failure <;> simp [Report.exit, Report.exitCode, failure]

theorem code_exit_eq_zero_iff
    {report : Report}
    {threshold : Log.Threshold} :
    (report.exit threshold).code = 0 ↔ report.failure = none := by
  cases failure : report.failure <;> simp [Report.exit, Report.exitCode, failure]

theorem report_exit_of_failure
    {report : Report}
    {failure : Failure}
    (failed : report.failure = some failure)
    (threshold : Log.Threshold) :
    (report.exit threshold).report = failure.text := by
  simp [Report.exit, failed]

theorem report_exit_of_success
    {report : Report}
    (succeeded : report.failure = none)
    (threshold : Log.Threshold) :
    (report.exit threshold).report = "" := by
  simp [Report.exit, succeeded]

theorem decodeFailure?_eq_none_iff
    {result : Except DecodeError Unit} :
    decodeFailure? result = none ↔ result = .ok () := by
  cases result <;> simp [decodeFailure?]

/-- A run succeeds exactly if its three stages do. -/
theorem failure_run_eq_none_iff :
    (run options header capture).failure = none ↔
      ∃ registers packets,
        headerRegisters header = .ok registers ∧
          capturePackets capture = .ok packets ∧
            (Session.transcribe { registers, device := options.device } packets {}).result =
              .ok () := by
  cases first : headerRegisters header with
  | error reason => simp [(run_of_bad_header first).2]
  | ok registers =>
      cases second : capturePackets capture with
      | error causes => simp [(run_of_bad_capture first second).2]
      | ok packets =>
          simp [(run_of_good_files first second).2, decodeFailure?_eq_none_iff]

/-- A run ends as its stages do, whatever is shown of its log. -/
theorem exit_run_endsAsStages
    (options : CommandLine.Options)
    (header capture : File)
    (threshold : Log.Threshold) :
    EndsAsStages options header capture ((run options header capture).exit threshold) := by
  refine ⟨code_exit_cases _ _, ?_, ?_, ?_, ?_⟩
  · exact code_exit_eq_zero_iff.trans failure_run_eq_none_iff
  · intro reason bad
    rcases @run_of_bad_header options header capture reason bad with ⟨output, failed⟩
    exact ⟨output, report_exit_of_failure failed threshold⟩
  · intro registers causes good bad
    rcases run_of_bad_capture good bad with ⟨output, failed⟩
    exact ⟨output, report_exit_of_failure failed threshold⟩
  · intro registers packets good complete decoded
    rcases run_of_good_files good complete with ⟨output, ending⟩
    refine ⟨output, ?_⟩
    cases result : decoded.result with
    | error error =>
        rw [result] at ending
        exact report_exit_of_failure ending threshold
    | ok value =>
        rw [result] at ending
        exact report_exit_of_success ending threshold

/-- A command line that says some options starts a run with these. -/
theorem invoke_of_means
    {arguments : List String}
    (means : CommandLine.Means (CommandLine.parts arguments) options)
    (refusal : List String → String)
    (files : String → File)
    (setting : Option String) :
    invoke (m := Id) refusal files setting arguments =
      (run options (files options.registers) (files options.capture)).exit
        (threshold options setting) := by
  rw [invoke, CommandLine.parse_eq_ok_iff.mpr means]
  rfl

/--
Given a valid command line, a process ends as the stages do on the files that it names, whatever
the other files, the setting of the log and the wording of refusals: it exits with 0 if all three
succeed and with 1 otherwise, the first failure in the order of the stages is the one reported, and
the output is what decoding writes up to its end or its first error, or nothing if decoding never
starts.
-/
theorem invoke_endsAsStages
    {arguments : List String}
    {options : CommandLine.Options}
    (means : CommandLine.Means (CommandLine.parts arguments) options)
    (refusal : List String → String)
    (files : String → File)
    (setting : Option String) :
    EndsAsStages options (files options.registers) (files options.capture)
      (invoke (m := Id) refusal files setting arguments) := by
  rw [invoke_of_means means]
  exact exit_run_endsAsStages options _ _ _

/-! ## A small run -/

/-- A header with one register of one field. -/
def smallHeader : String :=
  "#define BASE 0x8000\n#define REG (BASE + 0x48)\nu32 low : 4;\n"

/-- A write to the register, and a packet without a request type. -/
def writeThenUntyped : List Packet :=
  let usb : Endpoints := { destination := "1.4.0", transferType := some "0x02" }
  [{ time := "noon"
     usb
     setup :=
       some { requestType := some "0x40", index := some "32840", fragment := some "21:00:00:00" } },
   { usb, setup := some {} }]

/-- The header under its name, and the capture under every other. -/
def smallFiles (path : String) : File :=
  if path = "header.h" then
    .ok (.ofText smallHeader)
  else
    .ok ⟨Capture.write writeThenUntyped, .finished⟩

/-- A refusal for a reason, with a usage. -/
def refusalText (reason usage : String) : String :=
  "error: " ++ reason ++ "\n\nUsage: fl2000-regdecode " ++ usage ++
    "\n\nFor more information, try '--help'.\n"

/--
The refusal of arguments that give the flag twice, and of those that name a capture and no device.
The usage that is shown for a missing device repeats the flag if it was given.
-/
def smallRefusal (arguments : List String) : String :=
  let flag := if "-d" ∈ arguments then "--debug " else ""
  if arguments.count "-d" = 2 then
    refusalText "the argument '--debug' cannot be used multiple times"
      "[OPTIONS] <CAPTURE> <USB_ADDR>"
  else
    refusalText "the following required arguments were not provided:\n  <USB_ADDR>"
      (flag ++ "<CAPTURE> <USB_ADDR>")

/--
A write is followed by a packet without a request type.  The process fails with the error of that
packet, and the transcript of the write is its output.
-/
theorem output_kept_before_untyped_request :
    let exit : Exit :=
      invoke (m := Id) smallRefusal smallFiles none ["-rheader.h", "packets.json", "1.4.0"]
    exit.code = 1 ∧
      exit.output =
          ("noon WR 0x8048 00000021\n  REG\n" ++
            "    low                       = 1      0x1   \n").toUTF8 ∧
        exit.report = "Error: matching packet has no usb.bmRequestType field\n" := by
  intro exit
  let registers : RegisterMap :=
    { registers := [{ name := "REG", address := 0x8048, fields := [⟨"low", 4⟩] }]
      index := [("REG", 0x8048)] }
  let options : CommandLine.Options :=
    { capture := "packets.json", device := "1.4.0", registers := "header.h" }
  have means :
      CommandLine.Means (CommandLine.parts ["-rheader.h", "packets.json", "1.4.0"]) options :=
    CommandLine.parse_eq_ok_iff.mp rfl
  have good : headerRegisters (smallFiles options.registers) = .ok registers := by
    decide +kernel
  have complete : capturePackets (smallFiles options.capture) = .ok writeThenUntyped := by
    decide +kernel
  rcases invoke_endsAsStages means smallRefusal smallFiles none with
    ⟨code, success, -, -, goodFiles⟩
  rcases goodFiles registers writeThenUntyped good complete with ⟨output, report⟩
  refine ⟨code.resolve_left ?_, output.trans (by decide +kernel), report.trans rfl⟩
  intro succeeded
  rcases success.mp succeeded with ⟨otherRegisters, otherPackets, first, second, accepted⟩
  cases good.symm.trans first
  cases complete.symm.trans second
  cases accepted

end RegisterTrace.Program
