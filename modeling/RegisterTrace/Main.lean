import RegisterTrace.Program

/-!
# The program

Opens the two files that the command line names, runs, and writes the output, the log and the
failure.
-/

open RegisterTrace

/-- The text of a failed file operation: what went wrong, and the number the system gives it. -/
def fileError : IO.Error → String
  | .noFileOrDirectory _ code reason
  | .permissionDenied _ code reason
  | .inappropriateType _ code reason
  | .invalidArgument _ code reason =>
      reason ++ " (os error " ++ Numeral.decimal code.toNat ++ ")"
  | error => toString error

/-- Everything that an open file delivers. -/
def readSource (handle : IO.FS.Handle) : IO Source := do
  match ← (handle.readBinToEnd).toBaseIO with
  | .ok bytes => return ⟨bytes.toList, .finished⟩
  | .error error => return ⟨[], .broken (fileError error)⟩

/-- Opens and reads a file. -/
def openFile (path : String) : IO Program.File := do
  match ← (IO.FS.Handle.mk path .read).toBaseIO with
  | .ok handle => return .ok (← readSource handle)
  | .error error => return .error (fileError error)

/-- Refuses arguments without telling which of them are not understood. -/
def refusal (_ : List String) : String :=
  "error: the arguments are not understood\n\n" ++
  "Usage: fl2000-regdecode [OPTIONS] <CAPTURE> <USB_ADDR>\n\n" ++
  "For more information, try '--help'.\n"

/-- Runs the program on its arguments. -/
def main (arguments : List String) : IO UInt32 := do
  let exit ← Program.invoke refusal openFile (← IO.getEnv "RUST_LOG") arguments
  let output ← IO.getStdout
  output.write exit.output
  output.flush
  (← IO.getStderr).putStr exit.messages
  return UInt32.ofNat exit.code
