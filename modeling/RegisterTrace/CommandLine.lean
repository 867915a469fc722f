/-!
# The command line

The program is given a capture and a device address, in this order.  An option names the header
with the register definitions, and a flag asks for a detailed log.  Options may stand anywhere up to
the argument `--`, after which every argument is taken as it is.
-/

namespace RegisterTrace.CommandLine

/-- What a run of the program is told. -/
structure Options where
  capture : String
  device : String
  registers : String := "../fl2000_registers.h"
  debug : Bool := false
  deriving DecidableEq, Repr

/-- Why a command line starts no run. -/
inductive Stop where
  | usage
  | version
  | help
  deriving DecidableEq, Repr

/-- The text that tells the program's name and version. -/
def versionText : String :=
  "fl2000-regdecode 0.1.0\n"

/-- The text that tells how the program is called. -/
def helpText : String :=
  "Decode FL2000 register reads and writes from a Wireshark JSON capture\n\n" ++
  "Usage: fl2000-regdecode [OPTIONS] <CAPTURE> <USB_ADDR>\n\n" ++
  "Arguments:\n" ++
  "  <CAPTURE>   Capture exported with `tshark -T json`\n" ++
  "  <USB_ADDR>  USB address of the device, as it appears in usb.src/usb.dst (e.g. \"1.4.0\")\n\n" ++
  "Options:\n" ++
  "  -r, --registers <REGISTERS>  Register definition header [default: ../fl2000_registers.h]\n" ++
  "  -d, --debug                  Enable debug output\n" ++
  "  -h, --help                   Print help\n" ++
  "  -V, --version                Print version\n"

/-- What the arguments read so far say. -/
structure State where
  values : List String := []
  registers : Option String := none
  debug : Bool := false
  awaitsRegisters : Bool := false
  literal : Bool := false
  deriving DecidableEq, Repr

namespace State

/-- Takes the path of the header, which may be given once and is not empty. -/
def takeRegisters (state : State) (path : String) : Except Stop State :=
  if path.isEmpty ∨ state.registers.isSome then
    .error .usage
  else
    .ok { state with registers := some path, awaitsRegisters := false }

/-- Takes an argument that is neither a flag nor an option; a capture's path is not empty. -/
def takeValue (state : State) (value : String) : Except Stop State :=
  if state.awaitsRegisters then
    state.takeRegisters value
  else
    match state.values with
    | [] => if value.isEmpty then .error .usage else .ok { state with values := [value] }
    | [capture] => .ok { state with values := [capture, value] }
    | _ => .error .usage

/-- Takes the flag that asks for a detailed log, which may be given once. -/
def takeDebug (state : State) : Except Stop State :=
  if state.debug then .error .usage else .ok { state with debug := true }

/-- Expects the path of the header in the next argument. -/
def expectRegisters (state : State) : State :=
  { state with awaitsRegisters := true }

/-- Takes the letters of an argument that starts with one dash. -/
def takeLetters (state : State) : List Char → Except Stop State
  | [] => .ok state
  | 'd' :: rest =>
      match state.takeDebug with
      | .ok next => next.takeLetters rest
      | .error stop => .error stop
  | 'V' :: _ => .error .version
  | 'h' :: _ => .error .help
  | 'r' :: [] => .ok state.expectRegisters
  | 'r' :: '=' :: path => state.takeRegisters (String.ofList path)
  | 'r' :: path => state.takeRegisters (String.ofList path)
  | _ => .error .usage

/-- Takes an argument that starts with two dashes, by its name and the value it may carry. -/
def takeNamed (state : State) (name : List Char) (value : Option (List Char)) : Except Stop State :=
  match String.ofList name, value with
  | "registers", some path => state.takeRegisters (String.ofList path)
  | "registers", none => .ok state.expectRegisters
  | "debug", none => state.takeDebug
  | "version", none => .error .version
  | "help", none => .error .help
  | _, _ => .error .usage

/-- Takes an argument that starts with a dash. -/
def takeDashed (state : State) (argument : List Char) : Except Stop State :=
  match argument with
  | '-' :: long =>
      if '=' ∈ long then
        state.takeNamed (long.takeWhile (· ≠ '=')) (some ((long.dropWhile (· ≠ '=')).drop 1))
      else
        state.takeNamed long none
  | letters => state.takeLetters letters

/-- Takes one argument. -/
def take (state : State) (argument : String) : Except Stop State :=
  match state.literal, argument.toList with
  | false, ['-', '-'] =>
      if state.awaitsRegisters then .error .usage else .ok { state with literal := true }
  | false, '-' :: first :: more =>
      if state.awaitsRegisters then .error .usage else state.takeDashed (first :: more)
  | _, _ => state.takeValue argument

/-- What all arguments say, if nothing is missing. -/
def finish (state : State) : Except Stop Options :=
  match state.values with
  | [capture, device] =>
      if state.awaitsRegisters then
        .error .usage
      else
        let options : Options := { capture, device, debug := state.debug }
        .ok { options with registers := state.registers.getD options.registers }
  | _ => .error .usage

end State

/-- What the arguments of a run say, or why there is no run. -/
def parse (arguments : List String) : Except Stop Options := do
  let state ← arguments.foldlM State.take {}
  state.finish

end RegisterTrace.CommandLine
