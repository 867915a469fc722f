import RegisterTrace.Header.Line
import RegisterTrace.Outcome
import RegisterTrace.RegisterMap
import RegisterTrace.Source

/-!
# Reading a register header

A builder takes the lines of a header one by one.  It keeps the constants named so far, the
registers defined so far and the one defined last, to which the next field belongs.  A line that is
refused is counted like any other and changes nothing else.
-/

namespace RegisterTrace.Header

/-- Why a header is refused. -/
inductive Error where
  | fieldWithoutRegister (line : Nat)
  | unknownBase (base : String) (line : Nat)
  | addressOverflow (name : String) (line : Nat)
  | unreadable (failure : Source.Failure)
  deriving DecidableEq, Repr

/-- The text of a refusal. -/
def Error.message : Error → String
  | fieldWithoutRegister line =>
      "line " ++ Numeral.decimal line ++ ": bit-field declared before any register"
  | unknownBase base line =>
      "line " ++ Numeral.decimal line ++ ": register offset refers to unknown constant " ++ base
  | addressOverflow name line =>
      "line " ++ Numeral.decimal line ++ ": address of " ++ name ++ " does not fit in 32 bits"
  | unreadable failure => failure.message

/-- What the lines read so far amount to. -/
structure Builder where
  constants : List (String × Word) := []
  registers : RegisterMap := ∅
  current : Option Word := none
  lineCount : Nat := 0
  deriving DecidableEq, Repr

namespace Builder

/-- A report on a line of the header. -/
def report (level : Log.Level) (message : String) : Log :=
  #[⟨level, .header, message⟩]

/-- The builder once a constant has a value, over any value it had. -/
def define (builder : Builder) (name : String) (value : Word) : Builder :=
  { builder with constants := (name, value) :: builder.constants }

/-- The builder once a register without fields stands at an address and is the current one. -/
def openRegister (builder : Builder) (name : String) (address : Word) : Builder :=
  { builder with
    registers := builder.registers.insert { name, address }
    current := some address }

/-- The address of a register at an offset from a constant. -/
def address (builder : Builder) (name base : String) (offset : Word) : Except Error Word :=
  match builder.constants.lookup base with
  | none => .error (.unknownBase base builder.lineCount)
  | some value =>
      match value.add? offset with
      | none => .error (.addressOverflow name builder.lineCount)
      | some address => .ok address

/-- The address of the register that the next field belongs to. -/
def currentRegister? (builder : Builder) : Option Word :=
  builder.current.filter fun address => (builder.registers.get? address).isSome

/-- What a line does to a builder that has counted it, and what is reported about it. -/
def apply (builder : Builder) : Line → Except Error (Builder × Log)
  | .constant name value =>
      .ok (builder.define name value,
        report .trace ("constant " ++ name ++ " = " ++ Numeral.markedHex value.toNat))
  | .offset name base offset => do
      let address ← builder.address name base offset
      return (builder.openRegister name address,
        report .debug ("register " ++ name ++ " at " ++ Numeral.address address))
  | .field name width =>
      match builder.currentRegister? with
      | some address =>
          .ok ({ builder with registers := builder.registers.addField address ⟨name, width⟩ }, #[])
      | none => .error (.fieldWithoutRegister builder.lineCount)
  | .other => .ok (builder, #[])

/-- The builder once it has counted one more line. -/
def countLine (builder : Builder) : Builder :=
  { builder with lineCount := builder.lineCount + 1 }

/-- Takes one line. -/
def addLine (builder : Builder) (line : String) : Outcome Builder Error Unit :=
  let counted := builder.countLine
  match counted.apply (Line.ofText line) with
  | .ok (next, log) => .accept next () log
  | .error error => .refuse counted error

/-- Takes one line of a source, or the failure to read it. -/
def addRead
    (builder : Builder)
    (line : Except Source.Failure String) :
    Outcome Builder Error Unit :=
  match line with
  | .ok text => builder.addLine text
  | .error failure => .refuse builder (.unreadable failure)

end Builder

/-- Reads the registers that a header defines. -/
def read (source : Source) : Outcome Builder Error Unit :=
  Outcome.run Builder.addRead {} source.lines

/-- The registers that a header defines, or why it is refused. -/
def registers (source : Source) : Except Error RegisterMap :=
  let outcome := read source
  outcome.result.map fun _ => outcome.state.registers

end RegisterTrace.Header
