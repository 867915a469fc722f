import RegisterTrace.Capture.Packet
import RegisterTrace.Text.Quoted

/-!
# What a packet asks for

A register is read in two packets.  The first sets the read up and names the address, and a later
one carries the payload, so an answer belongs to the read that was set up last.  A register is
written in one packet.  Which of these a packet does is plain from the packet alone: it asks for a
list of steps, the answer to a read before anything that the packet sets up itself.
-/

namespace RegisterTrace

/-- Why a packet cannot be decoded, or its transactions cannot be written. -/
inductive DecodeError where
  | noPendingRead
  | unknownRegister (address : Word)
  | invalidPayload (digits : String)
  | invalidIndex (text : String)
  | missingKey (key : String)
  | sinkFull
  deriving DecidableEq, Repr

/-- The text of an error. -/
def DecodeError.message : DecodeError → String
  | noPendingRead => "read response without a preceding read setup"
  | unknownRegister address => "no register defined at address " ++ Numeral.address address
  | invalidPayload digits => "payload is not a 32-bit hex value: " ++ Quoted.quote digits
  | invalidIndex text => "setup index is not a register address: " ++ Quoted.quote text
  | missingKey key => "matching packet has no " ++ key ++ " field"
  | sinkFull => "sink full"

/-- The transfer type of control transfers. -/
def controlTransfer : Word := 0x02

/-- The request type that sets up a read. -/
def readRequest : Word := 0xC0

/-- The request type that writes. -/
def writeRequest : Word := 0x40

/-- One thing that a packet asks for. -/
inductive Step where
  | complete (payload : String)
  | await (address : Word)
  | write (address : Word) (payload : String)
  | reject (error : DecodeError)
  deriving DecidableEq, Repr

namespace Setup

/-- The register address that setup data names, as a decimal numeral. -/
def address (setup : Setup) : Except DecodeError Word :=
  match setup.index with
  | none => .error (.missingKey "usb.setup.wIndex")
  | some text =>
      match decimalWord? text with
      | some address => .ok address
      | none => .error (.invalidIndex text)

/-- A step at the address of setup data, unless there is none. -/
def stepAt (setup : Setup) (step : Word → Step) : Step :=
  match setup.address with
  | .ok address => step address
  | .error error => .reject error

/-- What setup data asks for; requests of other types ask for nothing. -/
def steps (setup : Setup) : List Step :=
  match setup.requestType with
  | none => [.reject (.missingKey "usb.bmRequestType")]
  | some text =>
      if hexWord? text = some readRequest then
        [setup.stepAt .await]
      else if hexWord? text = some writeRequest then
        setup.fragment.toList.map fun fragment => setup.stepAt (.write · fragment)
      else
        []

end Setup

namespace Packet

/-- What a packet asks for, in order. -/
def steps (packet : Packet) : List Step :=
  packet.response.toList.map .complete ++ packet.setup.toList.flatMap Setup.steps

/--
Whether a packet is a control transfer of a device; for a packet of it the type must be known.
-/
def concerns (packet : Packet) (device : String) : Except DecodeError Bool :=
  if packet.involves device then
    match packet.usb.transferType with
    | none => .error (.missingKey "usb.transfer_type")
    | some text => .ok (hexWord? text == some controlTransfer)
  else
    .ok false

end Packet

end RegisterTrace
