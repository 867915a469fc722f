import RegisterTrace.Payload

/-!
# Captured packets

A capture is a list of packets.  Every value in it is kept as the text that the capture shows.
What only some transfers carry may be absent: the transfer type, the setup data of a control
request, and the payload of the answer to one.
-/

namespace RegisterTrace

/-- The two ends of a transfer and its type. -/
structure Endpoints where
  source : String := ""
  destination : String := ""
  transferType : Option String := none
  deriving DecidableEq, Repr

/-- The setup data of a control request. -/
structure Setup where
  requestType : Option String := none
  index : Option String := none
  fragment : Option String := none
  deriving DecidableEq, Repr

/-- A packet of a capture. -/
structure Packet where
  time : String := ""
  usb : Endpoints := {}
  setup : Option Setup := none
  response : Option String := none
  deriving DecidableEq, Repr

/-- Whether a packet goes to or comes from a device. -/
def Packet.involves (packet : Packet) (device : String) : Bool :=
  packet.usb.source == device || packet.usb.destination == device

end RegisterTrace
