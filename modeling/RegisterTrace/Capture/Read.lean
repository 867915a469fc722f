import RegisterTrace.Capture.Packet
import RegisterTrace.Json.Record

/-!
# Reading a capture

A capture is a JSON list of packets.  A packet nests its records as protocol analysers export them:
the source of the packet holds its layers, and the layers hold what is known of the frame, of the
transfer, and of the request.  All members that are not named here are skipped.
-/

namespace RegisterTrace.Capture

open Json
open Json.Reader

/-- A member that is a string. -/
def textMember {Record : Type} (key : String) (set : String → Record → Record) : Member Record where
  key := key
  required := true
  value := set <$> Reader.text

/-- A member that may be absent. -/
def optionalMember
    {Record Value : Type}
    (key : String)
    (value : Reader Value)
    (set : Option Value → Record → Record) :
    Member Record where
  key := key
  required := false
  value := set <$> Reader.optional value

/-- A member that is a record of its own. -/
def recordMember
    {Record Value : Type}
    (key : String)
    (shape : Shape Value)
    (set : Value → Record → Record) :
    Member Record where
  key := key
  required := true
  value := set <$> shape.read

/-- The record of a frame, of which the time is kept. -/
def frameShape : Shape String where
  name := "FrameLayer"
  blank := ""
  members := [textMember "frame.time" fun time _ => time]

/-- The record of a transfer. -/
def usbShape : Shape Endpoints where
  name := "UsbLayer"
  blank := {}
  members :=
    [textMember "usb.src" fun source usb => { usb with source },
     textMember "usb.dst" fun destination usb => { usb with destination },
     optionalMember "usb.transfer_type" Reader.text fun transferType usb =>
       { usb with transferType }]

/-- The record of a request. -/
def setupShape : Shape Setup where
  name := "SetupData"
  blank := {}
  members :=
    [optionalMember "usb.bmRequestType" Reader.text fun requestType setup =>
       { setup with requestType },
     optionalMember "usb.setup.wIndex" Reader.text fun index setup =>
       { setup with index },
     optionalMember "usb.data_fragment" Reader.text fun fragment setup =>
       { setup with fragment }]

/-- The record of a packet's layers. -/
def layersShape : Shape Packet where
  name := "Layers"
  blank := {}
  members :=
    [recordMember "frame" frameShape fun time packet => { packet with time },
     recordMember "usb" usbShape fun usb packet => { packet with usb },
     optionalMember "Setup Data" setupShape.read fun setup packet => { packet with setup },
     optionalMember "usb.control.Response" Reader.text fun response packet =>
       { packet with response }]

/-- The record of a packet's source. -/
def sourceShape : Shape Packet where
  name := "PacketSource"
  blank := {}
  members := [recordMember "layers" layersShape fun packet _ => packet]

/-- The record of a packet. -/
def packetShape : Shape Packet where
  name := "CapturePacket"
  blank := {}
  members := [recordMember "_source" sourceShape fun packet _ => packet]

/-- Takes a whole capture. -/
def reader : Reader (List Packet) :=
  document (Reader.list packetShape.read)

/-- The packets of a capture, or the first fault in it. -/
def read (source : Source) : Except Fault (List Packet) :=
  (reader.run source.ending source.bytes).map Prod.fst

/-- The text of a fault in a capture. -/
def message (fault : Fault) : String :=
  "malformed capture: " ++ fault.message

end RegisterTrace.Capture
