import RegisterTrace.Proofs.Capture.Layout
import RegisterTrace.Proofs.Json.Compact

/-!
# Captures that are written are read back

Every list of packets can be written, with every combination of values that may be absent and any
characters in its texts, and from whatever writes it exactly this list is read.
-/

namespace RegisterTrace.Capture

open Json

/-! ## Writing -/

/-- Writes the record of a frame. -/
def writeFrame (time : String) : List UInt8 :=
  compactObject [("frame.time", compactText time)]

/-- Writes the record of a transfer. -/
def writeEndpoints (usb : Endpoints) : List UInt8 :=
  compactObject
    [("usb.src", compactText usb.source),
     ("usb.dst", compactText usb.destination),
     ("usb.transfer_type", compactOptional compactText usb.transferType)]

/-- Writes the record of a request. -/
def writeSetup (setup : Setup) : List UInt8 :=
  compactObject
    [("usb.bmRequestType", compactOptional compactText setup.requestType),
     ("usb.setup.wIndex", compactOptional compactText setup.index),
     ("usb.data_fragment", compactOptional compactText setup.fragment)]

/-- Writes the record of a packet's layers. -/
def writeLayers (packet : Packet) : List UInt8 :=
  compactObject
    [("frame", writeFrame packet.time),
     ("usb", writeEndpoints packet.usb),
     ("Setup Data", compactOptional writeSetup packet.setup),
     ("usb.control.Response", compactOptional compactText packet.response)]

/-- Writes the record of a packet's source. -/
def writeSource (packet : Packet) : List UInt8 :=
  compactObject [("layers", writeLayers packet)]

/-- Writes the record of a packet. -/
def writePacket (packet : Packet) : List UInt8 :=
  compactObject [("_source", writeSource packet)]

/-- Writes a capture. -/
def write (packets : List Packet) : List UInt8 :=
  compactList (packets.map writePacket)

theorem frameText_writeFrame
    (time : String) :
    FrameText time (writeFrame time) :=
  recordText_compactObject (by simp) (.cons ⟨rfl, textValue_compactText time⟩ .nil)

theorem optionalText_compactText
    (text : Option String) :
    OptionalValue TextValue text (compactOptional compactText text) :=
  optionalValue_compactOptional textValue_compactText text

theorem endpointsText_writeEndpoints
    (usb : Endpoints) :
    EndpointsText usb (writeEndpoints usb) := by
  apply recordText_compactObject (by simp [requiredField, optionalField])
  exact
    .cons ⟨rfl, textValue_compactText usb.source⟩
      (.cons ⟨rfl, textValue_compactText usb.destination⟩
        (.cons ⟨rfl, optionalText_compactText usb.transferType⟩ .nil))

theorem setupText_writeSetup
    (setup : Setup) :
    SetupText setup (writeSetup setup) := by
  apply recordText_compactObject (by simp [optionalField])
  exact
    .cons ⟨rfl, optionalText_compactText setup.requestType⟩
      (.cons ⟨rfl, optionalText_compactText setup.index⟩
        (.cons ⟨rfl, optionalText_compactText setup.fragment⟩ .nil))

theorem layersText_writeLayers
    (packet : Packet) :
    LayersText packet (writeLayers packet) := by
  have setup := optionalValue_compactOptional setupText_writeSetup packet.setup
  apply recordText_compactObject (by simp [requiredField, optionalField])
  exact
    .cons ⟨rfl, frameText_writeFrame packet.time⟩
      (.cons ⟨rfl, endpointsText_writeEndpoints packet.usb⟩
        (.cons ⟨rfl, setup⟩ (.cons ⟨rfl, optionalText_compactText packet.response⟩ .nil)))

theorem sourceText_writeSource
    (packet : Packet) :
    SourceText packet (writeSource packet) :=
  recordText_compactObject (by simp) (.cons ⟨rfl, layersText_writeLayers packet⟩ .nil)

theorem packetText_writePacket
    (packet : Packet) :
    PacketText packet (writePacket packet) :=
  recordText_compactObject (by simp) (.cons ⟨rfl, sourceText_writeSource packet⟩ .nil)

theorem captureText_write
    (packets : List Packet) :
    CaptureText packets (write packets) :=
  ⟨[], _, [], spaces_nil, listValue_compactList packetText_writePacket packets, spaces_nil,
    (List.append_nil _).symm⟩

/-! ## Reading what was written -/

/-- Every list of packets can be written, and whatever writes it is read as this list. -/
theorem read_written
    (packets : List Packet) :
    CaptureText packets (write packets) ∧
      ∀ bytes, CaptureText packets bytes → read ⟨bytes, .finished⟩ = .ok packets :=
  ⟨captureText_write packets, fun _ written => read_eq_ok_iff.mpr ⟨rfl, written⟩⟩

/-! ## A capture that is written in another way -/

/-- A packet with a character outside the basic plane in its time and with little else. -/
def sparsePacket : Packet where
  time := "A 😀\n"
  usb := { source := "1.2.0", destination := "host" }
  setup := some { index := some "12" }

/-- A time with escapes of every kind, and a tab behind its key. -/
def mixedTime : Entry where
  key := "frame.time"
  written :=
    ⟨compactQuoted "frame.time", [byte '\t'], [],
      "\"\\u0041 \\uD83D\\ude00\\n\"".toList.map byte⟩

/-- An index with an escape in its key. -/
def mixedIndex : Entry where
  key := "usb.setup.wIndex"
  written := ⟨"usb.setup\\u002ewIndex\"".toList.map byte, [], [], compactText "12"⟩

/--
A capture of the packet with spaces, with lists for most of the records, and with a request's record
out of order, of whose absent values one is written and one is left out.
-/
def mixedCapture : List UInt8 :=
  "\n[ [[[".toList.map byte ++
    (objectOf [mixedTime] ++ ",[\"1.2.0\",\"host\"],".toList.map byte ++
      (objectOf [compactEntry ("usb.data_fragment", nullWord), mixedIndex] ++
        "]]] ] ".toList.map byte))

theorem textValue_mixedTime : TextValue sparsePacket.time mixedTime.written.value := by
  have unpaired : HexText 0x41 ("0041".toList.map byte) :=
    hexText_map_byte (by decide) (by decide) (by decide)
  have leading : HexText 0xD83D ("D83D".toList.map byte) :=
    hexText_map_byte (by decide) (by decide) (by decide)
  have trailing : HexText 0xDE00 ("de00".toList.map byte) :=
    hexText_map_byte (by decide) (by decide) (by decide)
  have lineFeed : EscapeText '\n' [byte '\\', byte 'n'] := .short (by decide)
  have pair : EscapeText '😀' _ :=
    .paired ⟨by decide, by decide⟩ ⟨by decide, by decide⟩ (by decide) leading trailing
  have written : StringText ['A', ' ', '😀', '\n'] _ :=
    .escaped (.numbered unpaired) (.plain (by decide) (.escaped pair (.escaped lineFeed .close)))
  exact ⟨_, written, by decide +kernel⟩

theorem spelled_mixedTime : mixedTime.Spelled :=
  ⟨stringText_compactQuoted "frame.time", by decide, by decide⟩

theorem spelled_mixedIndex : mixedIndex.Spelled := by
  have dot : HexText 0x2E ("002e".toList.map byte) :=
    hexText_map_byte (by decide) (by decide) (by decide)
  have behindDot : StringText ('.' :: "wIndex".toList) _ :=
    .escaped (.numbered dot) (stringText_compactQuoted "wIndex")
  have written := stringText_flatMap_compactCharacter "usb.setup".toList behindDot
  exact ⟨written, by decide, by decide⟩

theorem frameText_mixedTime : FrameText sparsePacket.time (objectOf [mixedTime]) := by
  have isValue := valueText_of_textValue textValue_mixedTime
  refine .inl ⟨[mixedTime], entriesText_objectOf ?_, ?_, ?_⟩
  · exact List.forall_mem_singleton.mpr spelled_mixedTime
  · exact List.forall_mem_singleton.mpr (.inl ⟨mixedTime, rfl, textValue_mixedTime⟩)
  · exact List.forall_mem_singleton.mpr fun _ => isValue

theorem setupText_mixedIndex :
    SetupText { index := some "12" }
      (objectOf [compactEntry ("usb.data_fragment", nullWord), mixedIndex]) := by
  have index := textValue_compactText "12"
  refine .inl ⟨_, entriesText_objectOf ?_, ?_, ?_⟩
  · simp only [List.forall_mem_cons]
    exact ⟨spelled_compactEntry _, spelled_mixedIndex, nofun⟩
  · simp only [List.forall_mem_cons]
    exact ⟨.inr ⟨rfl, rfl⟩, .inl ⟨_, rfl, index⟩, .inl ⟨_, rfl, rfl⟩, nofun⟩
  · simp only [List.forall_mem_cons]
    exact ⟨fun _ => valueText_nullWord, fun _ => valueText_of_textValue index, nofun⟩

theorem captureText_mixedCapture : CaptureText [sparsePacket] mixedCapture := by
  have usb :
      EndpointsText sparsePacket.usb (compactList [compactText "1.2.0", compactText "host"]) :=
    .inr ⟨_, listText_compactList _, textValue_compactText _, textValue_compactText _, rfl, rfl⟩
  have layers : LayersText sparsePacket (compactList [_, _, _]) :=
    .inr ⟨_, listText_compactList _, frameText_mixedTime, usb, setupText_mixedIndex, rfl, rfl⟩
  have source : SourceText sparsePacket (compactList [_]) :=
    .inr ⟨_, listText_compactList _, layers, rfl⟩
  have packet : PacketText sparsePacket (compactList [_]) :=
    .inr ⟨_, listText_compactList _, source, rfl⟩
  have space : Spaces [byte ' '] := by decide
  have packets : ListValue PacketText [sparsePacket] _ :=
    ⟨_, ⟨_, .items space (.close space), rfl⟩, .cons packet .nil⟩
  exact ⟨[byte '\n'], _, [byte ' '], by decide, packets, space, by decide +kernel⟩

/-- The packet is read from this capture as well. -/
theorem read_mixedCapture :
    CaptureText [sparsePacket] mixedCapture ∧
      read ⟨mixedCapture, .finished⟩ = .ok [sparsePacket] :=
  ⟨captureText_mixedCapture, (read_written [sparsePacket]).2 mixedCapture captureText_mixedCapture⟩

end RegisterTrace.Capture
