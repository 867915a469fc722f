import RegisterTrace.Capture.Read
import RegisterTrace.Proofs.Json.Record.Read

/-!
# The layout of captures

How packets are written is said record by record, from the fields of a frame up to the list of all
packets.  The shapes that the reader of captures goes by describe the same records, so a source is
read as packets exactly if it writes them.
-/

namespace RegisterTrace.Capture

open Json
open Json.Reader

variable {Record Value : Type}

/-! ## Fields -/

/-- A field that is always written. -/
def requiredField (key : String) (written : List UInt8 → Prop) : FieldText where
  key := key
  written := written
  omissible := False

/-- A field without a value is left out or written with the word for its absence. -/
def optionalField
    (key : String)
    (written : Value → List UInt8 → Prop)
    (value : Option Value) :
    FieldText where
  key := key
  written := OptionalValue written value
  omissible := value = none

/-- How the record of a frame with a time is written. -/
def FrameText (time : String) : List UInt8 → Prop :=
  RecordText [requiredField "frame.time" (TextValue time)]

/-- How the record of a transfer is written. -/
def EndpointsText (usb : Endpoints) : List UInt8 → Prop :=
  RecordText
    [requiredField "usb.src" (TextValue usb.source),
     requiredField "usb.dst" (TextValue usb.destination),
     optionalField "usb.transfer_type" TextValue usb.transferType]

/-- How the record of a request is written. -/
def SetupText (setup : Setup) : List UInt8 → Prop :=
  RecordText
    [optionalField "usb.bmRequestType" TextValue setup.requestType,
     optionalField "usb.setup.wIndex" TextValue setup.index,
     optionalField "usb.data_fragment" TextValue setup.fragment]

/-- How the record of a packet's layers is written. -/
def LayersText (packet : Packet) : List UInt8 → Prop :=
  RecordText
    [requiredField "frame" (FrameText packet.time),
     requiredField "usb" (EndpointsText packet.usb),
     optionalField "Setup Data" SetupText packet.setup,
     optionalField "usb.control.Response" TextValue packet.response]

/-- How the record of a packet's source is written. -/
def SourceText (packet : Packet) : List UInt8 → Prop :=
  RecordText [requiredField "layers" (LayersText packet)]

/-- How the record of a packet is written. -/
def PacketText (packet : Packet) : List UInt8 → Prop :=
  RecordText [requiredField "_source" (SourceText packet)]

/-- How a capture is written: the list of its packets with spaces around it. -/
def CaptureText (packets : List Packet) (bytes : List UInt8) : Prop :=
  ∃ before text after,
    Spaces before ∧
      ListValue PacketText packets text ∧ Spaces after ∧ bytes = before ++ (text ++ after)

/-! ## Parts -/

/-- A part that must be there. -/
def requiredPart
    (key : String)
    (reader : Reader Value)
    (written : Value → List UInt8 → Prop)
    (view : Record → Value)
    (put : Value → Record → Record) :
    RecordPart Record where
  key := key
  Value := Value
  view := view
  put := put
  reader := reader
  written := written
  absent := none

/-- A part that may be absent. -/
def optionalPart
    (key : String)
    (reader : Reader Value)
    (written : Value → List UInt8 → Prop)
    (view : Record → Option Value)
    (put : Option Value → Record → Record) :
    RecordPart Record where
  key := key
  Value := Option Value
  view := view
  put := put
  reader := Reader.optional reader
  written := OptionalValue written
  absent := some none

@[simp]
theorem requiredPart_field
    (key : String)
    (reader : Reader Value)
    (written : Value → List UInt8 → Prop)
    (view : Record → Value)
    (put : Value → Record → Record)
    (record : Record) :
    (requiredPart key reader written view put).field record =
      requiredField key (written (view record)) := by
  simp [requiredPart, RecordPart.field, requiredField]

@[simp]
theorem optionalPart_field
    (key : String)
    (reader : Reader Value)
    (written : Value → List UInt8 → Prop)
    (view : Record → Option Value)
    (put : Option Value → Record → Record)
    (record : Record) :
    (optionalPart key reader written view put).field record =
      optionalField key written (view record) := by
  simp [optionalPart, RecordPart.field, optionalField, eq_comm]

/-- The only part of a record that is nothing but the value of this part. -/
def wholePart
    (key : String)
    (reader : Reader Value)
    (written : Value → List UInt8 → Prop) :
    RecordPart Value :=
  requiredPart key reader written id fun value _ => value

/-- The parts of a transfer's record. -/
def usbParts : List (RecordPart Endpoints) :=
  [requiredPart "usb.src" Reader.text TextValue (·.source)
     fun source usb => { usb with source },
   requiredPart "usb.dst" Reader.text TextValue (·.destination)
     fun destination usb => { usb with destination },
   optionalPart "usb.transfer_type" Reader.text TextValue (·.transferType)
     fun transferType usb => { usb with transferType }]

/-- The parts of a request's record. -/
def setupParts : List (RecordPart Setup) :=
  [optionalPart "usb.bmRequestType" Reader.text TextValue (·.requestType)
     fun requestType setup => { setup with requestType },
   optionalPart "usb.setup.wIndex" Reader.text TextValue (·.index)
     fun index setup => { setup with index },
   optionalPart "usb.data_fragment" Reader.text TextValue (·.fragment)
     fun fragment setup => { setup with fragment }]

/-- The parts of the record of a packet's layers. -/
def layersParts : List (RecordPart Packet) :=
  [requiredPart "frame" frameShape.read FrameText (·.time)
     fun time packet => { packet with time },
   requiredPart "usb" usbShape.read EndpointsText (·.usb)
     fun usb packet => { packet with usb },
   optionalPart "Setup Data" setupShape.read SetupText (·.setup)
     fun setup packet => { packet with setup },
   optionalPart "usb.control.Response" Reader.text TextValue (·.response)
     fun response packet => { packet with response }]

/-! ## Readers -/

theorem reads_optionalText : Reads (Reader.optional Reader.text) (OptionalValue TextValue) := by
  apply reads_text.optional
  rintro text _ ⟨written, -, rfl⟩ startsWithN
  rw [List.head?_cons] at startsWithN
  exact absurd startsWithN (by decide)

/-- A record that is nothing but the value of its only part is read if the value is. -/
theorem reads_whole
    {shape : Shape Value}
    {key : String}
    {reader : Reader Value}
    {written : Value → List UInt8 → Prop}
    (members : shape.members = [(wholePart key reader written).member])
    (reads : Reads reader written) :
    Reads shape.read fun value => RecordText [requiredField key (written value)] := by
  have describes : shape.Describes [wholePart key reader written] :=
    { members := members
      keys := by simp
      reads := List.forall_mem_cons.mpr ⟨reads, nofun⟩
      view_put := by simp [wholePart, requiredPart]
      view_put_of_ne := by simp
      ext := by simp [wholePart, requiredPart]
      blank := by simp [wholePart, requiredPart] }
  have readsRecord := describes.reads_read
  simp only [wholePart, List.map_cons, List.map_nil, requiredPart_field] at readsRecord
  exact readsRecord

theorem reads_frame : Reads frameShape.read FrameText :=
  reads_whole rfl reads_text

theorem describes_usb : usbShape.Describes usbParts where
  members := rfl
  keys := by decide
  reads := by
    simp only [usbParts, List.forall_mem_cons]
    exact ⟨reads_text, reads_text, reads_optionalText, nofun⟩
  view_put := by simp [usbParts, requiredPart, optionalPart]
  view_put_of_ne := by simp [usbParts, requiredPart, optionalPart]
  ext := by
    rintro ⟨source, destination, transferType⟩ other same
    simp only [usbParts, List.forall_mem_cons] at same
    rcases same with ⟨rfl, rfl, rfl, -⟩
    rfl
  blank := by simp [usbParts, requiredPart, optionalPart, usbShape]

theorem reads_usb : Reads usbShape.read EndpointsText := by
  have reads := describes_usb.reads_read
  simp only [usbParts, List.map_cons, List.map_nil, requiredPart_field, optionalPart_field]
    at reads
  exact reads

theorem describes_setup : setupShape.Describes setupParts where
  members := rfl
  keys := by decide
  reads := by
    simp only [setupParts, List.forall_mem_cons]
    exact ⟨reads_optionalText, reads_optionalText, reads_optionalText, nofun⟩
  view_put := by simp [setupParts, optionalPart]
  view_put_of_ne := by simp [setupParts, optionalPart]
  ext := by
    rintro ⟨requestType, index, fragment⟩ other same
    simp only [setupParts, List.forall_mem_cons] at same
    rcases same with ⟨rfl, rfl, rfl, -⟩
    rfl
  blank := by simp [setupParts, optionalPart, setupShape]

theorem reads_setup : Reads setupShape.read SetupText := by
  have reads := describes_setup.reads_read
  simp only [setupParts, List.map_cons, List.map_nil, optionalPart_field] at reads
  exact reads

theorem reads_optionalSetup :
    Reads (Reader.optional setupShape.read) (OptionalValue SetupText) := by
  apply reads_setup.optional
  intro setup text written startsWithN
  rcases head?_of_recordText written with brace | bracket
  · rw [brace] at startsWithN
    exact absurd startsWithN (by decide)
  · rw [bracket] at startsWithN
    exact absurd startsWithN (by decide)

theorem describes_layers : layersShape.Describes layersParts where
  members := rfl
  keys := by decide
  reads := by
    simp only [layersParts, List.forall_mem_cons]
    exact ⟨reads_frame, reads_usb, reads_optionalSetup, reads_optionalText, nofun⟩
  view_put := by simp [layersParts, requiredPart, optionalPart]
  view_put_of_ne := by simp [layersParts, requiredPart, optionalPart]
  ext := by
    rintro ⟨time, usb, setup, response⟩ other same
    simp only [layersParts, List.forall_mem_cons] at same
    rcases same with ⟨rfl, rfl, rfl, rfl, -⟩
    rfl
  blank := by simp [layersParts, requiredPart, optionalPart, layersShape]

theorem reads_layers : Reads layersShape.read LayersText := by
  have reads := describes_layers.reads_read
  simp only [layersParts, List.map_cons, List.map_nil, requiredPart_field, optionalPart_field]
    at reads
  exact reads

theorem reads_source : Reads sourceShape.read SourceText :=
  reads_whole rfl reads_layers

theorem reads_packet : Reads packetShape.read PacketText :=
  reads_whole rfl reads_source

/-- A source is read as packets exactly if it writes them and ends. -/
theorem read_eq_ok_iff
    {source : Source}
    {packets : List Packet} :
    read source = .ok packets ↔ source.ending = .finished ∧ CaptureText packets source.bytes := by
  have document :
      read source = .ok packets ↔
        ∃ rest, reader.run source.ending source.bytes = .ok (packets, rest) := by
    rw [read]
    cases reader.run source.ending source.bytes with
    | error fault => simp [Except.map]
    | ok made =>
        rcases made with ⟨given, left⟩
        simp [Except.map]
  rw [document, reader]
  simp only [reads_packet.list.run_document_eq_ok_iff]
  constructor
  · rintro ⟨rest, finished, -, written⟩
    exact ⟨finished, written⟩
  · rintro ⟨finished, written⟩
    exact ⟨[], finished, rfl, written⟩

end RegisterTrace.Capture
