import RegisterTrace.Proofs.Capture.ListPrefix
import RegisterTrace.Proofs.Capture.Written
import RegisterTrace.Proofs.Json.Record.Rearrange

/-!
# Captures that are rearranged

Only the members that a record knows matter.  In every object of a capture, on each level of the
nesting, members may be reordered, and members with other keys may come and go with any value; the
packets that are read stay the same.  A key that one record knows is a stranger to the others.
-/

namespace RegisterTrace.Capture

open Json

/-! ## Rearranging -/

/-- A member that is a string, which stays as it is. -/
def textChange (key : String) : FieldChange where
  key := key
  rearranged := Eq

/-- How the record of a frame may be rearranged. -/
def FrameRearranged : List UInt8 → List UInt8 → Prop :=
  RecordRearranged [textChange "frame.time"]

/-- How the record of a transfer may be rearranged. -/
def EndpointsRearranged : List UInt8 → List UInt8 → Prop :=
  RecordRearranged [textChange "usb.src", textChange "usb.dst", textChange "usb.transfer_type"]

/-- How the record of a request may be rearranged. -/
def SetupRearranged : List UInt8 → List UInt8 → Prop :=
  RecordRearranged
    [textChange "usb.bmRequestType", textChange "usb.setup.wIndex", textChange "usb.data_fragment"]

/-- How the record of a packet's layers may be rearranged. -/
def LayersRearranged : List UInt8 → List UInt8 → Prop :=
  RecordRearranged
    [⟨"frame", FrameRearranged⟩, ⟨"usb", EndpointsRearranged⟩, ⟨"Setup Data", SetupRearranged⟩,
     textChange "usb.control.Response"]

/-- How the record of a packet's source may be rearranged. -/
def SourceRearranged : List UInt8 → List UInt8 → Prop :=
  RecordRearranged [⟨"layers", LayersRearranged⟩]

/-- How the record of a packet may be rearranged. -/
def PacketRearranged : List UInt8 → List UInt8 → Prop :=
  RecordRearranged [⟨"_source", SourceRearranged⟩]

/-- Bytes are a list of values with spaces around it. -/
def ListDocument (items : List (List UInt8)) (bytes : List UInt8) : Prop :=
  ∃ before text after,
    Spaces before ∧
      ListText items text ∧
        (∀ item ∈ items, ValueText item) ∧ Spaces after ∧ bytes = before ++ (text ++ after)

/-- How a capture may be rearranged: packet by packet. -/
def CaptureRearranged (bytes other : List UInt8) : Prop :=
  ∃ items others,
    ListDocument items bytes ∧
      ListDocument others other ∧ List.Forall₂ PacketRearranged items others

/-! ## Records -/

variable {text other bytes : List UInt8}

/-- A field whose value stays as it is survives. -/
theorem survives_text
    {field : FieldText}
    (valueText : ∀ {text}, field.written text → ValueText text) :
    field.Survives (textChange field.key) where
  key := rfl
  written := by
    rintro text other written rfl
    exact written
  valueText := valueText

theorem frameText_of_rearranged
    {time : String}
    (written : FrameText time text)
    (rearranged : FrameRearranged text other) :
    FrameText time other := by
  apply RecordText.rearranged written (by decide) _ rearranged
  exact .cons (survives_text valueText_of_textValue) .nil

theorem endpointsText_of_rearranged
    {usb : Endpoints}
    (written : EndpointsText usb text)
    (rearranged : EndpointsRearranged text other) :
    EndpointsText usb other := by
  apply RecordText.rearranged written (by decide) _ rearranged
  exact
    .cons (survives_text valueText_of_textValue)
      (.cons (survives_text valueText_of_textValue)
        (.cons (survives_text reads_optionalText.valueText) .nil))

theorem setupText_of_rearranged
    {setup : Setup}
    (written : SetupText setup text)
    (rearranged : SetupRearranged text other) :
    SetupText setup other := by
  apply RecordText.rearranged written (by decide) _ rearranged
  exact
    .cons (survives_text reads_optionalText.valueText)
      (.cons (survives_text reads_optionalText.valueText)
        (.cons (survives_text reads_optionalText.valueText) .nil))

/-- The word for the absence of a record can only stay as it is. -/
theorem eq_nullWord_of_rearranged
    {changes : List FieldChange}
    (rearranged : RecordRearranged changes nullWord other) :
    other = nullWord := by
  cases rearranged with
  | same same => exact same.symm
  | object objects =>
      rcases objects with ⟨_, _, _, ⟨⟨⟨_, -, isObject, -⟩, -⟩, -⟩, -⟩
      exact absurd (List.cons.inj isObject).1 (by decide)
  | list lists =>
      rcases lists with ⟨_, _, ⟨_, -, isList⟩, -⟩
      exact absurd (List.cons.inj isList).1 (by decide)

theorem survives_setup
    (setup : Option Setup) :
    (optionalField "Setup Data" SetupText setup).Survives ⟨"Setup Data", SetupRearranged⟩ where
  key := rfl
  written := by
    intro text other written rearranged
    cases setup with
    | none =>
        have isNull : text = nullWord := written
        subst isNull
        exact eq_nullWord_of_rearranged rearranged
    | some setup => exact setupText_of_rearranged written rearranged
  valueText := reads_optionalSetup.valueText

theorem layersText_of_rearranged
    {packet : Packet}
    (written : LayersText packet text)
    (rearranged : LayersRearranged text other) :
    LayersText packet other := by
  apply RecordText.rearranged written (by decide) _ rearranged
  exact
    .cons ⟨rfl, frameText_of_rearranged, reads_frame.valueText⟩
      (.cons ⟨rfl, endpointsText_of_rearranged, reads_usb.valueText⟩
        (.cons (survives_setup packet.setup)
          (.cons (survives_text reads_optionalText.valueText) .nil)))

theorem sourceText_of_rearranged
    {packet : Packet}
    (written : SourceText packet text)
    (rearranged : SourceRearranged text other) :
    SourceText packet other := by
  apply RecordText.rearranged written (by decide) _ rearranged
  exact .cons ⟨rfl, layersText_of_rearranged, reads_layers.valueText⟩ .nil

theorem packetText_of_rearranged
    {packet : Packet}
    (written : PacketText packet text)
    (rearranged : PacketRearranged text other) :
    PacketText packet other := by
  apply RecordText.rearranged written (by decide) _ rearranged
  exact .cons ⟨rfl, sourceText_of_rearranged, reads_source.valueText⟩ .nil

/-! ## Captures -/

theorem listDocument_iff
    {items : List (List UInt8)} :
    ListDocument items bytes ↔ ∃ rest, ListPrefix items rest bytes ∧ Spaces rest := by
  constructor
  · rintro ⟨gap, text, rest, spaces, isList, values, spacesAfter, same⟩
    exact ⟨rest, ⟨gap, text, spaces, isList, values, same⟩, spacesAfter⟩
  · rintro ⟨rest, ⟨gap, text, spaces, isList, values, same⟩, spacesAfter⟩
    exact ⟨gap, text, rest, spaces, isList, values, spacesAfter, same⟩

/-- Bytes are a list of values in one way, whatever spaces stand around it. -/
theorem listDocument_inj
    {items others : List (List UInt8)}
    (left : ListDocument items bytes)
    (right : ListDocument others bytes) :
    items = others := by
  rcases listDocument_iff.mp left with ⟨rest, starts, -⟩
  rcases listDocument_iff.mp right with ⟨otherRest, otherStarts, -⟩
  exact (listPrefix_inj starts otherStarts).1

theorem forall₂_packetText_of_rearranged
    {packets : List Packet}
    {items others : List (List UInt8)}
    (written : List.Forall₂ PacketText packets items)
    (rearranged : List.Forall₂ PacketRearranged items others) :
    List.Forall₂ PacketText packets others := by
  induction written generalizing others with
  | nil =>
      cases rearranged
      exact .nil
  | cons isWritten _ inductionHypothesis =>
      cases rearranged with
      | cons moved rest =>
          exact .cons (packetText_of_rearranged isWritten moved) (inductionHypothesis rest)

theorem captureText_iff
    {packets : List Packet} :
    CaptureText packets bytes ↔
      ∃ items, ListDocument items bytes ∧ List.Forall₂ PacketText packets items := by
  simp only [captureText_iff_listPrefix, listDocument_iff]
  constructor
  · rintro ⟨items, rest, starts, spaces, packetwise⟩
    exact ⟨items, ⟨rest, starts, spaces⟩, packetwise⟩
  · rintro ⟨items, ⟨rest, starts, spaces⟩, packetwise⟩
    exact ⟨items, rest, starts, spaces, packetwise⟩

/-- What is read from a capture stays the same when the capture is rearranged. -/
theorem read_of_rearranged
    {source : Source}
    {packets : List Packet}
    (accepted : read source = .ok packets)
    (rearranged : CaptureRearranged source.bytes bytes) :
    read { source with bytes } = .ok packets := by
  rcases read_eq_ok_iff.mp accepted with ⟨finished, written⟩
  rcases captureText_iff.mp written with ⟨items, isDocument, areWritten⟩
  rcases rearranged with ⟨given, others, givenDocument, otherDocument, packetwise⟩
  have sameItems := listDocument_inj givenDocument isDocument
  subst sameItems
  have othersWritten := forall₂_packetText_of_rearranged areWritten packetwise
  exact read_eq_ok_iff.mpr ⟨finished, captureText_iff.mpr ⟨others, otherDocument, othersWritten⟩⟩

/-! ## A capture and its rearrangement -/

/-- A packet of a transfer. -/
def plainPacket : Packet where
  time := "noon"
  usb := { source := "1.2.0", destination := "host" }

/-- A capture of it, with a member that no packet knows. -/
def plainCapture : List UInt8 :=
  compactList
    [compactObject [("_index", compactText "usb"), ("_source", writeSource plainPacket)]]

/-- A list with a number and with an object in it. -/
def nestedValue : List UInt8 :=
  compactList ["0".toList.map byte, compactObject [("x", compactText "]")]]

/-- A string that is no text. -/
def loneSurrogate : List UInt8 :=
  "\"\\ud800\"".toList.map byte

/-- The record of the transfer in another order. -/
def movedEndpoints : List UInt8 :=
  compactObject
    [("usb.dst", compactText "host"), ("usb.transfer_type", nullWord),
     ("usb.src", compactText "1.2.0")]

/-- The layers in another order, and twice among them a key that only the transfer knows. -/
def movedLayers : List UInt8 :=
  compactObject
    [("usb.src", nestedValue), ("usb", movedEndpoints), ("usb.src", loneSurrogate),
     ("Setup Data", nullWord), ("frame", writeFrame plainPacket.time),
     ("usb.control.Response", nullWord)]

/-- The capture rearranged, without the member that no packet knows. -/
def movedCapture : List UInt8 :=
  compactList [compactObject [("_source", compactObject [("layers", movedLayers)])]]

theorem captureText_plainCapture : CaptureText [plainPacket] plainCapture := by
  have source := sourceText_writeSource plainPacket
  have packet : PacketText plainPacket
      (compactObject [("_index", compactText "usb"), ("_source", writeSource plainPacket)]) := by
    refine .inl ⟨_, entriesText_compactObject _, ?_, ?_⟩
    · exact List.forall_mem_singleton.mpr (.inl ⟨_, rfl, source⟩)
    · simp only [List.map_cons, List.map_nil, List.forall_mem_cons]
      exact
        ⟨fun _ => valueText_of_textValue (textValue_compactText "usb"),
          fun _ => reads_source.valueText source, nofun⟩
  exact
    ⟨[], _, [], spaces_nil, ⟨_, listText_compactList _, .cons packet .nil⟩, spaces_nil,
      (List.append_nil _).symm⟩

theorem valueText_nestedValue : ValueText nestedValue := by
  have isDigits : Digits [byte '0'] :=
    ⟨List.cons_ne_nil _ _, List.forall_mem_singleton.mpr (by decide)⟩
  have zero : ValueText ("0".toList.map byte) :=
    .number
      ⟨[], [byte '0'], [], [], .inl rfl, ⟨isDigits, fun _ => rfl⟩, .inl rfl, .inl rfl, rfl⟩
  have bracket : ValueText (compactText "]") := valueText_of_textValue (textValue_compactText "]")
  have object : ValuesText _ (compactObject [("x", compactText "]")]) :=
    valuesText_compactObject (List.forall_mem_singleton.mpr bracket)
  refine .list (listText_compactList _) ?_
  simp only [List.forall_mem_cons]
  exact ⟨zero, object.valueText, nofun⟩

theorem valueText_loneSurrogate : ValueText loneSurrogate := by
  have hex : HexText 0xD800 ("d800".toList.map byte) :=
    hexText_map_byte (by decide) (by decide) (by decide)
  exact .text (.numbered hex .close)

theorem endpointsRearranged_moved :
    EndpointsRearranged (writeEndpoints plainPacket.usb) movedEndpoints := by
  have source := valueText_of_textValue (textValue_compactText "1.2.0")
  have destination := valueText_of_textValue (textValue_compactText "host")
  refine
    .object
      ⟨_, _, _, valuesText_compactObject ?_, valuesText_compactObject ?_,
        @List.perm_append_comm _ [_, _] [_], ?_⟩
  · simp only [List.forall_mem_cons]
    exact ⟨source, destination, valueText_nullWord, nofun⟩
  · simp only [List.forall_mem_cons]
    exact ⟨destination, valueText_nullWord, source, nofun⟩
  · exact
      .cons ⟨textChange "usb.dst", by simp, rfl, rfl, rfl⟩
        (.cons ⟨textChange "usb.transfer_type", by simp, rfl, rfl, rfl⟩
          (.cons ⟨textChange "usb.src", by simp, rfl, rfl, rfl⟩ .nil))

theorem layersRearranged_moved : LayersRearranged (writeLayers plainPacket) movedLayers := by
  have frame := reads_frame.valueText (frameText_writeFrame plainPacket.time)
  have usb := endpointsText_writeEndpoints plainPacket.usb
  have movedUsb := endpointsText_of_rearranged usb endpointsRearranged_moved
  refine
    .object
      ⟨_, _, _, valuesText_compactObject ?_, valuesText_compactObject ?_,
        @List.perm_middle _ _ [_, _] [_], ?_⟩
  · simp only [List.forall_mem_cons]
    exact ⟨frame, reads_usb.valueText usb, valueText_nullWord, valueText_nullWord, nofun⟩
  · simp only [List.forall_mem_cons]
    exact
      ⟨valueText_nestedValue, reads_usb.valueText movedUsb, valueText_loneSurrogate,
        valueText_nullWord, frame, valueText_nullWord, nofun⟩
  · exact
      .cons ⟨⟨"usb", EndpointsRearranged⟩, by simp, rfl, rfl, endpointsRearranged_moved⟩
        (.cons ⟨⟨"Setup Data", SetupRearranged⟩, by simp, rfl, rfl, .same rfl⟩
          (.cons ⟨⟨"frame", FrameRearranged⟩, by simp, rfl, rfl, .same rfl⟩
            (.cons ⟨textChange "usb.control.Response", by simp, rfl, rfl, rfl⟩ .nil)))

theorem captureRearranged_moved : CaptureRearranged plainCapture movedCapture := by
  have source := reads_source.valueText (sourceText_writeSource plainPacket)
  have layers := reads_layers.valueText (layersText_writeLayers plainPacket)
  have index := valueText_of_textValue (textValue_compactText "usb")
  have movedLayersText : LayersText plainPacket movedLayers :=
    layersText_of_rearranged (layersText_writeLayers plainPacket) layersRearranged_moved
  have layersObject : ValuesText _ (compactObject [("layers", movedLayers)]) :=
    valuesText_compactObject
      (List.forall_mem_singleton.mpr (reads_layers.valueText movedLayersText))
  have sourceRearranged :
      SourceRearranged (writeSource plainPacket) (compactObject [("layers", movedLayers)]) := by
    refine .object ⟨_, _, _, valuesText_compactObject ?_, layersObject, .refl _, ?_⟩
    · exact List.forall_mem_singleton.mpr layers
    · exact .cons ⟨⟨"layers", LayersRearranged⟩, by simp, rfl, rfl, layersRearranged_moved⟩ .nil
  have values : ∀ member ∈ [("_index", compactText "usb"), ("_source", writeSource plainPacket)],
      ValueText member.2 := by
    simp only [List.forall_mem_cons]
    exact ⟨index, source, nofun⟩
  have packet := valuesText_compactObject values
  have movedPacket : ValuesText _
      (compactObject [("_source", compactObject [("layers", movedLayers)])]) :=
    valuesText_compactObject (List.forall_mem_singleton.mpr layersObject.valueText)
  have packetRearranged : PacketRearranged _ _ :=
    .object
      ⟨_, _, _, packet, movedPacket, .refl _,
        .cons ⟨⟨"_source", SourceRearranged⟩, by simp, rfl, rfl, sourceRearranged⟩ .nil⟩
  refine
    ⟨_, _,
      ⟨[], _, [], spaces_nil, listText_compactList _, ?_, spaces_nil, (List.append_nil _).symm⟩,
      ⟨[], _, [], spaces_nil, listText_compactList _, ?_, spaces_nil, (List.append_nil _).symm⟩,
      .cons packetRearranged .nil⟩
  · exact List.forall_mem_singleton.mpr packet.valueText
  · exact List.forall_mem_singleton.mpr movedPacket.valueText

/-- Both captures are read as the one packet. -/
theorem read_movedCapture :
    read ⟨plainCapture, .finished⟩ = .ok [plainPacket] ∧
      CaptureRearranged plainCapture movedCapture ∧
        read ⟨movedCapture, .finished⟩ = .ok [plainPacket] := by
  have accepted : read ⟨plainCapture, .finished⟩ = .ok [plainPacket] :=
    read_eq_ok_iff.mpr ⟨rfl, captureText_plainCapture⟩
  exact
    ⟨accepted, captureRearranged_moved, read_of_rearranged accepted captureRearranged_moved⟩

end RegisterTrace.Capture
