import RegisterTrace.Proofs.Capture.ListPrefix
import RegisterTrace.Proofs.Capture.Written
import RegisterTrace.Proofs.Json.Record.Defect

/-!
# Captures that are accepted

A source is read as packets only if it is one list, with spaces around it, that has an item for each
packet, and if each item gives its packet: every member that must be there once, every other one at
most once, and each with the value that the packet holds.  So a single defect, in any item and on
any level of its nesting, keeps the whole capture from being read, and so does anything but spaces
behind the list.
-/

namespace RegisterTrace.Capture

open Json

variable {text : List UInt8}

/-! ## What records ask -/

/-- A value of another kind than a string. -/
def NotText (text : List UInt8) : Prop :=
  ValueText text ∧ text.head? ≠ some (byte '"')

/-- A member that must be there. -/
def requiredRule (key : String) (wrong : List UInt8 → Prop) : FieldRule where
  key := key
  required := true
  wrong := wrong

/-- A member that may be absent; the word for the absence is not wrong for it. -/
def optionalRule (key : String) (wrong : List UInt8 → Prop) : FieldRule where
  key := key
  required := false
  wrong := fun text => text ≠ nullWord ∧ wrong text

/-- What the record of a frame asks. -/
def frameRules : List FieldRule :=
  [requiredRule "frame.time" NotText]

/-- What the record of a transfer asks. -/
def usbRules : List FieldRule :=
  [requiredRule "usb.src" NotText,
   requiredRule "usb.dst" NotText,
   optionalRule "usb.transfer_type" NotText]

/-- What the record of a request asks. -/
def setupRules : List FieldRule :=
  [optionalRule "usb.bmRequestType" NotText,
   optionalRule "usb.setup.wIndex" NotText,
   optionalRule "usb.data_fragment" NotText]

/-- What the record of a packet's layers asks. -/
def layersRules : List FieldRule :=
  [requiredRule "frame" (RecordDefect frameRules),
   requiredRule "usb" (RecordDefect usbRules),
   optionalRule "Setup Data" (RecordDefect setupRules),
   optionalRule "usb.control.Response" NotText]

/-- What the record of a packet's source asks. -/
def sourceRules : List FieldRule :=
  [requiredRule "layers" (RecordDefect layersRules)]

/-- What the record of a packet asks. -/
def packetRules : List FieldRule :=
  [requiredRule "_source" (RecordDefect sourceRules)]

/-! ## What is read has no defect -/

variable {Value : Type}

theorem meets_required
    {key : String}
    {written wrong : List UInt8 → Prop}
    (valued : ∀ {text}, written text → ValueText text)
    (right : ∀ {text}, written text → ¬ wrong text) :
    (requiredField key written).Meets (requiredRule key wrong) where
  key := rfl
  required := fun _ => not_false
  right := right
  valued := valued

theorem meets_optional
    {key : String}
    {written : Value → List UInt8 → Prop}
    {wrong : List UInt8 → Prop}
    (valued : ∀ {value text}, OptionalValue written value text → ValueText text)
    (right : ∀ {value text}, written value text → ¬ wrong text)
    (value : Option Value) :
    (optionalField key written value).Meets (optionalRule key wrong) where
  key := rfl
  required := nofun
  right := by
    rintro text isWritten ⟨notNull, isWrong⟩
    cases value with
    | none => exact notNull isWritten
    | some value => exact right isWritten isWrong
  valued := valued

theorem not_notText
    {value : String}
    (written : TextValue value text) :
    ¬ NotText text := by
  rcases written with ⟨quoted, -, rfl⟩
  exact fun wrong => wrong.2 rfl

/-- A string that must be there is written as its rule asks. -/
theorem meets_requiredText
    (key : String)
    (value : String) :
    (requiredField key (TextValue value)).Meets (requiredRule key NotText) :=
  meets_required valueText_of_textValue not_notText

/-- A string that may be absent is written as its rule asks. -/
theorem meets_optionalText
    (key : String)
    (value : Option String) :
    (optionalField key TextValue value).Meets (optionalRule key NotText) :=
  meets_optional reads_optionalText.valueText not_notText value

theorem not_frameDefect
    {time : String}
    (written : FrameText time text) :
    ¬ RecordDefect frameRules text := by
  apply RecordText.not_recordDefect _ written
  exact .cons (meets_requiredText "frame.time" time) .nil

theorem not_usbDefect
    {usb : Endpoints}
    (written : EndpointsText usb text) :
    ¬ RecordDefect usbRules text := by
  apply RecordText.not_recordDefect _ written
  exact
    .cons (meets_requiredText "usb.src" usb.source)
      (.cons (meets_requiredText "usb.dst" usb.destination)
        (.cons (meets_optionalText "usb.transfer_type" usb.transferType) .nil))

theorem not_setupDefect
    {setup : Setup}
    (written : SetupText setup text) :
    ¬ RecordDefect setupRules text := by
  apply RecordText.not_recordDefect _ written
  exact
    .cons (meets_optionalText "usb.bmRequestType" setup.requestType)
      (.cons (meets_optionalText "usb.setup.wIndex" setup.index)
        (.cons (meets_optionalText "usb.data_fragment" setup.fragment) .nil))

theorem not_layersDefect
    {packet : Packet}
    (written : LayersText packet text) :
    ¬ RecordDefect layersRules text := by
  apply RecordText.not_recordDefect _ written
  exact
    .cons (meets_required reads_frame.valueText not_frameDefect)
      (.cons (meets_required reads_usb.valueText not_usbDefect)
        (.cons (meets_optional reads_optionalSetup.valueText not_setupDefect packet.setup)
          (.cons (meets_optionalText "usb.control.Response" packet.response) .nil)))

theorem not_sourceDefect
    {packet : Packet}
    (written : SourceText packet text) :
    ¬ RecordDefect sourceRules text := by
  apply RecordText.not_recordDefect _ written
  exact .cons (meets_required reads_layers.valueText not_layersDefect) .nil

theorem not_packetDefect
    {packet : Packet}
    (written : PacketText packet text) :
    ¬ RecordDefect packetRules text := by
  apply RecordText.not_recordDefect _ written
  exact .cons (meets_required reads_source.valueText not_sourceDefect) .nil

/-! ## Nothing else is accepted -/

/-- What is not read as packets is read as a fault. -/
theorem exists_fault_of_not_accepted
    {source : Source}
    (notAccepted : ∀ packets, read source ≠ .ok packets) :
    ∃ fault, read source = .error fault := by
  cases outcome : read source with
  | ok packets => exact absurd outcome (notAccepted packets)
  | error fault => exact ⟨fault, rfl⟩

/--
A source is read as packets only if it is a list with spaces around it whose items write the packets
one by one.  It is not read if anything but spaces follows the list or if any item has a defect.
-/
theorem read_accepts_only
    (source : Source) :
    (∀ packets, read source = .ok packets →
      source.ending = .finished ∧
        ∃ items rest,
          ListPrefix items rest source.bytes ∧
            Spaces rest ∧
              items.length = packets.length ∧ List.Forall₂ PacketText packets items) ∧
      ∀ items rest, ListPrefix items rest source.bytes →
        (¬ Spaces rest ∨ ∃ item ∈ items, RecordDefect packetRules item) →
          ∃ fault, read source = .error fault := by
  constructor
  · intro packets accepted
    rcases read_eq_ok_iff.mp accepted with ⟨finished, written⟩
    rcases captureText_iff_listPrefix.mp written with ⟨items, rest, starts, spaces, packetwise⟩
    exact ⟨finished, items, rest, starts, spaces, packetwise.length_eq.symm, packetwise⟩
  · intro items rest starts spoiled
    apply exists_fault_of_not_accepted
    intro packets accepted
    have written := (read_eq_ok_iff.mp accepted).2
    rcases written.of_listPrefix starts with ⟨spaces, packetwise⟩
    rcases spoiled with notSpaces | ⟨item, isItem, defect⟩
    · exact notSpaces spaces
    · rcases exists_of_forall₂ packetwise.flip item isItem with ⟨packet, -, itemWritten⟩
      exact not_packetDefect itemWritten defect

/-! ## A key that is given twice -/

/-- The members of a transfer's record that gives its source twice. -/
def doubledEndpoints : List (String × List UInt8) :=
  [("usb.src", compactText "1.2.0"), ("usb.dst", compactText "host"),
   ("usb.src", compactText "1.3.0")]

/-- The members of the layers with this record. -/
def doubledLayers : List (String × List UInt8) :=
  [("frame", writeFrame "noon"), ("usb", compactObject doubledEndpoints)]

/-- A packet with these layers. -/
def doubledPacket : List UInt8 :=
  compactObject [("_source", compactObject [("layers", compactObject doubledLayers)])]

theorem packetDefect_doubledPacket :
    ValueText doubledPacket ∧ RecordDefect packetRules doubledPacket := by
  have endpoints :
      ValuesText (doubledEndpoints.map compactEntry) (compactObject doubledEndpoints) := by
    apply valuesText_compactObject
    simp only [doubledEndpoints, List.forall_mem_cons]
    exact
      ⟨valueText_of_textValue (textValue_compactText "1.2.0"),
        valueText_of_textValue (textValue_compactText "host"),
        valueText_of_textValue (textValue_compactText "1.3.0"), nofun⟩
  have layers : ValuesText (doubledLayers.map compactEntry) (compactObject doubledLayers) := by
    apply valuesText_compactObject
    simp only [doubledLayers, List.forall_mem_cons]
    exact ⟨reads_frame.valueText (frameText_writeFrame "noon"), endpoints.valueText, nofun⟩
  have source : ValuesText _ (compactObject [("layers", compactObject doubledLayers)]) :=
    valuesText_compactObject (List.forall_mem_singleton.mpr layers.valueText)
  have packet : ValuesText _ doubledPacket :=
    valuesText_compactObject (List.forall_mem_singleton.mpr source.valueText)
  have usbDefect : RecordDefect usbRules (compactObject doubledEndpoints) :=
    .twice endpoints List.mem_cons_self (Nat.le_refl 2)
  have layersDefect : RecordDefect layersRules (compactObject doubledLayers) :=
    .wrong layers (List.mem_cons_of_mem _ List.mem_cons_self) List.mem_cons_self usbDefect
  have sourceDefect : RecordDefect sourceRules _ :=
    .wrong source List.mem_cons_self List.mem_cons_self layersDefect
  exact ⟨packet.valueText, .wrong packet List.mem_cons_self List.mem_cons_self sourceDefect⟩

/-- A capture in another form is read, and one with a key given twice in it is not. -/
theorem read_doubledPacket :
    (∃ items rest,
      ListPrefix items rest mixedCapture ∧
        Spaces rest ∧ items.length = 1 ∧ List.Forall₂ PacketText [sparsePacket] items) ∧
      ∃ fault,
        read ⟨compactList [writePacket sparsePacket, doubledPacket], .finished⟩ =
          .error fault := by
  have accepted : read ⟨mixedCapture, .finished⟩ = .ok [sparsePacket] :=
    read_eq_ok_iff.mpr ⟨rfl, captureText_mixedCapture⟩
  have supplied := (read_accepts_only ⟨mixedCapture, .finished⟩).1 [sparsePacket] accepted
  rcases packetDefect_doubledPacket with ⟨isValue, defect⟩
  have values : ∀ item ∈ [writePacket sparsePacket, doubledPacket], ValueText item := by
    simp only [List.forall_mem_cons]
    exact ⟨reads_packet.valueText (packetText_writePacket sparsePacket), isValue, nofun⟩
  have starts : ListPrefix _ [] (compactList [writePacket sparsePacket, doubledPacket]) :=
    ⟨[], _, spaces_nil, listText_compactList _, values, (List.append_nil _).symm⟩
  refine ⟨supplied.2, (read_accepts_only ⟨_, .finished⟩).2 _ [] starts (.inr ?_)⟩
  exact ⟨doubledPacket, List.mem_cons_of_mem _ List.mem_cons_self, defect⟩

end RegisterTrace.Capture
