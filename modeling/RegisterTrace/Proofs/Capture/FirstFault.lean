import RegisterTrace.Capture.Read
import RegisterTrace.Proofs.Json.ForwardValues

/-!
# The first fault of a capture

A capture is read forward only, so the first fault that is met in it is the one that is named: what
follows in the source neither repairs it nor turns it into another one.  The exception is a comma
behind the last value of a record that is written as a list.  It is a fault in any case, but whether
it is called a trailing comma depends on the next byte that is no space.
-/

namespace RegisterTrace.Capture

open Json
open Json.Reader

/-! ## Captures are read forward -/

theorem forward_textMember
    {Record : Type}
    (key : String)
    (set : String → Record → Record) :
    (textMember key set).value.Forward :=
  forward_text.map set

theorem forward_optionalMember
    {Record Value : Type}
    {value : Reader Value}
    (forward : value.Forward)
    (key : String)
    (set : Option Value → Record → Record) :
    (optionalMember key value set).value.Forward :=
  forward.optional.map set

theorem forward_recordMember
    {Record Value : Type}
    {shape : Shape Value}
    (members : shape.MembersForward)
    (key : String)
    (set : Value → Record → Record) :
    (recordMember key shape set).value.Forward :=
  members.read.map set

theorem membersForward_frameShape : frameShape.MembersForward :=
  List.forall_mem_singleton.mpr (forward_textMember _ _)

theorem membersForward_usbShape : usbShape.MembersForward := by
  refine List.forall_mem_cons.mpr ⟨forward_textMember _ _, ?_⟩
  refine List.forall_mem_cons.mpr ⟨forward_textMember _ _, ?_⟩
  exact List.forall_mem_singleton.mpr (forward_optionalMember forward_text _ _)

theorem membersForward_setupShape : setupShape.MembersForward := by
  refine List.forall_mem_cons.mpr ⟨forward_optionalMember forward_text _ _, ?_⟩
  refine List.forall_mem_cons.mpr ⟨forward_optionalMember forward_text _ _, ?_⟩
  exact List.forall_mem_singleton.mpr (forward_optionalMember forward_text _ _)

theorem membersForward_layersShape : layersShape.MembersForward := by
  refine List.forall_mem_cons.mpr ⟨forward_recordMember membersForward_frameShape _ _, ?_⟩
  refine List.forall_mem_cons.mpr ⟨forward_recordMember membersForward_usbShape _ _, ?_⟩
  refine List.forall_mem_cons.mpr
    ⟨forward_optionalMember membersForward_setupShape.read _ _, ?_⟩
  exact List.forall_mem_singleton.mpr (forward_optionalMember forward_text _ _)

theorem membersForward_sourceShape : sourceShape.MembersForward :=
  List.forall_mem_singleton.mpr (forward_recordMember membersForward_layersShape _ _)

theorem membersForward_packetShape : packetShape.MembersForward :=
  List.forall_mem_singleton.mpr (forward_recordMember membersForward_sourceShape _ _)

theorem forward_reader : reader.Forward :=
  membersForward_packetShape.read.list.document

/-! ## Faults -/

theorem read_eq_error_iff
    {source : Source}
    {fault : Fault} :
    read source = .error fault ↔ reader.run source.ending source.bytes = .error fault := by
  rw [read]
  cases reader.run source.ending source.bytes with
  | error met => simp [Except.map]
  | ok made => simp [Except.map]

/--
The first fault of a capture decides.  If a source that breaks is refused for another reason than
its failure, then with any bytes and any ending in place of the failure it is refused with the same
fault.  Only where the source broke behind a comma, and the fault is that something follows which
must not, may the bytes behind it matter: then the fault is a trailing comma if a closing bracket
comes next, and the same as before if none does.
-/
theorem first_fault_decides
    {bytes : List UInt8}
    {reason : String}
    {fault : Fault}
    (stopped : read ⟨bytes, .broken reason⟩ = .error fault)
    (own : fault ≠ .unreadable reason) :
    (∀ more ending, read ⟨bytes ++ more, ending⟩ = .error fault) ∨
      fault = .malformed .trailingCharacters ∧
        EndsWithComma bytes ∧
          ∀ more ending, read ⟨bytes ++ more, ending⟩ = .error (.malformed (afterComma more)) := by
  rcases forward_reader.settled (read_eq_error_iff.mp stopped) with
    failed | ⟨later, lasting, met⟩
  · exact absurd failed own
  · cases lasting with
    | always => exact .inl fun more ending => read_eq_error_iff.mpr (met ending more)
    | behindComma ends =>
        exact .inr ⟨rfl, ends, fun more ending => read_eq_error_iff.mpr (met ending more)⟩

/-- A packet without any value, after which a source broke, is refused whatever follows it. -/
theorem empty_packet_refused :
    read ⟨"[[]".toList.map byte, .broken "cut"⟩ =
        .error (.mismatched (.wrongLength 0 "CapturePacket" 1)) ∧
      ∀ more ending,
        read ⟨"[[]".toList.map byte ++ more, ending⟩ =
          .error (.mismatched (.wrongLength 0 "CapturePacket" 1)) := by
  have stopped :
      read ⟨"[[]".toList.map byte, .broken "cut"⟩ =
        .error (.mismatched (.wrongLength 0 "CapturePacket" 1)) := rfl
  refine ⟨stopped, ?_⟩
  rcases first_fault_decides stopped nofun with lasts | ⟨impossible, -⟩
  · exact lasts
  · cases impossible

/-! ## A comma that must not be there -/

/-- What is wrong with the first value of a record that is a list is wrong with the record. -/
theorem run_read_of_first_error
    {Record : Type}
    (shape : Shape Record)
    {member : Member Record}
    {others : List (Member Record)}
    {ending : Ending}
    {bytes : List UInt8}
    {fault : Fault}
    (known : shape.members = member :: others)
    (failed : member.value.run ending (byte '[' :: bytes) = .error fault) :
    shape.read.run ending (byte '[' :: byte '[' :: bytes) = .error fault := by
  change (shape.values shape.blank 0 shape.members >>= _).run ending _ = _
  apply run_bind_of_error
  rw [known, Shape.values_cons]
  change (member.value >>= _).run ending _ = _
  exact run_bind_of_error _ failed

/-- A comma behind all values of a record that is a list is named by what follows it. -/
theorem run_read_of_comma
    {Record : Type}
    {shape : Shape Record}
    {record : Record}
    {ending : Ending}
    {bytes more : List UInt8}
    (filled :
      (shape.values shape.blank 0 shape.members).run ending bytes =
        .ok (record, byte ',' :: more)) :
    shape.read.run ending (byte '[' :: bytes) = .error (.malformed (afterComma more)) := by
  change (shape.values shape.blank 0 shape.members >>= _).run ending bytes = _
  rw [run_bind_of_ok filled]
  exact run_bind_of_error _ (Shape.run_behindComma ending more)

/-- A frame in which a comma follows the time. -/
theorem run_read_frame_extraComma
    (ending : Ending)
    (more : List UInt8) :
    frameShape.read.run ending (byte '[' :: byte '"' :: byte 't' :: byte '"' :: byte ',' :: more) =
      .error (.malformed (afterComma more)) := by
  have time :
      text.run ending (byte '"' :: byte 't' :: byte '"' :: byte ',' :: more) =
        .ok ("t", byte ',' :: more) := by
    have written : StringText ['t'] [byte 't', byte '"'] := .plain (by decide) .close
    exact Text.run_kept_eq_ok_iff.mpr ⟨[byte 't', byte '"'], written, rfl⟩
  have member :
      (textMember "frame.time" fun time _ => time).value.run ending
          (byte '"' :: byte 't' :: byte '"' :: byte ',' :: more) =
        .ok (fun _ => "t", byte ',' :: more) :=
    run_map_eq_ok_iff.mpr ⟨"t", time, rfl⟩
  apply run_read_of_comma
  change ((textMember "frame.time" fun time _ => time).value >>= _).run ending _ = _
  rw [run_bind_of_ok member]
  rfl

/-- A capture up to the comma behind the time of a frame, with all records as lists. -/
def extraComma : List UInt8 :=
  "[[[[[\"t\",".toList.map byte

theorem read_extraComma
    (ending : Ending)
    (more : List UInt8) :
    read ⟨extraComma ++ more, ending⟩ = .error (.malformed (afterComma more)) := by
  have inFrame := run_read_frame_extraComma ending more
  have inLayers := run_read_of_first_error layersShape rfl (run_map_of_error _ inFrame)
  have inSource := run_read_of_first_error sourceShape rfl (run_map_of_error _ inLayers)
  have inPacket := run_read_of_first_error packetShape rfl (run_map_of_error _ inSource)
  rw [read_eq_error_iff]
  change ((packetShape.read >>= _) >>= _).run ending _ = _
  exact run_bind_of_error _ (run_bind_of_error _ inPacket)

/-- A comma that must not be there is named by what follows, and differently if nothing does. -/
theorem extra_comma_named_by_what_follows :
    read ⟨extraComma, .broken "cut"⟩ = .error (.malformed .trailingCharacters) ∧
      read ⟨extraComma ++ [byte ']'], .finished⟩ = .error (.malformed .trailingComma) ∧
        message (.malformed .trailingCharacters) ≠ message (.malformed .trailingComma) := by
  refine ⟨?_, read_extraComma .finished [byte ']'], by decide⟩
  exact read_extraComma (.broken "cut") []

end RegisterTrace.Capture
