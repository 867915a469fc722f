import RegisterTrace.Proofs.Capture.Accepted

/-!
# Captures that are cut off

Bytes start with one list of values only, so a piece of a capture that does not reach the bracket
that closes the list is no capture, wherever it was cut.  A source that breaks is never read as
packets either: at the latest behind the list, where nothing may follow, the failure shows.
-/

namespace RegisterTrace.Capture

open Json

variable
    {front part bytes rest : List UInt8}
    {items : List (List UInt8)}
    {packets : List Packet}

/-- The list that bytes start with is closed by a bracket. -/
theorem ListPrefix.exists_front
    (starts : ListPrefix items rest bytes) :
    ∃ front, bytes = front ++ byte ']' :: rest := by
  rcases starts with ⟨gap, text, -, isList, -, rfl⟩
  rcases exists_front_of_listText isList with ⟨front, rfl⟩
  exact ⟨gap ++ front, by simp⟩

/-- No piece of the bytes in front of the closing bracket is a capture. -/
theorem ListPrefix.not_captureText
    (starts : ListPrefix items rest (front ++ byte ']' :: rest))
    (isPart : part <+: front) :
    ¬ CaptureText packets part := by
  intro written
  rcases isPart with ⟨more, rfl⟩
  rcases captureText_iff_listPrefix.mp written with ⟨others, left, partStarts, -, -⟩
  -- The list of the piece is the one that all bytes start with, which ends too late for that.
  have longer :
      ListPrefix others (left ++ (more ++ byte ']' :: rest))
        (part ++ more ++ byte ']' :: rest) := by
    rw [List.append_assoc]
    exact partStarts.append (more ++ byte ']' :: rest)
  have sameLength := congrArg List.length (listPrefix_inj starts longer).2
  simp only [List.length_append, List.length_cons] at sameLength
  omega

/-- A source that breaks behind a capture is not read, because of its failure. -/
theorem read_of_broken
    (written : CaptureText packets bytes)
    (reason : String) :
    read ⟨bytes, .broken reason⟩ = .error (.unreadable reason) := by
  rcases written with ⟨before, text, after, spacesBefore, isList, spacesAfter, rfl⟩
  have failed := reads_packet.list.run_document_of_broken spacesBefore isList spacesAfter reason
  rw [read, reader, failed]
  rfl

/--
A part of a capture is never read as one.  If bytes are read as packets, none of their pieces that
end in front of the bracket that closes the list is read, and if a source breaks instead of ending
then it is not read, whatever it delivered; behind a whole capture its failure is the fault.
-/
theorem read_partial :
    (∀ bytes packets, read ⟨bytes, .finished⟩ = .ok packets →
      ∃ items front rest,
        ListPrefix items rest bytes ∧
          Spaces rest ∧
            bytes = front ++ byte ']' :: rest ∧
              ∀ part, part <+: front → ∀ ending, ∃ fault, read ⟨part, ending⟩ = .error fault) ∧
      ∀ bytes reason,
        (∃ fault, read ⟨bytes, .broken reason⟩ = .error fault) ∧
          ∀ packets, read ⟨bytes, .finished⟩ = .ok packets →
            read ⟨bytes, .broken reason⟩ = .error (.unreadable reason) := by
  refine ⟨?_, ?_⟩
  · intro bytes packets accepted
    have written := (read_eq_ok_iff.mp accepted).2
    rcases captureText_iff_listPrefix.mp written with ⟨items, rest, starts, spaces, -⟩
    rcases starts.exists_front with ⟨front, rfl⟩
    refine ⟨items, front, rest, starts, spaces, rfl, ?_⟩
    intro part isPart ending
    apply exists_fault_of_not_accepted
    intro others partAccepted
    exact starts.not_captureText isPart (read_eq_ok_iff.mp partAccepted).2
  · intro bytes reason
    constructor
    · apply exists_fault_of_not_accepted
      intro packets accepted
      cases (read_eq_ok_iff.mp accepted).1
    · intro packets accepted
      exact read_of_broken (read_eq_ok_iff.mp accepted).2 reason

/-! ## A capture and a piece of it -/

/-- The capture in mixed form is read neither up to the middle of an escape nor if it breaks. -/
theorem read_piece_of_mixedCapture :
    (∃ fault, read ⟨mixedCapture.take 33, .finished⟩ = .error fault) ∧
      read ⟨mixedCapture, .broken "cut"⟩ = .error (.unreadable "cut") := by
  have accepted : read ⟨mixedCapture, .finished⟩ = .ok [sparsePacket] :=
    read_eq_ok_iff.mpr ⟨rfl, captureText_mixedCapture⟩
  refine ⟨?_, (read_partial.2 mixedCapture "cut").2 [sparsePacket] accepted⟩
  rcases read_partial.1 mixedCapture [sparsePacket] accepted with
    ⟨items, front, rest, -, spaces, split, cut⟩
  have long : 33 ≤ front.length := by
    by_contra short
    have noSpaces : ¬ Spaces (mixedCapture.drop 33) := by decide +kernel
    apply noSpaces
    have behind : mixedCapture.drop (front.length + 1) = rest := by
      rw [split, ← List.singleton_append, ← List.append_assoc]
      exact List.drop_left' (by simp)
    have later : 33 = front.length + 1 + (32 - front.length) := by omega
    rw [later, ← List.drop_drop, behind]
    exact fun value member => spaces value (List.mem_of_mem_drop member)
  have isPart : mixedCapture.take 33 <+: front := by
    apply List.prefix_of_prefix_length_le (List.take_prefix 33 mixedCapture) ⟨_, split.symm⟩
    exact Nat.le_trans (List.length_take_le 33 mixedCapture) long
  exact cut _ isPart .finished

end RegisterTrace.Capture
