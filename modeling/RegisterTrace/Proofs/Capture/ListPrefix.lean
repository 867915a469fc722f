import RegisterTrace.Proofs.Capture.Layout
import RegisterTrace.Proofs.Json.Unique

/-!
# The list that a capture starts with

Bytes start with one list of values only, and what follows it does not matter for that.  So in a
source that is read as packets the list that it starts with has an item for each packet, and nothing
but spaces follows.
-/

namespace RegisterTrace.Capture

open Json

variable
    {bytes rest otherRest : List UInt8}
    {items others : List (List UInt8)}
    {packets : List Packet}

/-- Behind spaces, bytes start with a list of values, and the rest follows. -/
def ListPrefix (items : List (List UInt8)) (rest bytes : List UInt8) : Prop :=
  ∃ gap text,
    Spaces gap ∧
      ListText items text ∧ (∀ item ∈ items, ValueText item) ∧ bytes = gap ++ (text ++ rest)

theorem ListPrefix.append
    (starts : ListPrefix items rest bytes)
    (more : List UInt8) :
    ListPrefix items (rest ++ more) (bytes ++ more) := by
  rcases starts with ⟨gap, text, spaces, isList, values, rfl⟩
  exact ⟨gap, text, spaces, isList, values, by simp⟩

/-- Bytes start with one list of values only. -/
theorem listPrefix_inj
    (left : ListPrefix items rest bytes)
    (right : ListPrefix others otherRest bytes) :
    items = others ∧ rest = otherRest := by
  rcases left with ⟨gap, text, spaces, isList, values, rfl⟩
  rcases right with ⟨otherGap, otherText, otherSpaces, otherIsList, otherValues, same⟩
  rcases gap_listText_append_inj spaces otherSpaces isList values otherIsList otherValues same with
    ⟨-, rfl, sameRest⟩
  exact ⟨listText_inj isList values otherIsList otherValues, sameRest⟩

/-- A capture is a list whose items write the packets, and spaces that follow it. -/
theorem captureText_iff_listPrefix :
    CaptureText packets bytes ↔
      ∃ items rest,
        ListPrefix items rest bytes ∧ Spaces rest ∧ List.Forall₂ PacketText packets items := by
  constructor
  · rintro ⟨gap, text, rest, spaces, ⟨items, isList, written⟩, spacesAfter, rfl⟩
    have values := reads_packet.forall_valueText written
    exact ⟨items, rest, ⟨gap, text, spaces, isList, values, rfl⟩, spacesAfter, written⟩
  · rintro ⟨items, rest, ⟨gap, text, spaces, isList, -, rfl⟩, spacesAfter, written⟩
    exact ⟨gap, text, rest, spaces, ⟨items, isList, written⟩, spacesAfter, rfl⟩

/-- Whatever list a capture is found to start with, its items write the packets. -/
theorem CaptureText.of_listPrefix
    (written : CaptureText packets bytes)
    (starts : ListPrefix items rest bytes) :
    Spaces rest ∧ List.Forall₂ PacketText packets items := by
  rcases captureText_iff_listPrefix.mp written with
    ⟨given, givenRest, givenStarts, spaces, packetwise⟩
  rcases listPrefix_inj starts givenStarts with ⟨rfl, rfl⟩
  exact ⟨spaces, packetwise⟩

end RegisterTrace.Capture
