/-!
# Sinks

A sink keeps the text written to it.  One with limited room takes exactly as many bytes as it has
room for, wherever in a text that is, and refuses when it is given more.
-/

namespace RegisterTrace

/-- What was written, and how many more bytes can be; without a number there is no limit. -/
structure Sink where
  written : ByteArray := ByteArray.empty
  room : Option Nat := none

namespace Sink

/-- Takes a text whole if there is room for it. -/
def take? (sink : Sink) (text : String) : Option Sink :=
  let bytes := text.toUTF8
  match sink.room with
  | none => some { sink with written := sink.written ++ bytes }
  | some room =>
      if bytes.size ≤ room then
        some ⟨sink.written ++ bytes, some (room - bytes.size)⟩
      else
        none

/-- Fills the room that is left with the start of a text. -/
def fill (sink : Sink) (text : String) : Sink :=
  match sink.room with
  | none => sink
  | some room => ⟨sink.written ++ text.toUTF8.extract 0 room, some 0⟩

end Sink

end RegisterTrace
