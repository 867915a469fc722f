import RegisterTrace.Text.Utf8

/-!
# Sources of bytes

A source delivers some bytes and then either ends or breaks.  Its text lines end at line feeds; a
carriage return just before a line feed belongs to the line's end.  Each line is checked on its own
to be text.  A source that breaks never completes its last line, so nothing is said about that
line: the lines before it are followed by the failure.
-/

namespace RegisterTrace

/-- What comes after the bytes of a source. -/
inductive Ending where
  | finished
  | broken (reason : String)
  deriving DecidableEq, Repr

/-- The bytes that can be read, and what comes after them. -/
structure Source where
  bytes : List UInt8
  ending : Ending := .finished
  deriving DecidableEq, Repr

namespace Source

/-- A source that delivers a text and ends. -/
def ofText (text : String) : Source :=
  ⟨Utf8.encode text, .finished⟩

/-- Why a source gives no further line. -/
inductive Failure where
  | notText
  | broken (reason : String)
  deriving DecidableEq, Repr

/-- The text of a failure. -/
def Failure.message : Failure → String
  | notText => "stream did not contain valid UTF-8"
  | broken reason => reason

/-- The text of a line, if it is text. -/
def line (bytes : List UInt8) : Except Failure String :=
  match Utf8.decode? bytes with
  | some text => .ok text
  | none => .error .notText

/-- The byte that ends a line. -/
def lineFeed : UInt8 := 0x0A

/-- The byte that may stand in front of the one that ends a line. -/
def carriageReturn : UInt8 := 0x0D

/-- A line that a line feed ended, without a carriage return at its end. -/
def dropReturn (bytes : List UInt8) : List UInt8 :=
  if bytes.getLast? = some carriageReturn then bytes.dropLast else bytes

/-- What is left after the last line feed: a last line, nothing, or the failure to complete one. -/
def remainder (bytes : List UInt8) : Ending → List (Except Failure String)
  | .finished => if bytes.isEmpty then [] else [line bytes]
  | .broken reason => [.error (.broken reason)]

/-- The lines of a source in order, with the failures among them. -/
def lines (source : Source) : List (Except Failure String) :=
  let pieces := source.bytes.splitOn lineFeed
  pieces.dropLast.map (fun piece => line (dropReturn piece)) ++
    remainder (pieces.getLast?.getD []) source.ending

end Source

end RegisterTrace
