import RegisterTrace.Numeral
import RegisterTrace.Register

/-!
# Transactions

A transaction is one access to a register, decoded into the values of its fields.  Its text is a
line with the time, the direction, the address and the payload digits, a line with the register's
name, and one line per field, in columns, with a marker behind the fields that changed.
-/

namespace RegisterTrace

/-- Whether the host read the register or wrote it. -/
inductive Direction where
  | read
  | write
  deriving DecidableEq, Repr

/-- The two letters that a transaction's text shows for its direction. -/
def Direction.tag : Direction → String
  | read => "RD"
  | write => "WR"

/-- One access to a register. -/
structure Transaction where
  time : String
  direction : Direction
  address : Word
  payload : String
  register : String
  fields : List FieldValue
  deriving DecidableEq, Repr

/-- A text filled with spaces on its right, up to a number of characters. -/
def fillRight (width : Nat) (text : String) : String :=
  String.ofList (text.toList.rightpad width ' ')

namespace FieldValue

/-- What stands behind a field that changed. -/
def marker (field : FieldValue) : String :=
  if field.isChanged then " ***CHANGED***" else ""

/-- The line of a field: its name, its value in decimal and in hexadecimal, and the marker. -/
def line (field : FieldValue) : String :=
  "    " ++ fillRight 25 field.name ++
    " = " ++ fillRight 6 (Numeral.decimal field.value.toNat) ++
    " " ++ fillRight 6 (Numeral.markedHex field.value.toNat) ++ field.marker

end FieldValue

namespace Transaction

/-- The first line of a transaction. -/
def heading (transaction : Transaction) : String :=
  transaction.time ++ " " ++ transaction.direction.tag ++ " " ++
    Numeral.address transaction.address ++ " " ++ transaction.payload

/-- The lines of a transaction, without their ends. -/
def lines (transaction : Transaction) : List String :=
  transaction.heading :: ("  " ++ transaction.register) :: transaction.fields.map FieldValue.line

/-- The text of a transaction, each line ended by a line feed. -/
def text (transaction : Transaction) : String :=
  String.join (transaction.lines.map (· ++ "\n"))

end Transaction

end RegisterTrace
