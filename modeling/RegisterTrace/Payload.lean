import RegisterTrace.Numeral
import RegisterTrace.Text.Blank

/-!
# Payloads

A capture shows the bytes of a transfer as groups of hexadecimal digits with colons between them,
in the order in which they went over the wire.  The device sends the low byte first, so the number
that a payload stands for is written by the groups from last to first.

The same captures show some numbers as one hexadecimal numeral with or without a mark in front.
-/

namespace RegisterTrace

namespace Payload

/-- The groups of a payload with the last one first. -/
def reversedGroups (text : List Char) : List (List Char) :=
  (text.splitOn ':').reverse

/-- A payload with its groups in the opposite order. -/
def reverse (payload : String) : String :=
  String.ofList ([':'].intercalate (reversedGroups payload.toList))

/-- The digits of the number that a payload stands for. -/
def digits (payload : String) : String :=
  String.ofList (reversedGroups payload.toList).flatten

/-- The word that the digits of a payload write. -/
def word? (digits : String) : Option Word :=
  Numeral.readWord? 16 digits.toList

end Payload

/-- A text without the hexadecimal mark that it may start with. -/
def dropHexMark : List Char → List Char
  | '0' :: 'x' :: rest => rest
  | '0' :: 'X' :: rest => rest
  | text => text

/-- The word of a hexadecimal numeral that may have blanks around it and a mark in front. -/
def hexWord? (text : String) : Option Word :=
  Numeral.readWord? 16 (dropHexMark (trimBlanks text.toList))

/-- The word of a decimal numeral that may have blanks around it. -/
def decimalWord? (text : String) : Option Word :=
  Numeral.readWord? 10 (trimBlanks text.toList)

end RegisterTrace
