import RegisterTrace.Numeral
import RegisterTrace.Text.Blank
import RegisterTrace.Text.DecimalDigit
import RegisterTrace.Text.WordCharacter

/-!
# Lines of a register header

A register header is a text for the preprocessor of C, and three shapes of line matter in it:

* `#define NAME 0xHEX` names a constant,
* `#define NAME (BASE + 0xHEX)` names a register at an offset from a constant,
* `NAME : WIDTH ;` anywhere in a line names a bit field.

Blanks at the ends of a line do not matter.  A line of the first two shapes whose number is too
large for a word is no definition at all, and neither is a field whose width is zero, too large
or not written in ASCII.  A line that starts as a comment holds no field, and neither does one
without a colon or a semicolon.
-/

namespace RegisterTrace.Header

/-- What a line of a header says. -/
inductive Line where
  | constant (name : String) (value : Word)
  | offset (name base : String) (offset : Word)
  | field (name : String) (width : Nat)
  | other
  deriving DecidableEq, Repr

/-- The rest of a text that starts as expected. -/
def after? : List Char → List Char → Option (List Char)
  | [], text => some text
  | _ :: _, [] => none
  | expected :: more, character :: rest =>
      if character = expected then after? more rest else none

/-- The longest run of accepted characters that a text starts with, unless it is empty. -/
def run? (accepts : Char → Bool) (text : List Char) : Option (List Char × List Char) :=
  match text.takeWhile accepts with
  | [] => none
  | first :: more => some (first :: more, text.dropWhile accepts)

/-- The name that a text starts with. -/
def name? (text : List Char) : Option (List Char × List Char) :=
  run? isWordCharacter text

/-- A text without the blanks that it starts with, of which there must be one. -/
def afterBlanks? (text : List Char) : Option (List Char) :=
  (run? isBlank text).map Prod.snd

/-- The digits of the marked hexadecimal literal that a text starts with. -/
def hexLiteral? : List Char → Option (List Char × List Char)
  | '0' :: 'x' :: rest => run? (Numeral.isDigit 16) rest
  | '0' :: 'X' :: rest => run? (Numeral.isDigit 16) rest
  | _ => none

/-- The word that a hexadecimal literal writes. -/
def literalWord? (digits : List Char) : Option Word :=
  (Numeral.read? 16 digits).bind Word.ofNat?

/-- The word that starts every definition of a name. -/
def defineMark : List Char := "#define".toList

/-- The name that a line defines, and what the line defines it as. -/
def definition? (text : List Char) : Option (List Char × List Char) := do
  let text ← after? defineMark text
  let text ← afterBlanks? text
  let (name, text) ← name? text
  let text ← afterBlanks? text
  return (name, text)

/-- The base and the digits of an offset in parentheses. -/
def offsetBody? (text : List Char) : Option (List Char × List Char) := do
  let text ← after? ['('] text
  let (base, text) ← name? (dropBlanks text)
  let text ← after? ['+'] (dropBlanks text)
  let (digits, text) ← hexLiteral? (dropBlanks text)
  let _ ← after? [')'] (dropBlanks text)
  return (base, digits)

/-- The digits of a literal that no word character follows. -/
def constantBody? (text : List Char) : Option (List Char) := do
  let (digits, text) ← hexLiteral? text
  if text.head?.any isWordCharacter then none else return digits

/-- What a line that starts a definition says. -/
def Line.ofDefinition (name body : List Char) : Line :=
  match offsetBody? body with
  | some (base, digits) =>
      match literalWord? digits with
      | some distance => .offset (String.ofList name) (String.ofList base) distance
      | none => .other
  | none =>
      match (constantBody? body).bind literalWord? with
      | some value => .constant (String.ofList name) value
      | none => .other

/-- The digits of the width that follows the name of a field. -/
def widthDigits? (text : List Char) : Option (List Char) := do
  let text ← after? [':'] (dropBlanks text)
  let (digits, text) ← run? isDecimalDigit (dropBlanks text)
  let _ ← after? [';'] (dropBlanks text)
  return digits

/-- The name and the width digits of the field that a text starts with. -/
def fieldHere? (text : List Char) : Option (List Char × List Char) := do
  let (name, text) ← name? text
  let digits ← widthDigits? text
  return (name, digits)

/--
The name and the width digits of the first field in a text.  A field starts where a name starts,
so no field is looked for inside a name.
-/
def firstField? (insideName : Bool) : List Char → Option (List Char × List Char)
  | [] => none
  | character :: rest =>
      if isWordCharacter character then
        if insideName then
          firstField? true rest
        else
          match fieldHere? (character :: rest) with
          | some field => some field
          | none => firstField? true rest
      else
        firstField? false rest

/-- The width that digits write, if a field can have it. -/
def width? (digits : List Char) : Option Nat :=
  (Numeral.read? 10 digits).filter fun width => 0 < width ∧ width < Word.count

/-- Whether a trimmed line starts as a comment. -/
def startsComment : List Char → Bool
  | '/' :: '*' :: _ => true
  | '/' :: '/' :: _ => true
  | '*' :: _ => true
  | _ => false

/-- Whether a text has both marks that a field has, wherever they are. -/
def hasFieldMarks (text : List Char) : Bool :=
  text.contains ':' && text.contains ';'

/-- What a line that starts no definition says. -/
def Line.ofMember (text : List Char) : Line :=
  if startsComment text || !hasFieldMarks text then
    .other
  else
    match firstField? false text with
    | some (name, digits) =>
        match width? digits with
        | some bits => .field (String.ofList name) bits
        | none => .other
    | none => .other

/-- What a line says. -/
def Line.ofText (line : String) : Line :=
  let text := trimBlanks line.toList
  if defineMark.isPrefixOf text then
    match definition? text with
    | some (name, body) => .ofDefinition name body
    | none => .other
  else
    .ofMember text

end RegisterTrace.Header
