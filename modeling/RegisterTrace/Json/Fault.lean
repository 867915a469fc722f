import RegisterTrace.Binary64.Shortest
import RegisterTrace.Numeral
import RegisterTrace.Text.Quoted

/-!
# Faults of JSON text

Reading stops at the first fault of a text.  There are four kinds: the bytes could not be read, they
ended too early, they break the grammar, or they are well formed and say something else than what
was asked for.
-/

namespace RegisterTrace.Json

/-- What the bytes ended in the middle of. -/
inductive Construct where
  | value
  | text
  | list
  | object
  deriving DecidableEq, Repr

/-- The word for a construct with its article. -/
def Construct.label : Construct → String
  | value => "a value"
  | text => "a string"
  | list => "a list"
  | object => "an object"

/-- A breach of the grammar. -/
inductive Slip where
  | unknownWord
  | noValue
  | noColon
  | noListNext
  | noObjectNext
  | keyNotText
  | trailingComma
  | trailingCharacters
  | controlCharacter
  | invalidEscape
  | invalidNumber
  | numberOutOfRange
  | invalidText
  | loneSurrogate
  | unfinishedSurrogate
  deriving DecidableEq, Repr

/-- The text of a breach. -/
def Slip.message : Slip → String
  | unknownWord => "expected ident"
  | noValue => "expected value"
  | noColon => "expected `:`"
  | noListNext => "expected `,` or `]`"
  | noObjectNext => "expected `,` or `\x7d`"
  | keyNotText => "key must be a string"
  | trailingComma => "trailing comma"
  | trailingCharacters => "trailing characters"
  | controlCharacter => "control character (\\u0000-\\u001F) found while parsing a string"
  | invalidEscape => "invalid escape"
  | invalidNumber => "invalid number"
  | numberOutOfRange => "number out of range"
  | invalidText => "invalid unicode code point"
  | loneSurrogate => "lone leading surrogate in hex escape"
  | unfinishedSurrogate => "unexpected end of hex escape"

/-- A value that stands where another kind of value is asked for. -/
inductive Found where
  | null
  | boolean (value : Bool)
  | integer (negative : Bool) (magnitude : Nat)
  | fraction (negative : Bool) (magnitude : Binary64)
  | text (value : String)
  | list
  | object
  deriving DecidableEq, Repr

/-- The sign of a number that is shown. -/
def minusSign (negative : Bool) : String :=
  if negative then "-" else ""

/-- A value as a message shows it. -/
def Found.label : Found → String
  | null => "null"
  | boolean true => "boolean `true`"
  | boolean false => "boolean `false`"
  | integer negative magnitude =>
      "integer `" ++ minusSign negative ++ Numeral.decimal magnitude ++ "`"
  | fraction negative magnitude =>
      "floating point `" ++ minusSign negative ++ magnitude.text ++ "`"
  | text value => "string " ++ Quoted.quote value
  | list => "sequence"
  | object => "map"

/-- A well-formed text that does not say what was asked for. -/
inductive Mismatch where
  | wrongKind (found : Found) (wanted : String)
  | wrongLength (length : Nat) (record : String) (size : Nat)
  | duplicateMember (key : String)
  | missingMember (key : String)
  deriving DecidableEq, Repr

/-- The text of a mismatch. -/
def Mismatch.message : Mismatch → String
  | wrongKind found wanted => "invalid type: " ++ found.label ++ ", expected " ++ wanted
  | wrongLength length record size =>
      "invalid length " ++ Numeral.decimal length ++ ", expected struct " ++ record ++ " with " ++
        Numeral.decimal size ++ (if size = 1 then " element" else " elements")
  | duplicateMember key => "duplicate field `" ++ key ++ "`"
  | missingMember key => "missing field `" ++ key ++ "`"

/-- Why reading stopped. -/
inductive Fault where
  | unreadable (reason : String)
  | ended (inside : Construct)
  | malformed (slip : Slip)
  | mismatched (mismatch : Mismatch)
  deriving DecidableEq, Repr

/-- The text of a fault, without the line and the column that a report adds to it. -/
def Fault.message : Fault → String
  | unreadable reason => reason
  | ended inside => "EOF while parsing " ++ inside.label
  | malformed slip => slip.message
  | mismatched mismatch => mismatch.message

end RegisterTrace.Json
