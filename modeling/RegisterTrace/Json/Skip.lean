import RegisterTrace.Json.Number
import RegisterTrace.Json.Text

/-!
# Values that are skipped

A value that nobody asks for is read for its grammar only.  It may nest to any depth: the reader
keeps the brackets that are open and, at each byte, what may come next.
-/

namespace RegisterTrace.Json.Skip

open Reader

/-- A kind of bracket. -/
inductive Bracket where
  | list
  | object
  deriving DecidableEq, Repr

/-- The byte that closes a bracket. -/
def Bracket.closing : Bracket → UInt8
  | list => byte ']'
  | object => byte '\x7d'

/-- What may come next, with the brackets that are open from the innermost on. -/
inductive Place where
  | value (outer : List Bracket)
  | key (outer : List Bracket)
  | opened (inner : Bracket) (outer : List Bracket)
  | next (inner : Bracket) (outer : List Bracket)
  deriving DecidableEq, Repr

/-- The fault of bytes that end at a place. -/
def Place.atEnd : Place → Fault
  | value _ => .ended .value
  | key _ => .ended .object
  | opened .list _ => .ended .list
  | opened .object _ => .ended .object
  | next .list _ => .ended .list
  | next .object _ => .ended .object

/-- The place after a value. -/
def afterValue : List Bracket → Turn Place Unit
  | [] => .done ()
  | inner :: outer => .again (.next inner outer)

/-- Takes a value that starts with a byte, up to its end or into its brackets. -/
def startValue (outer : List Bracket) (first : UInt8) : Reader (Turn Place Unit) := do
  if first = byte 'n' then
    word ("ull".toList.map byte)
    return afterValue outer
  else if first = byte 't' then
    word ("rue".toList.map byte)
    return afterValue outer
  else if first = byte 'f' then
    word ("alse".toList.map byte)
    return afterValue outer
  else if first = byte '-' ∨ isDigit first then
    Number.skipped first
    return afterValue outer
  else if first = byte '"' then
    Text.skipped
    return afterValue outer
  else if first = byte '[' then
    return .again (.opened .list outer)
  else if first = byte '\x7b' then
    return .again (.opened .object outer)
  else
    slip .noValue

/-- Takes a member's key that starts with a byte, and the colon after it. -/
def startKey (outer : List Bracket) (first : UInt8) : Reader (Turn Place Unit) := do
  if first = byte '"' then
    Text.skipped
    colon
    return .again (.value (.object :: outer))
  else
    slip .keyNotText

/-- What a byte that is not a space leads to. -/
def step (place : Place) (found : UInt8) : Reader (Turn Place Unit) :=
  match place with
  | .value outer => startValue outer found
  | .key outer => startKey outer found
  | .opened inner outer =>
      if found = inner.closing then
        return afterValue outer
      else
        match inner with
        | .list => startValue (.list :: outer) found
        | .object => startKey outer found
  | .next inner outer =>
      if found = inner.closing then
        return afterValue outer
      else if found = byte ',' then
        match inner with
        | .list => return .again (.value (.list :: outer))
        | .object => return .again (.key outer)
      else
        match inner with
        | .list => slip .noListNext
        | .object => slip .noObjectNext

/-- What a byte leads to; spaces change nothing. -/
def stepOverSpaces (place : Place) (found : UInt8) : Reader (Turn Place Unit) :=
  if isSpace found then return .again place else step place found

/-- Takes one value of any kind. -/
def value : Reader Unit :=
  loop stepOverSpaces Place.atEnd (.value [])

end RegisterTrace.Json.Skip
