import RegisterTrace.Json.Reader

/-!
# Strings in JSON text

A string runs up to the next quote that is not escaped.  A string that is kept is decoded: its
escapes are replaced, escaped surrogates must come in pairs, and its bytes must be text.  A string
that is skipped needs only well-formed escapes and no control characters.
-/

namespace RegisterTrace.Json.Text

open Reader

/-- Takes a byte inside a string. -/
def nextInside : Reader UInt8 := do
  match ← next with
  | some found => return found
  | none => fail (.ended .text)

/-- The value of a hexadecimal digit. -/
def hexDigit? (value : UInt8) : Option Nat :=
  Numeral.digit? (Char.ofNat value.toNat)

/-- Takes four bytes and then their value, if all of them are hexadecimal digits. -/
def fourDigits : Reader Nat := do
  let first ← nextInside
  let second ← nextInside
  let third ← nextInside
  let fourth ← nextInside
  match hexDigit? first, hexDigit? second, hexDigit? third, hexDigit? fourth with
  | some a, some b, some c, some d => return ((a * 16 + b) * 16 + c) * 16 + d
  | _, _, _, _ => slip .invalidEscape

/-- The byte that a short escape stands for. -/
def shortEscape? (value : UInt8) : Option UInt8 :=
  if value = byte '"' then some (byte '"')
  else if value = byte '\\' then some (byte '\\')
  else if value = byte '/' then some (byte '/')
  else if value = byte 'b' then some 0x08
  else if value = byte 'f' then some 0x0C
  else if value = byte 'n' then some 0x0A
  else if value = byte 'r' then some 0x0D
  else if value = byte 't' then some 0x09
  else none

/-- The bytes of a code point. -/
def encode (codePoint : Nat) : List UInt8 :=
  String.utf8EncodeChar (Char.ofNat codePoint)

/-- Whether a code unit is the first of a surrogate pair. -/
def isLeading (unit : Nat) : Bool :=
  0xD800 ≤ unit && unit ≤ 0xDBFF

/-- Whether a code unit is the second of a surrogate pair. -/
def isTrailing (unit : Nat) : Bool :=
  0xDC00 ≤ unit && unit ≤ 0xDFFF

/-- The code point of a surrogate pair. -/
def paired (leading trailing : Nat) : Nat :=
  0x10000 + (leading - 0xD800) * 0x400 + (trailing - 0xDC00)

/-- Takes a byte that must come next in a surrogate pair. -/
def pairByte (expected : UInt8) : Reader Unit := do
  if (← nextInside) = expected then pure () else slip .unfinishedSurrogate

/-- Takes the rest of a numbered escape, and that of a second one if the first asks for it. -/
def numberedEscape : Reader (List UInt8) := do
  let unit ← fourDigits
  if isTrailing unit then
    slip .loneSurrogate
  else if isLeading unit then
    pairByte (byte '\\')
    pairByte (byte 'u')
    let trailing ← fourDigits
    if isTrailing trailing then
      return encode (paired unit trailing)
    else
      slip .loneSurrogate
  else
    return encode unit

/-- Takes what follows a backslash, and gives the bytes that it stands for. -/
def escape : Reader (List UInt8) := do
  let first ← nextInside
  match shortEscape? first with
  | some plain => return [plain]
  | none => if first = byte 'u' then numberedEscape else slip .invalidEscape

/-- Takes what follows a backslash in a string that is skipped. -/
def skippedEscape : Reader Unit := do
  let first ← nextInside
  match shortEscape? first with
  | some _ => return ()
  | none =>
      if first = byte 'u' then
        let _ ← fourDigits
        return ()
      else
        slip .invalidEscape

/-- The text of the bytes read last to first. -/
def finish (reversed : List UInt8) : Reader String :=
  match Utf8.decode? reversed.reverse with
  | some text => pure text
  | none => slip .invalidText

/-- What a byte of a string that is kept adds to the bytes before it. -/
def keptStep (reversed : List UInt8) (value : UInt8) : Reader (Turn (List UInt8) String) := do
  if value = byte '"' then
    return .done (← finish reversed)
  else if value = byte '\\' then
    return .again ((← escape).reverseAux reversed)
  else if value < 0x20 then
    slip .controlCharacter
  else
    return .again (value :: reversed)

/-- Takes the rest of a string after its opening quote and gives its text. -/
def kept : Reader String :=
  loop keptStep (fun _ => .ended .text) []

/-- What a byte of a string that is skipped leads to. -/
def skippedStep (_ : Unit) (value : UInt8) : Reader (Turn Unit Unit) := do
  if value = byte '"' then
    return .done ()
  else if value = byte '\\' then
    skippedEscape
    return .again ()
  else if value < 0x20 then
    slip .controlCharacter
  else
    return .again ()

/-- Takes the rest of a string after its opening quote. -/
def skipped : Reader Unit :=
  loop skippedStep (fun _ => .ended .text) ()

end RegisterTrace.Json.Text
