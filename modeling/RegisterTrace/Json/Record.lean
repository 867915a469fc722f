import RegisterTrace.Json.Skip

/-!
# Records in JSON text

A value is read as what is asked for: a string, a value that may be absent, a list, or a record.
A record is described by its shape, the members it knows in order.  It may be written as an object,
in which the known members stand in any order among unknown ones, or as a list of the members'
values in order, from which members at the end may be left out if they need not be there.
-/

namespace RegisterTrace.Json

open Reader

namespace Reader

variable {Result : Type}

/-- Stops at a value of another kind than the one wanted, once the value is known. -/
def mismatch (wanted : String) (found : Found) : Reader Result :=
  fail (.mismatched (.wrongKind found wanted))

/-- Stops at a value that starts with a byte and is not of the kind wanted. -/
def wrongKind (wanted : String) (first : UInt8) : Reader Result := do
  if first = byte 'n' then
    word ("ull".toList.map byte)
    mismatch wanted .null
  else if first = byte 't' then
    word ("rue".toList.map byte)
    mismatch wanted (.boolean true)
  else if first = byte 'f' then
    word ("alse".toList.map byte)
    mismatch wanted (.boolean false)
  else if first = byte '-' ∨ isDigit first then
    mismatch wanted (← Number.evaluated first)
  else if first = byte '"' then
    mismatch wanted (.text (← Text.kept))
  else if first = byte '[' then
    mismatch wanted .list
  else if first = byte '\x7b' then
    mismatch wanted .object
  else
    slip .noValue

/-- Takes a string. -/
def text : Reader String := do
  match ← nextToken with
  | none => fail (.ended .value)
  | some first => if first = byte '"' then Text.kept else wrongKind "a string" first

/-- Takes a value, or the word for its absence. -/
def optional (present : Reader Result) : Reader (Option Result) := do
  if (← peekToken) = some (byte 'n') then
    let _ ← next
    word ("ull".toList.map byte)
    return none
  else
    return some (← present)

/-! ## Lists -/

/-- Whether another item follows in a list that is open, before which no comma stands yet. -/
def hasFirstItem : Reader Bool := do
  match ← peekToken with
  | none => fail (.ended .list)
  | some found => return found != byte ']'

/-- Looks at the item that must follow a comma in a list. -/
def itemAfterComma : Reader Unit := do
  match ← peekToken with
  | none => fail (.ended .value)
  | some found => if found = byte ']' then slip .trailingComma else pure ()

/-- Whether another item follows in a list that is open; the comma before it is taken. -/
def hasNextItem : Reader Bool := do
  match ← peekToken with
  | none => fail (.ended .list)
  | some found =>
      if found = byte ']' then
        return false
      else if found = byte ',' then
        let _ ← next
        itemAfterComma
        return true
      else
        slip .noListNext

/-- What a byte after an item of a list leads to, with the items read last to first. -/
def listStep
    (item : Reader Result)
    (reversed : List Result)
    (found : UInt8) :
    Reader (Turn (List Result) (List Result)) := do
  if isSpace found then
    return .again reversed
  else if found = byte ']' then
    return .done reversed.reverse
  else if found = byte ',' then
    itemAfterComma
    return .again ((← item) :: reversed)
  else
    slip .noListNext

/-- Takes the rest of a list after its opening bracket. -/
def items (item : Reader Result) : Reader (List Result) := do
  let first ← if ← hasFirstItem then pure [← item] else pure []
  loop (listStep item) (fun _ => .ended .list) first

/-- Takes a list. -/
def list (item : Reader Result) : Reader (List Result) := do
  match ← nextToken with
  | none => fail (.ended .value)
  | some first => if first = byte '[' then items item else wrongKind "a sequence" first

/-- Takes a value after which nothing but spaces may follow. -/
def document (content : Reader Result) : Reader Result := do
  let result ← content
  match ← peekToken with
  | none => return result
  | some _ => slip .trailingCharacters

end Reader

/-! ## Records -/

/-- A member that a record knows: its key, whether it must be there, and what its value sets. -/
structure Member (Record : Type) where
  key : String
  required : Bool
  value : Reader (Record → Record)

/-- The members of a record in order, and the record in which none of them is set. -/
structure Shape (Record : Type) where
  name : String
  blank : Record
  members : List (Member Record)

/-- A record that is being read, with the keys read so far. -/
structure Draft (Record : Type) where
  record : Record
  keys : List String := []

namespace Shape

variable {Record : Type}

/-- The member under a key. -/
def member? (shape : Shape Record) (key : String) : Option (Member Record) :=
  shape.members.find? (·.key == key)

/-- The record of a draft, if no required member is missing. -/
def finish (shape : Shape Record) (draft : Draft Record) : Reader Record :=
  match shape.members.find? fun member => member.required && !draft.keys.contains member.key with
  | some missing => fail (.mismatched (.missingMember missing.key))
  | none => pure draft.record

/-- Takes a member of an object after the opening quote of its key. -/
def readMember (shape : Shape Record) (draft : Draft Record) : Reader (Draft Record) := do
  let key ← Text.kept
  match shape.member? key with
  | some member =>
      if draft.keys.contains key then
        fail (.mismatched (.duplicateMember key))
      else
        colon
        let set ← member.value
        return ⟨set draft.record, key :: draft.keys⟩
  | none =>
      colon
      Skip.value
      return draft

/-- Takes the member that must follow a comma in an object. -/
def readMemberAfterComma (shape : Shape Record) (draft : Draft Record) : Reader (Draft Record) := do
  match ← nextToken with
  | none => fail (.ended .value)
  | some found =>
      if found = byte '"' then shape.readMember draft
      else if found = byte '\x7d' then slip .trailingComma
      else slip .keyNotText

/-- What a byte after a member of an object leads to. -/
def objectStep
    (shape : Shape Record)
    (draft : Draft Record)
    (found : UInt8) :
    Reader (Turn (Draft Record) Record) := do
  if isSpace found then
    return .again draft
  else if found = byte '\x7d' then
    return .done (← shape.finish draft)
  else if found = byte ',' then
    return .again (← shape.readMemberAfterComma draft)
  else
    slip .noObjectNext

/-- Takes the rest of an object after its first member. -/
def restOfObject (shape : Shape Record) (draft : Draft Record) : Reader Record :=
  loop shape.objectStep (fun _ => .ended .object) draft

/-- Takes the rest of an object after its opening bracket. -/
def object (shape : Shape Record) : Reader Record := do
  match ← nextToken with
  | none => fail (.ended .object)
  | some found =>
      if found = byte '\x7d' then shape.finish ⟨shape.blank, []⟩
      else if found = byte '"' then shape.restOfObject (← shape.readMember ⟨shape.blank, []⟩)
      else slip .keyNotText

/-- Takes the values of members from a list, in which `count` items were read before. -/
def values
    (shape : Shape Record)
    (record : Record)
    (count : Nat) :
    List (Member Record) → Reader Record
  | [] => return record
  | member :: rest => do
      let more ← if count = 0 then hasFirstItem else hasNextItem
      if more then
        let set ← member.value
        values shape (set record) (count + 1) rest
      else if member.required then
        fail (.mismatched (.wrongLength count shape.name shape.members.length))
      else
        values shape record count rest

/--
Takes the end of a list that may hold no further item.  Behind a comma only the bytes already
delivered are looked at.
-/
def endOfList : Reader Unit := do
  match ← nextToken with
  | none => fail (.ended .list)
  | some found =>
      if found = byte ']' then
        return ()
      else if found = byte ',' then
        spaces
        if (← glance) = some (byte ']') then slip .trailingComma else slip .trailingCharacters
      else
        slip .trailingCharacters

/-- Takes a record in one of its two forms. -/
def read (shape : Shape Record) : Reader Record := do
  match ← nextToken with
  | none => fail (.ended .value)
  | some first =>
      if first = byte '[' then
        let record ← shape.values shape.blank 0 shape.members
        endOfList
        return record
      else if first = byte '\x7b' then
        shape.object
      else
        wrongKind ("struct " ++ shape.name) first

end Shape

end RegisterTrace.Json
