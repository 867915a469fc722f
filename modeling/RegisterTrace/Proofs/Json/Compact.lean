import RegisterTrace.Proofs.Json.Record.Fields

/-!
# Compact writing

Everything that can be read can be written without a byte to spare: strings with escapes only where
the grammar asks for them, and lists and objects without spaces.
-/

namespace RegisterTrace.Json

/-! ## Strings -/

/-- The hexadecimal digits of a number below two hundred and fifty-six, filled up to four. -/
def compactHex (number : Nat) : List UInt8 :=
  ['0', '0', Nat.digitChar (number / 16), Nat.digitChar (number % 16)].map byte

/-- A character in a string, behind a backslash where it must be. -/
def compactCharacter (character : Char) : List UInt8 :=
  if character = '"' ∨ character = '\\' then
    [byte '\\', byte character]
  else if character.toNat < 0x20 then
    byte '\\' :: byte 'u' :: compactHex character.toNat
  else
    String.utf8EncodeChar character

theorem hexText_compactHex
    {number : Nat}
    (small : number < 0x20) :
    HexText number (compactHex number) := by
  have digits : ∀ number < 0x20,
      ['0', '0', Nat.digitChar (number / 16), Nat.digitChar (number % 16)].all
          (Numeral.isDigit 16) ∧
        Numeral.value 16 ['0', '0', Nat.digitChar (number / 16), Nat.digitChar (number % 16)] =
          number := by
    decide
  rcases digits number small with ⟨areDigits, sameValue⟩
  exact hexText_map_byte rfl areDigits sameValue

theorem stringText_compactCharacter
    (character : Char)
    {more : List Char}
    {rest : List UInt8}
    (later : StringText more rest) :
    StringText (character :: more) (compactCharacter character ++ rest) := by
  rw [compactCharacter]
  split
  · next escaped =>
      refine .escaped (.short ?_) later
      rcases escaped with rfl | rfl
      · decide
      · decide
  · next notEscaped =>
      split
      · next control => exact .escaped (.numbered (hexText_compactHex control)) later
      · next notControl =>
          rw [not_or] at notEscaped
          exact .plain ⟨Nat.le_of_not_lt notControl, notEscaped⟩ later

theorem stringText_flatMap_compactCharacter
    (characters : List Char)
    {more : List Char}
    {rest : List UInt8}
    (later : StringText more rest) :
    StringText (characters ++ more) (characters.flatMap compactCharacter ++ rest) := by
  induction characters with
  | nil => exact later
  | cons character characters inductionHypothesis =>
      rw [List.flatMap_cons, List.append_assoc]
      exact stringText_compactCharacter character inductionHypothesis

/-- What follows the opening quote of a text. -/
def compactQuoted (text : String) : List UInt8 :=
  text.toList.flatMap compactCharacter ++ [byte '"']

/-- A text in quotes. -/
def compactText (text : String) : List UInt8 :=
  byte '"' :: compactQuoted text

theorem stringText_compactQuoted
    (text : String) :
    StringText text.toList (compactQuoted text) := by
  have written := stringText_flatMap_compactCharacter text.toList .close
  rw [List.append_nil] at written
  exact written

theorem textValue_compactText
    (text : String) :
    TextValue text (compactText text) :=
  ⟨_, stringText_compactQuoted text, rfl⟩

/-! ## Values that may be absent -/

variable
    {Value : Type}
    {written : Value → List UInt8 → Prop}
    {write : Value → List UInt8}

/-- A value, or the word for its absence. -/
def compactOptional (write : Value → List UInt8) : Option Value → List UInt8
  | none => nullWord
  | some value => write value

theorem optionalValue_compactOptional
    (writes : ∀ value, written value (write value))
    (value : Option Value) :
    OptionalValue written value (compactOptional write value) := by
  cases value with
  | none => rfl
  | some value => exact writes value

/-! ## Brackets -/

/-- What follows the first item in brackets. -/
def compactFollowing (closing : UInt8) (items : List (List UInt8)) : List UInt8 :=
  items.foldr (fun item rest => byte ',' :: (item ++ rest)) [closing]

/-- What follows an opening bracket. -/
def compactItems (closing : UInt8) : List (List UInt8) → List UInt8
  | [] => [closing]
  | first :: more => first ++ compactFollowing closing more

/-- A list of items. -/
def compactList (items : List (List UInt8)) : List UInt8 :=
  byte '[' :: compactItems (byte ']') items

/-- An object of entries. -/
def objectOf (entries : List Entry) : List UInt8 :=
  byte '\x7b' :: compactItems (byte '\x7d') (entries.map fun entry => entry.written.bytes)

/-- An entry with a value under a key. -/
def compactEntry (member : String × List UInt8) : Entry where
  key := member.1
  written := ⟨compactQuoted member.1, [], [], member.2⟩

/-- An object with given values under given keys. -/
def compactObject (members : List (String × List UInt8)) : List UInt8 :=
  objectOf (members.map compactEntry)

theorem following_compactFollowing
    (closing : UInt8)
    (items : List (List UInt8)) :
    Following closing items (compactFollowing closing items) := by
  induction items with
  | nil => exact .close spaces_nil
  | cons item items inductionHypothesis => exact .next spaces_nil spaces_nil inductionHypothesis

theorem opened_compactItems
    (closing : UInt8)
    (items : List (List UInt8)) :
    Opened closing items (compactItems closing items) := by
  cases items with
  | nil => exact .empty spaces_nil
  | cons first more => exact .items spaces_nil (following_compactFollowing closing more)

theorem listText_compactList
    (items : List (List UInt8)) :
    ListText items (compactList items) :=
  ⟨_, opened_compactItems _ items, rfl⟩

theorem listValue_compactList
    (writes : ∀ value, written value (write value))
    (values : List Value) :
    ListValue written values (compactList (values.map write)) := by
  refine ⟨_, listText_compactList _, ?_⟩
  rw [List.forall₂_map_right_iff]
  exact List.forall₂_same.mpr fun value _ => writes value

theorem entriesText_objectOf
    {entries : List Entry}
    (spelled : ∀ entry ∈ entries, entry.Spelled) :
    EntriesText entries (objectOf entries) := by
  refine ⟨⟨_, ?_, rfl, ?_⟩, spelled⟩
  · rw [List.map_map]
    exact opened_compactItems _ _
  · rw [List.forall_mem_map]
    exact fun entry member => (spelled entry member).2

theorem spelled_compactEntry
    (member : String × List UInt8) :
    (compactEntry member).Spelled :=
  ⟨stringText_compactQuoted member.1, spaces_nil, spaces_nil⟩

theorem entriesText_compactObject
    (members : List (String × List UInt8)) :
    EntriesText (members.map compactEntry) (compactObject members) :=
  entriesText_objectOf (List.forall_mem_map.mpr fun member _ => spelled_compactEntry member)

theorem valuesText_compactObject
    {members : List (String × List UInt8)}
    (values : ∀ member ∈ members, ValueText member.2) :
    ValuesText (members.map compactEntry) (compactObject members) :=
  ⟨entriesText_compactObject members, List.forall_mem_map.mpr values⟩

/-! ## Records -/

/-- The only entry under the key of a member is that member's, if no two members share a key. -/
theorem underKey_map_compactEntry
    {members : List (String × List UInt8)}
    (keys : (members.map Prod.fst).Nodup)
    {member : String × List UInt8}
    (isMember : member ∈ members) :
    underKey member.1 (members.map compactEntry) = [compactEntry member] := by
  induction members with
  | nil => cases isMember
  | cons first more inductionHypothesis =>
      rw [List.map_cons, List.nodup_cons] at keys
      rcases keys with ⟨fresh, keysMore⟩
      rcases List.mem_cons.mp isMember with rfl | isLater
      · have noOther : underKey member.1 (more.map compactEntry) = [] := by
          rw [underKey_eq_nil_iff, List.forall_mem_map]
          intro other isOther same
          have sameKey : other.1 = member.1 := same
          exact fresh (sameKey ▸ List.mem_map_of_mem isOther)
        have own : (compactEntry member).key = member.1 := rfl
        rw [List.map_cons, underKey_cons_of_eq own, noOther]
      · have different : (compactEntry first).key ≠ member.1 := by
          intro same
          have sameKey : first.1 = member.1 := same
          exact fresh (sameKey ▸ List.mem_map_of_mem isLater)
        rw [List.map_cons, underKey_cons_of_ne different, inductionHypothesis keysMore isLater]

/-- A record is written by an object with the value of each field under its key. -/
theorem recordText_compactObject
    {fields : List FieldText}
    {members : List (String × List UInt8)}
    (keys : (fields.map FieldText.key).Nodup)
    (written :
      List.Forall₂ (fun field member => member.1 = field.key ∧ field.written member.2) fields
        members) :
    RecordText fields (compactObject members) := by
  have sameKeys : fields.map FieldText.key = members.map Prod.fst := by
    clear keys
    induction written with
    | nil => rfl
    | cons first _ inductionHypothesis =>
        rw [List.map_cons, List.map_cons, first.1, inductionHypothesis]
  refine .inl ⟨_, entriesText_compactObject members, ?_, ?_⟩
  · intro field isField
    rcases exists_of_forall₂ written field isField with ⟨member, isMember, sameKey, isWritten⟩
    rw [sameKeys] at keys
    exact .inl ⟨_, sameKey ▸ underKey_map_compactEntry keys isMember, isWritten⟩
  · intro entry isEntry noField
    rcases List.mem_map.mp isEntry with ⟨member, isMember, rfl⟩
    have isKey : member.1 ∈ fields.map FieldText.key :=
      sameKeys ▸ List.mem_map_of_mem isMember
    rcases List.mem_map.mp isKey with ⟨field, isField, sameKey⟩
    exact absurd sameKey (noField field isField)

end RegisterTrace.Json
