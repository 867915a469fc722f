import Mathlib.Data.List.Forall2
import RegisterTrace.Json.Reader

/-!
# The grammar of JSON text

What JSON text looks like is said here without a reader.  Strings come in two strengths:
`StringText` writes given characters with any mixture of plain characters and escapes, and
`QuotedText` has the form of a string, whether or not its escapes and bytes are text.  Values nest
to any depth, and spaces stand around them and the marks between them.
-/

namespace RegisterTrace.Json

/-- Bytes between the parts of a text, possibly none. -/
def Spaces (gap : List UInt8) : Prop :=
  ∀ value ∈ gap, isSpace value

instance (gap : List UInt8) : Decidable (Spaces gap) :=
  List.decidableBAll (fun value => isSpace value = true) gap

/-! ## Strings -/

/-- Four hexadecimal digits that stand for a number. -/
def HexText (number : Nat) (bytes : List UInt8) : Prop :=
  ∃ digits : List Char,
    digits.length = 4 ∧
      (∀ digit ∈ digits, Numeral.isDigit 16 digit) ∧
        Numeral.value 16 digits = number ∧ bytes = digits.map byte

theorem hexText_map_byte
    {number : Nat}
    {digits : List Char}
    (count : digits.length = 4)
    (accepted : digits.all (Numeral.isDigit 16))
    (value : Numeral.value 16 digits = number) :
    HexText number (digits.map byte) :=
  ⟨digits, count, List.all_eq_true.mp accepted, value, rfl⟩

/-- The letters of the short escapes, with the characters that they stand for. -/
def shortEscapes : List (Char × Char) :=
  [('"', '"'), ('\\', '\\'), ('/', '/'), ('b', '\x08'), ('f', '\x0c'), ('n', '\n'), ('r', '\r'),
    ('t', '\t')]

/-- How a character is written with a backslash. -/
inductive EscapeText : Char → List UInt8 → Prop where
  | short
      {letter character : Char}
      (listed : (letter, character) ∈ shortEscapes) :
      EscapeText character [byte '\\', byte letter]
  | numbered
      {character : Char}
      {digits : List UInt8}
      (written : HexText character.toNat digits) :
      EscapeText character (byte '\\' :: byte 'u' :: digits)
  | paired
      {character : Char}
      {leading trailing : Nat}
      {first second : List UInt8}
      (leadingRange : 0xD800 ≤ leading ∧ leading ≤ 0xDBFF)
      (trailingRange : 0xDC00 ≤ trailing ∧ trailing ≤ 0xDFFF)
      (same : character.toNat = 0x10000 + (leading - 0xD800) * 0x400 + (trailing - 0xDC00))
      (leadingWritten : HexText leading first)
      (trailingWritten : HexText trailing second) :
      EscapeText character
        (byte '\\' :: byte 'u' :: (first ++ byte '\\' :: byte 'u' :: second))

/-- A character that may stand for itself in a string. -/
def IsPlain (character : Char) : Prop :=
  0x20 ≤ character.toNat ∧ character ≠ '"' ∧ character ≠ '\\'

instance (character : Char) : Decidable (IsPlain character) :=
  inferInstanceAs (Decidable (0x20 ≤ character.toNat ∧ character ≠ '"' ∧ character ≠ '\\'))

/-- How characters are written in a string after its opening quote. -/
inductive StringText : List Char → List UInt8 → Prop where
  | close : StringText [] [byte '"']
  | plain
      {character : Char}
      {more : List Char}
      {rest : List UInt8}
      (isPlain : IsPlain character)
      (later : StringText more rest) :
      StringText (character :: more) (String.utf8EncodeChar character ++ rest)
  | escaped
      {character : Char}
      {more : List Char}
      {part rest : List UInt8}
      (escape : EscapeText character part)
      (later : StringText more rest) :
      StringText (character :: more) (part ++ rest)

/-- A byte that may stand in a string and neither ends it nor starts an escape. -/
def IsPlainByte (value : UInt8) : Prop :=
  0x20 ≤ value ∧ value ≠ byte '"' ∧ value ≠ byte '\\'

/-- What has the form of a string after its opening quote. -/
inductive QuotedText : List UInt8 → Prop where
  | close : QuotedText [byte '"']
  | plain
      {value : UInt8}
      {rest : List UInt8}
      (isPlain : IsPlainByte value)
      (later : QuotedText rest) :
      QuotedText (value :: rest)
  | short
      {letter character : Char}
      {rest : List UInt8}
      (listed : (letter, character) ∈ shortEscapes)
      (later : QuotedText rest) :
      QuotedText (byte '\\' :: byte letter :: rest)
  | numbered
      {number : Nat}
      {digits rest : List UInt8}
      (written : HexText number digits)
      (later : QuotedText rest) :
      QuotedText (byte '\\' :: byte 'u' :: (digits ++ rest))

/-! ## Numbers -/

/-- A run of decimal digits, one at least. -/
def Digits (digits : List UInt8) : Prop :=
  digits ≠ [] ∧ ∀ digit ∈ digits, isDigit digit

/-- The digits before a point: zero alone, or digits that do not start with zero. -/
def WholeText (digits : List UInt8) : Prop :=
  Digits digits ∧ (digits.head? = some (byte '0') → digits = [byte '0'])

/-- A point with digits after it, or nothing. -/
def FractionText (bytes : List UInt8) : Prop :=
  bytes = [] ∨ ∃ digits, Digits digits ∧ bytes = byte '.' :: digits

/-- A mark with a sign and digits after it, of which the sign may be missing, or nothing. -/
def ExponentText (bytes : List UInt8) : Prop :=
  bytes = [] ∨
    ∃ mark sign digits,
      (mark = byte 'e' ∨ mark = byte 'E') ∧
        (sign = [] ∨ sign = [byte '+'] ∨ sign = [byte '-']) ∧
          Digits digits ∧ bytes = mark :: (sign ++ digits)

/-- A number: a sign that may be missing, digits, and the two parts that may follow. -/
def NumberText (bytes : List UInt8) : Prop :=
  ∃ sign whole fraction exponent,
    (sign = [] ∨ sign = [byte '-']) ∧
      WholeText whole ∧
        FractionText fraction ∧
          ExponentText exponent ∧ bytes = sign ++ (whole ++ (fraction ++ exponent))

/-! ## Brackets -/

/-- What follows an item in brackets: other items, each behind a comma, and the closing bracket. -/
inductive Following (closing : UInt8) : List (List UInt8) → List UInt8 → Prop where
  | close
      {gap : List UInt8}
      (spaces : Spaces gap) :
      Following closing [] (gap ++ [closing])
  | next
      {beforeComma afterComma item rest : List UInt8}
      {items : List (List UInt8)}
      (spacesBefore : Spaces beforeComma)
      (spacesAfter : Spaces afterComma)
      (later : Following closing items rest) :
      Following closing (item :: items)
        (beforeComma ++ byte ',' :: (afterComma ++ (item ++ rest)))

/-- What follows an opening bracket: items with commas between them, and the closing bracket. -/
inductive Opened (closing : UInt8) : List (List UInt8) → List UInt8 → Prop where
  | empty
      {gap : List UInt8}
      (spaces : Spaces gap) :
      Opened closing [] (gap ++ [closing])
  | items
      {gap first rest : List UInt8}
      {more : List (List UInt8)}
      (spaces : Spaces gap)
      (later : Following closing more rest) :
      Opened closing (first :: more) (gap ++ (first ++ rest))

/-- A list of items in square brackets. -/
def ListText (items : List (List UInt8)) (bytes : List UInt8) : Prop :=
  ∃ rest, Opened (byte ']') items rest ∧ bytes = byte '[' :: rest

/-- A member of an object: what is written of its key after the quote, and its value. -/
structure MemberText where
  key : List UInt8
  beforeColon : List UInt8
  afterColon : List UInt8
  value : List UInt8
  deriving DecidableEq, Repr

namespace MemberText

/-- What is written of a member after the opening quote of its key. -/
def afterQuote (member : MemberText) : List UInt8 :=
  member.key ++ (member.beforeColon ++ byte ':' :: (member.afterColon ++ member.value))

/-- How a member is written. -/
def bytes (member : MemberText) : List UInt8 :=
  byte '"' :: member.afterQuote

/-- Only spaces stand around the colon of a member. -/
def Spaced (member : MemberText) : Prop :=
  Spaces member.beforeColon ∧ Spaces member.afterColon

end MemberText

/-- Members of an object in curly brackets. -/
def ObjectText (members : List MemberText) (bytes : List UInt8) : Prop :=
  ∃ rest,
    Opened (byte '\x7d') (members.map MemberText.bytes) rest ∧
      bytes = byte '\x7b' :: rest ∧ ∀ member ∈ members, member.Spaced

/-! ## Values -/

/-- The words of the grammar. -/
def words : List (List UInt8) :=
  ["null", "true", "false"].map fun text => text.toList.map byte

/-- How a value of any kind is written. -/
inductive ValueText : List UInt8 → Prop where
  | word
      {bytes : List UInt8}
      (listed : bytes ∈ words) :
      ValueText bytes
  | number
      {bytes : List UInt8}
      (written : NumberText bytes) :
      ValueText bytes
  | text
      {bytes : List UInt8}
      (quoted : QuotedText bytes) :
      ValueText (byte '"' :: bytes)
  | list
      {items : List (List UInt8)}
      {bytes : List UInt8}
      (written : ListText items bytes)
      (values : ∀ item ∈ items, ValueText item) :
      ValueText bytes
  | object
      {members : List MemberText}
      {bytes : List UInt8}
      (written : ObjectText members bytes)
      (keys : ∀ member ∈ members, QuotedText member.key)
      (values : ∀ member ∈ members, ValueText member.value) :
      ValueText bytes

/-- A member of an object has a key in quotes, a value, and only spaces around its colon. -/
structure MemberText.Sound (member : MemberText) : Prop where
  spaced : member.Spaced
  quoted : QuotedText member.key
  value : ValueText member.value

/-- What may follow a value in brackets: a space, a comma or a closing bracket. -/
def Ends (rest : List UInt8) : Prop :=
  ∃ value more,
    rest = value :: more ∧
      (isSpace value ∨ value = byte ',' ∨ value = byte ']' ∨ value = byte '\x7d')

/-- Whether a byte may start a value. -/
def startsValue (value : UInt8) : Bool :=
  value = byte 'n' || value = byte 't' || value = byte 'f' || value = byte '-' || isDigit value ||
    value = byte '"' || value = byte '[' || value = byte '\x7b'

/-! ## First bytes -/

theorem spaces_nil : Spaces [] :=
  nofun

theorem Spaces.cons
    {value : UInt8}
    {gap : List UInt8}
    (space : isSpace value)
    (spaces : Spaces gap) :
    Spaces (value :: gap) :=
  List.forall_mem_cons.mpr ⟨space, spaces⟩

theorem Opened.cons_space
    {closing value : UInt8}
    {items : List (List UInt8)}
    {text : List UInt8}
    (opened : Opened closing items text)
    (space : isSpace value) :
    Opened closing items (value :: text) := by
  cases opened with
  | empty spaces => exact .empty (spaces.cons space)
  | items spaces later => exact .items (spaces.cons space) later

theorem Following.cons_space
    {closing value : UInt8}
    {items : List (List UInt8)}
    {text : List UInt8}
    (following : Following closing items text)
    (space : isSpace value) :
    Following closing items (value :: text) := by
  cases following with
  | close spaces => exact .close (spaces.cons space)
  | next spacesBefore spacesAfter later => exact .next (spacesBefore.cons space) spacesAfter later

theorem isSpace_of_startsValue
    {value : UInt8}
    (starts : startsValue value) :
    isSpace value = false := by
  rw [← Bool.not_eq_true]
  intro space
  simp only [isSpace, Bool.or_eq_true, beq_iff_eq] at space
  rcases space with ((rfl | rfl) | rfl) | rfl
  all_goals exact absurd starts (by decide)

/-- No mark that stands between values or after them starts a value. -/
theorem ne_of_startsValue
    {value : UInt8}
    (starts : startsValue value) :
    value ≠ byte ',' ∧ value ≠ byte ']' ∧ value ≠ byte '\x7d' := by
  refine ⟨?_, ?_, ?_⟩
  all_goals
    rintro rfl
    exact absurd starts (by decide)

theorem exists_head_of_numberText
    {bytes : List UInt8}
    (written : NumberText bytes) :
    ∃ first more, bytes = first :: more ∧ (first = byte '-' ∨ isDigit first) := by
  rcases written with
    ⟨sign, whole, fraction, exponent, rfl | rfl, ⟨⟨nonempty, accepted⟩, -⟩, -, -, rfl⟩
  · cases whole with
    | nil => exact absurd rfl nonempty
    | cons first more => exact ⟨first, _, rfl, .inr (accepted first List.mem_cons_self)⟩
  · exact ⟨_, _, rfl, .inl rfl⟩

/-- A value is not empty, and its first byte tells that it starts. -/
theorem ValueText.exists_head
    {bytes : List UInt8}
    (written : ValueText bytes) :
    ∃ first more, bytes = first :: more ∧ startsValue first := by
  cases written with
  | word listed =>
      simp only [words, List.map_cons, List.map_nil, List.mem_cons, List.not_mem_nil, or_false]
        at listed
      rcases listed with rfl | rfl | rfl
      all_goals exact ⟨_, _, rfl, by decide⟩
  | number written =>
      rcases exists_head_of_numberText written with ⟨first, more, rfl, minus | digit⟩
      · exact ⟨first, more, rfl, by rw [minus]; decide⟩
      · exact ⟨first, more, rfl, by simp [startsValue, digit]⟩
  | text quoted => exact ⟨_, _, rfl, by decide⟩
  | list written values =>
      rcases written with ⟨rest, -, rfl⟩
      exact ⟨_, _, rfl, by decide⟩
  | object written keys values =>
      rcases written with ⟨rest, -, rfl, -⟩
      exact ⟨_, _, rfl, by decide⟩

/-- What follows an item ends with the bracket that closes. -/
theorem Following.exists_front
    {closing : UInt8}
    {items : List (List UInt8)}
    {text : List UInt8}
    (following : Following closing items text) :
    ∃ front, text = front ++ [closing] := by
  induction following with
  | @close gap _ => exact ⟨gap, rfl⟩
  | @next beforeComma afterComma item _ _ _ _ _ inductionHypothesis =>
      rcases inductionHypothesis with ⟨front, rfl⟩
      exact ⟨beforeComma ++ byte ',' :: (afterComma ++ (item ++ front)), by simp⟩

theorem exists_front_of_listText
    {items : List (List UInt8)}
    {text : List UInt8}
    (isList : ListText items text) :
    ∃ front, text = front ++ [byte ']'] := by
  rcases isList with ⟨inside, opened, rfl⟩
  cases opened with
  | @empty gap _ => exact ⟨byte '[' :: gap, rfl⟩
  | @items gap first _ _ _ later =>
      rcases later.exists_front with ⟨front, rfl⟩
      exact ⟨byte '[' :: (gap ++ (first ++ front)), by simp⟩

/-- What follows an item ends it. -/
theorem Following.ends
    {closing : UInt8}
    {items : List (List UInt8)}
    {text : List UInt8}
    (following : Following closing items text)
    (closes : closing = byte ']' ∨ closing = byte '\x7d')
    (rest : List UInt8) :
    Ends (text ++ rest) := by
  cases following with
  | @close gap spaces =>
      cases gap with
      | nil => exact ⟨closing, rest, rfl, .inr (.inr closes)⟩
      | cons first more => exact ⟨first, _, rfl, .inl (spaces first List.mem_cons_self)⟩
  | @next beforeComma afterComma item others items spacesBefore spacesAfter later =>
      cases beforeComma with
      | nil => exact ⟨byte ',', _, rfl, .inr (.inl rfl)⟩
      | cons first more => exact ⟨first, _, rfl, .inl (spacesBefore first List.mem_cons_self)⟩

end RegisterTrace.Json
