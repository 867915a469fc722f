import Mathlib.Data.List.Nodup
import RegisterTrace.Proofs.Json.Reads

/-!
# Records in writing

A record is written as an object, in which each of its fields has one member and any other members
may stand among them, or as a list of its fields in order, from which fields at the end may be left
out.  In both forms a field may be left out only if the record says the same without it.

A record that is read is described part by part: where a part stands in the record, what reads it,
and how it is written.
-/

namespace RegisterTrace.Json

/-! ## Fields -/

/--
A field of a record that is written: its key, the texts that write its value, and whether the record
says the same without it.
-/
structure FieldText where
  key : String
  written : List UInt8 → Prop
  omissible : Prop

/-- A member of an object together with the key that it writes. -/
structure Entry where
  key : String
  written : MemberText
  deriving DecidableEq, Repr

/-- The entries of an object under a key. -/
def underKey (key : String) (entries : List Entry) : List Entry :=
  entries.filter (·.key = key)

/-- A field has one entry, which writes its value, or it has none and may be left out. -/
def FieldText.Given (field : FieldText) (entries : List Entry) : Prop :=
  (∃ entry, underKey field.key entries = [entry] ∧ field.written entry.written.value) ∨
    underKey field.key entries = [] ∧ field.omissible

/-- An entry is written with its key, and with spaces only around its colon. -/
def Entry.Spelled (entry : Entry) : Prop :=
  StringText entry.key.toList entry.written.key ∧ entry.written.Spaced

/-- An object with the keys that its members write. -/
def EntriesText (entries : List Entry) (bytes : List UInt8) : Prop :=
  ObjectText (entries.map Entry.written) bytes ∧ ∀ entry ∈ entries, entry.Spelled

/-- An object of entries, all of which have values. -/
def ValuesText (entries : List Entry) (bytes : List UInt8) : Prop :=
  EntriesText entries bytes ∧ ∀ entry ∈ entries, ValueText entry.written.value

/-- An object that gives all fields of a record, in any order and among other members. -/
def ObjectForm (fields : List FieldText) (bytes : List UInt8) : Prop :=
  ∃ entries,
    EntriesText entries bytes ∧
      (∀ field ∈ fields, field.Given entries) ∧
        ∀ entry ∈ entries,
          (∀ field ∈ fields, field.key ≠ entry.key) → ValueText entry.written.value

/-- Items that write fields in order, of which some at the end may be left out. -/
def InOrder : List FieldText → List (List UInt8) → Prop
  | [], items => items = []
  | field :: rest, [] => field.omissible ∧ InOrder rest []
  | field :: rest, item :: items => field.written item ∧ InOrder rest items

/-- A list that gives the fields of a record in order. -/
def ListForm (fields : List FieldText) (bytes : List UInt8) : Prop :=
  ∃ items, ListText items bytes ∧ InOrder fields items

/-- How a record is written. -/
def RecordText (fields : List FieldText) (bytes : List UInt8) : Prop :=
  ObjectForm fields bytes ∨ ListForm fields bytes

theorem ValuesText.valueText
    {entries : List Entry}
    {bytes : List UInt8}
    (values : ValuesText entries bytes) :
    ValueText bytes := by
  rcases values with ⟨⟨isObject, spelled⟩, areValues⟩
  refine .object isObject ?_ ?_
  · rw [List.forall_mem_map]
    exact fun entry isEntry => Text.quotedText_of_stringText (spelled entry isEntry).1
  · rw [List.forall_mem_map]
    exact areValues

theorem head?_of_recordText
    {fields : List FieldText}
    {bytes : List UInt8}
    (written : RecordText fields bytes) :
    bytes.head? = some (byte '\x7b') ∨ bytes.head? = some (byte '[') := by
  rcases written with ⟨entries, ⟨⟨inside, -, rfl, -⟩, -⟩, -⟩ | ⟨items, ⟨inside, -, rfl⟩, -⟩
  · exact .inl rfl
  · exact .inr rfl

theorem underKey_cons_of_eq
    {key : String}
    {entry : Entry}
    (same : entry.key = key)
    (entries : List Entry) :
    underKey key (entry :: entries) = entry :: underKey key entries := by
  simp [underKey, same]

theorem underKey_cons_of_ne
    {key : String}
    {entry : Entry}
    (different : entry.key ≠ key)
    (entries : List Entry) :
    underKey key (entry :: entries) = underKey key entries := by
  simp [underKey, different]

theorem underKey_eq_nil_iff
    {key : String}
    {entries : List Entry} :
    underKey key entries = [] ↔ ∀ entry ∈ entries, entry.key ≠ key := by
  simp [underKey, List.filter_eq_nil_iff]

theorem underKey_append
    (key : String)
    (left right : List Entry) :
    underKey key (left ++ right) = underKey key left ++ underKey key right :=
  List.filter_append left right

theorem underKey_concat
    (key : String)
    (entries : List Entry)
    (last : Entry) :
    underKey key (entries ++ [last]) =
      underKey key entries ++ if last.key = key then [last] else [] := by
  rw [underKey_append]
  split
  · next same =>
      rw [underKey_cons_of_eq same]
      rfl
  · next different =>
      rw [underKey_cons_of_ne different]
      rfl

/-! ## Parts -/

/-- A part of a record: its value there, what reads it, and how it is written. -/
structure RecordPart (Record : Type) where
  key : String
  Value : Type
  view : Record → Value
  put : Value → Record → Record
  reader : Reader Value
  written : Value → List UInt8 → Prop
  absent : Option Value

variable {Record : Type}

/-- The member that reads a part. -/
def RecordPart.member (part : RecordPart Record) : Member Record where
  key := part.key
  required := part.absent.isNone
  value := part.put <$> part.reader

/-- The field that writes a part of a record. -/
def RecordPart.field (part : RecordPart Record) (record : Record) : FieldText where
  key := part.key
  written := part.written (part.view record)
  omissible := part.absent = some (part.view record)

/-- The parts of a shape: they make up its records, and each can be read and set by itself. -/
structure Shape.Describes (shape : Shape Record) (parts : List (RecordPart Record)) : Prop where
  members : shape.members = parts.map RecordPart.member
  keys : (parts.map RecordPart.key).Nodup
  reads : ∀ part ∈ parts, Reads part.reader part.written
  view_put : ∀ part ∈ parts, ∀ value record, part.view (part.put value record) = value
  view_put_of_ne :
    ∀ part ∈ parts, ∀ other ∈ parts,
      part.key ≠ other.key →
        ∀ value record, other.view (part.put value record) = other.view record
  ext : ∀ record other, (∀ part ∈ parts, part.view record = part.view other) → record = other
  blank : ∀ part ∈ parts, ∀ value, part.absent = some value → part.view shape.blank = value

/-- Parts with the same key are one. -/
theorem Shape.Describes.eq_of_key
    {shape : Shape Record}
    {parts : List (RecordPart Record)}
    (describes : shape.Describes parts)
    {part other : RecordPart Record}
    (member : part ∈ parts)
    (otherMember : other ∈ parts)
    (same : part.key = other.key) :
    part = other :=
  List.inj_on_of_nodup_map describes.keys member otherMember same

/-- A text writes one value only. -/
theorem Reads.value_inj
    {Value : Type}
    {reader : Reader Value}
    {written : Value → List UInt8 → Prop}
    (reads : Reads reader written)
    {left right : Value}
    {text : List UInt8}
    (leftWritten : written left text)
    (rightWritten : written right text) :
    left = right := by
  have leftRead : reader.run .finished text = .ok (left, []) :=
    reads.run_eq_ok_iff.mpr ⟨[], text, spaces_nil, leftWritten, by simp⟩
  have rightRead : reader.run .finished text = .ok (right, []) :=
    reads.run_eq_ok_iff.mpr ⟨[], text, spaces_nil, rightWritten, by simp⟩
  rw [rightRead] at leftRead
  cases leftRead
  rfl

end RegisterTrace.Json
