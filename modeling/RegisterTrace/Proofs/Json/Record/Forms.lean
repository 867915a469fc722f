import RegisterTrace.Proofs.Json.Record.Fields
import RegisterTrace.Proofs.Json.Unique

/-!
# The form of a record in writing

A text is an object of entries in one way only, and a list of items in one way only.  So whichever
way a text that writes a record is taken apart, the entries that are found give the record's fields,
and so do the items.
-/

namespace RegisterTrace.Json

variable
    {text : List UInt8}
    {entries : List Entry}
    {items : List (List UInt8)}
    {fields : List FieldText}

/-- Whatever writes a field is a value. -/
def FieldText.Valued (field : FieldText) : Prop :=
  ∀ {text}, field.written text → ValueText text

/-- Bytes are an object of entries in one way. -/
theorem entriesText_inj
    {others : List Entry}
    (left : ValuesText entries text)
    (right : ValuesText others text) :
    entries = others := by
  have sound : ∀ {given : List Entry}, ValuesText given text →
      ∀ member ∈ given.map Entry.written, member.Sound := by
    rintro given ⟨⟨-, spelled⟩, values⟩
    rw [List.forall_mem_map]
    intro entry member
    rcases spelled entry member with ⟨key, spaced⟩
    exact ⟨spaced, Text.quotedText_of_stringText key, values entry member⟩
  have sameWritten := objectText_inj left.1.1 (sound left) right.1.1 (sound right)
  apply eq_of_map_eq _ sameWritten
  intro entry isEntry other isOther same
  have entryKey := (left.1.2 entry isEntry).1
  have otherKey := (right.1.2 other isOther).1
  rw [same] at entryKey
  rcases entry with ⟨key, written⟩
  rcases other with ⟨otherName, otherWritten⟩
  have sameKey : key = otherName := Text.stringText_inj entryKey otherKey
  subst sameKey
  exact congrArg (Entry.mk key) same

/-- A text that is an object starts with a brace, and no list does. -/
theorem EntriesText.not_listText
    (object : EntriesText entries text) :
    ¬ ListText items text := by
  rcases object with ⟨⟨_, -, isObject, -⟩, -⟩
  rintro ⟨_, -, isList⟩
  rw [isObject, List.cons.injEq] at isList
  exact absurd isList.1 (by decide)

/-- All entries of an object that gives fields have values. -/
theorem valuesText_of_given
    (valued : ∀ field ∈ fields, field.Valued)
    (written : EntriesText entries text)
    (given : ∀ field ∈ fields, field.Given entries)
    (values :
      ∀ entry ∈ entries,
        (∀ field ∈ fields, field.key ≠ entry.key) → ValueText entry.written.value) :
    ValuesText entries text := by
  refine ⟨written, ?_⟩
  intro entry isEntry
  by_cases unknown : ∀ field ∈ fields, field.key ≠ entry.key
  · exact values entry isEntry unknown
  · push Not at unknown
    rcases unknown with ⟨field, isField, sameKey⟩
    have isUnder : entry ∈ underKey field.key entries :=
      List.mem_filter.mpr ⟨isEntry, decide_eq_true sameKey.symm⟩
    rcases given field isField with ⟨only, single, isWritten⟩ | ⟨nothing, -⟩
    · rw [single, List.mem_singleton] at isUnder
      subst isUnder
      exact valued field isField isWritten
    · rw [nothing] at isUnder
      cases isUnder

theorem InOrder.valueText
    (valued : ∀ field ∈ fields, field.Valued)
    (inOrder : InOrder fields items) :
    ∀ item ∈ items, ValueText item := by
  induction fields generalizing items with
  | nil =>
      have noItem : items = [] := inOrder
      subst noItem
      exact nofun
  | cons field fields inductionHypothesis =>
      rcases List.forall_mem_cons.mp valued with ⟨isValued, areValued⟩
      cases items with
      | nil => exact nofun
      | cons item items =>
          exact
            List.forall_mem_cons.mpr
              ⟨isValued inOrder.1, inductionHypothesis areValued inOrder.2⟩

/-- The entries of an object that writes a record give all fields. -/
theorem RecordText.given
    (written : RecordText fields text)
    (valued : ∀ field ∈ fields, field.Valued)
    (object : ValuesText entries text) :
    ∀ field ∈ fields, field.Given entries := by
  rcases written with ⟨others, othersText, given, unknown⟩ | ⟨items, isList, -⟩
  · have sameEntries :=
      entriesText_inj object (valuesText_of_given valued othersText given unknown)
    exact sameEntries ▸ given
  · exact absurd isList object.1.not_listText

/-- The items of a list that writes a record give the fields in order. -/
theorem RecordText.inOrder
    (written : RecordText fields text)
    (valued : ∀ field ∈ fields, field.Valued)
    (list : ListText items text)
    (values : ∀ item ∈ items, ValueText item) :
    InOrder fields items := by
  rcases written with ⟨entries, object, -⟩ | ⟨others, othersText, inOrder⟩
  · exact absurd list object.not_listText
  · exact listText_inj list values othersText (inOrder.valueText valued) ▸ inOrder

end RegisterTrace.Json
