import RegisterTrace.Proofs.Json.Record.Forms

/-!
# Records that are rearranged

The members of an object may be reordered, members whose keys the record does not know may come and
go, and the values of the members that it knows may be rearranged in turn.  Since a text is an
object of entries in one way only, a text that writes a record still writes it when it is
rearranged.
-/

namespace RegisterTrace.Json

variable {text other : List UInt8}

/-! ## Changes -/

/-- A key that a record knows, and how the text of the value under it may be rearranged. -/
structure FieldChange where
  key : String
  rearranged : List UInt8 → List UInt8 → Prop

/-- The entries of an object whose keys are known. -/
def known (changes : List FieldChange) (entries : List Entry) : List Entry :=
  entries.filter (·.key ∈ changes.map FieldChange.key)

/-- An entry has the same known key as another one, and its value is the other's, rearranged. -/
def EntryRearranged (changes : List FieldChange) (entry other : Entry) : Prop :=
  ∃ change ∈ changes,
    entry.key = change.key ∧
      other.key = change.key ∧ change.rearranged entry.written.value other.written.value

/--
An object has the known entries of another one in some order, with their values rearranged, and any
entries whose keys are not known.
-/
def ObjectRearranged (changes : List FieldChange) (text other : List UInt8) : Prop :=
  ∃ entries others moved,
    ValuesText entries text ∧
      ValuesText others other ∧
        moved.Perm (known changes entries) ∧
          List.Forall₂ (EntryRearranged changes) moved (known changes others)

/-- The items of a list that writes fields in order are rearranged one by one. -/
def ItemsRearranged : List FieldChange → List (List UInt8) → List (List UInt8) → Prop
  | _, [], others => others = []
  | change :: changes, item :: items, other :: others =>
      change.rearranged item other ∧ ItemsRearranged changes items others
  | _, _ :: _, _ => False

/-- A list has the items of another one, rearranged. -/
def ListRearranged (changes : List FieldChange) (text other : List UInt8) : Prop :=
  ∃ items others,
    ListText items text ∧
      (∀ item ∈ items, ValueText item) ∧
        ListText others other ∧ ItemsRearranged changes items others

/-- How the text of a record may be rearranged, in either form; it may also stay as it is. -/
inductive RecordRearranged (changes : List FieldChange) (text other : List UInt8) : Prop where
  | same (same : text = other)
  | object (rearranged : ObjectRearranged changes text other)
  | list (rearranged : ListRearranged changes text other)

/-! ## What stays -/

/-- What writes a field still does when it is rearranged. -/
structure FieldText.Survives (field : FieldText) (change : FieldChange) : Prop where
  key : change.key = field.key
  written :
    ∀ {text other}, field.written text → change.rearranged text other → field.written other
  valueText : ∀ {text}, field.written text → ValueText text

theorem underKey_known
    {changes : List FieldChange}
    {key : String}
    (isKnown : key ∈ changes.map FieldChange.key)
    (entries : List Entry) :
    underKey key (known changes entries) = underKey key entries := by
  rw [underKey, known, List.filter_filter, underKey]
  apply List.filter_congr
  intro entry _
  by_cases same : entry.key = key
  · simpa [same] using isKnown
  · simp [same]

/-- The values under a known key are rearranged one by one. -/
theorem forall₂_underKey
    {changes : List FieldChange}
    {key : String}
    {moved others : List Entry}
    (rearranged : List.Forall₂ (EntryRearranged changes) moved others) :
    List.Forall₂ (EntryRearranged changes) (underKey key moved) (underKey key others) := by
  apply List.rel_filter _ rearranged
  rintro entry other ⟨change, -, entryKey, otherKey, -⟩
  simp [entryKey, otherKey]

/-- A field that an object gives is given by the object rearranged. -/
theorem FieldText.Given.rearranged
    {field : FieldText}
    {changes : List FieldChange}
    {change : FieldChange}
    {entries others moved : List Entry}
    (given : field.Given entries)
    (keys : (changes.map FieldChange.key).Nodup)
    (isChange : change ∈ changes)
    (survives : field.Survives change)
    (order : moved.Perm (known changes entries))
    (rearranged : List.Forall₂ (EntryRearranged changes) moved (known changes others)) :
    field.Given others := by
  have isKnown : field.key ∈ changes.map FieldChange.key :=
    survives.key ▸ List.mem_map_of_mem isChange
  have orderUnder : (underKey field.key moved).Perm (underKey field.key entries) := by
    rw [← underKey_known isKnown entries]
    exact order.filter _
  have paired := @forall₂_underKey changes field.key moved _ rearranged
  rw [underKey_known isKnown] at paired
  rcases given with ⟨entry, only, written⟩ | ⟨nothing, omissible⟩
  · rw [only, List.perm_singleton] at orderUnder
    rw [orderUnder] at paired
    generalize found : underKey field.key others = under at paired
    cases paired with
    | @cons _ other _ rest first later =>
        cases later
        rcases first with ⟨otherChange, isOther, entryKey, otherKey, changed⟩
        have isField : entry ∈ underKey field.key entries := only ▸ List.mem_cons_self
        have fieldKey : entry.key = field.key := of_decide_eq_true (List.mem_filter.mp isField).2
        have sameKey : otherChange.key = change.key :=
          entryKey.symm.trans (fieldKey.trans survives.key.symm)
        have sameChange := List.inj_on_of_nodup_map keys isOther isChange sameKey
        subst sameChange
        exact .inl ⟨other, found, survives.written written changed⟩
  · rw [nothing, List.perm_nil] at orderUnder
    rw [orderUnder] at paired
    exact .inr ⟨List.forall₂_nil_left_iff.mp paired, omissible⟩

variable
    {fields : List FieldText}
    {changes : List FieldChange}

theorem InOrder.rearranged
    {items others : List (List UInt8)}
    (survive : List.Forall₂ FieldText.Survives fields changes)
    (inOrder : InOrder fields items)
    (rearranged : ItemsRearranged changes items others) :
    InOrder fields others := by
  induction survive generalizing items others with
  | nil =>
      have noItem : items = [] := inOrder
      subst noItem
      exact rearranged
  | @cons field change fields changes survives _ inductionHypothesis =>
      cases items with
      | nil =>
          have noOther : others = [] := rearranged
          subst noOther
          exact inOrder
      | cons item items =>
          cases others with
          | nil => cases rearranged
          | cons other others =>
              exact
                ⟨survives.written inOrder.1 rearranged.1,
                  inductionHypothesis inOrder.2 rearranged.2⟩

/-- A text that writes a record still writes it when it is rearranged. -/
theorem RecordText.rearranged
    (written : RecordText fields text)
    (keys : (changes.map FieldChange.key).Nodup)
    (survive : List.Forall₂ FieldText.Survives fields changes)
    (rearranged : RecordRearranged changes text other) :
    RecordText fields other := by
  have changed := exists_of_forall₂ survive
  have valued : ∀ field ∈ fields, field.Valued := by
    intro field isField
    rcases changed field isField with ⟨change, -, survives⟩
    exact survives.valueText
  cases rearranged with
  | same same => exact same ▸ written
  | object objects =>
      rcases objects with ⟨entries, others, moved, isText, isOther, order, values⟩
      refine .inl ⟨others, isOther.1, ?_, fun entry isEntry _ => isOther.2 entry isEntry⟩
      intro field isField
      rcases changed field isField with ⟨change, isChange, survives⟩
      have given := written.given valued isText field isField
      exact given.rearranged keys isChange survives order values
  | list lists =>
      rcases lists with ⟨items, others, isText, values, isOther, itemwise⟩
      have inOrder := written.inOrder valued isText values
      exact .inr ⟨others, isOther, inOrder.rearranged survive itemwise⟩

end RegisterTrace.Json
