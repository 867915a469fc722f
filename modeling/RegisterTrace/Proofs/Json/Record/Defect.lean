import RegisterTrace.Proofs.Json.Record.Forms

/-!
# Defects of records

A text is no record if it is a value of another kind, if a member that must be there is missing, if
one that the record knows is there twice or has a wrong value, or if a list has too few items or too
many.  What a wrong value is depends on the member, and for a nested record it is a defect again, so
a defect may lie at any depth.
-/

namespace RegisterTrace.Json

variable {text : List UInt8}

/-- What a record asks of a member: its key, whether it must be there, and what is wrong for it. -/
structure FieldRule where
  key : String
  required : Bool
  wrong : List UInt8 → Prop

/-- What keeps a value from being a record. -/
inductive RecordDefect (rules : List FieldRule) (text : List UInt8) : Prop where
  | kind
      (value : ValueText text)
      (noObject : text.head? ≠ some (byte '\x7b'))
      (noList : text.head? ≠ some (byte '['))
  | missing
      {entries : List Entry}
      {rule : FieldRule}
      (object : ValuesText entries text)
      (isRule : rule ∈ rules)
      (required : rule.required)
      (nothing : underKey rule.key entries = [])
  | twice
      {entries : List Entry}
      {rule : FieldRule}
      (object : ValuesText entries text)
      (isRule : rule ∈ rules)
      (several : 2 ≤ (underKey rule.key entries).length)
  | wrong
      {entries : List Entry}
      {rule : FieldRule}
      {entry : Entry}
      (object : ValuesText entries text)
      (isRule : rule ∈ rules)
      (isEntry : entry ∈ underKey rule.key entries)
      (isWrong : rule.wrong entry.written.value)
  | short
      {items : List (List UInt8)}
      {rule : FieldRule}
      (list : ListText items text)
      (values : ∀ item ∈ items, ValueText item)
      (isRule : rule ∈ rules.drop items.length)
      (required : rule.required)
  | long
      {items : List (List UInt8)}
      (list : ListText items text)
      (values : ∀ item ∈ items, ValueText item)
      (tooMany : rules.length < items.length)
  | wrongItem
      {items : List (List UInt8)}
      {rule : FieldRule}
      {item : List UInt8}
      (list : ListText items text)
      (values : ∀ item ∈ items, ValueText item)
      (inPlace : (rule, item) ∈ rules.zip items)
      (isWrong : rule.wrong item)

/-- A field is written as a rule asks. -/
structure FieldText.Meets (field : FieldText) (rule : FieldRule) : Prop where
  key : rule.key = field.key
  required : rule.required → ¬ field.omissible
  right : ∀ {text}, field.written text → ¬ rule.wrong text
  valued : field.Valued

variable
    {fields : List FieldText}
    {rules : List FieldRule}
    {items : List (List UInt8)}

/-- What a rule asks of the entries of an object. -/
theorem FieldText.Given.entries_of_meets
    {field : FieldText}
    {rule : FieldRule}
    {entries : List Entry}
    (given : field.Given entries)
    (meets : field.Meets rule) :
    (rule.required → underKey rule.key entries ≠ []) ∧
      (underKey rule.key entries).length ≤ 1 ∧
        ∀ entry ∈ underKey rule.key entries, ¬ rule.wrong entry.written.value := by
  rw [meets.key]
  rcases given with ⟨only, single, written⟩ | ⟨nothing, omissible⟩
  · rw [single]
    have right := meets.right written
    exact ⟨fun _ => List.cons_ne_nil _ _, Nat.le_refl 1, List.forall_mem_singleton.mpr right⟩
  · rw [nothing]
    exact ⟨fun required => absurd omissible (meets.required required), Nat.zero_le 1, nofun⟩

/-- What rules ask of items in order. -/
theorem InOrder.items_of_meets
    (meet : List.Forall₂ FieldText.Meets fields rules)
    (inOrder : InOrder fields items) :
    (∀ rule ∈ rules.drop items.length, ¬ rule.required) ∧
      items.length ≤ rules.length ∧ ∀ pair ∈ rules.zip items, ¬ pair.1.wrong pair.2 := by
  induction meet generalizing items with
  | nil =>
      have noItem : items = [] := inOrder
      subst noItem
      exact ⟨nofun, Nat.le_refl _, nofun⟩
  | @cons field rule fields rules meets _ inductionHypothesis =>
      cases items with
      | nil =>
          rcases inductionHypothesis inOrder.2 with ⟨omitted, -, -⟩
          refine ⟨List.forall_mem_cons.mpr ⟨?_, omitted⟩, Nat.zero_le _, nofun⟩
          exact fun required => meets.required required inOrder.1
      | cons item items =>
          rcases inductionHypothesis inOrder.2 with ⟨omitted, bounded, right⟩
          refine ⟨omitted, Nat.succ_le_succ bounded, ?_⟩
          exact List.forall_mem_cons.mpr ⟨meets.right inOrder.1, right⟩

/-- What is written as rules ask has no defect. -/
theorem RecordText.not_recordDefect
    (meet : List.Forall₂ FieldText.Meets fields rules)
    (written : RecordText fields text) :
    ¬ RecordDefect rules text := by
  have valued : ∀ field ∈ fields, field.Valued := by
    intro field isField
    rcases exists_of_forall₂ meet field isField with ⟨rule, -, meets⟩
    exact meets.valued
  have asked :
      ∀ {entries : List Entry}, ValuesText entries text →
        ∀ rule ∈ rules,
          (rule.required → underKey rule.key entries ≠ []) ∧
            (underKey rule.key entries).length ≤ 1 ∧
              ∀ entry ∈ underKey rule.key entries, ¬ rule.wrong entry.written.value := by
    intro entries object rule isRule
    rcases exists_of_forall₂ meet.flip rule isRule with ⟨field, isField, meets⟩
    exact (written.given valued object field isField).entries_of_meets meets
  intro defect
  cases defect with
  | kind _ noObject noList =>
      rcases head?_of_recordText written with isObject | isList
      · exact noObject isObject
      · exact noList isList
  | missing object isRule required nothing =>
      exact (asked object _ isRule).1 required nothing
  | twice object isRule several =>
      have single := (asked object _ isRule).2.1
      omega
  | wrong object isRule isEntry isWrong =>
      exact (asked object _ isRule).2.2 _ isEntry isWrong
  | short list values isRule required =>
      have inOrder := written.inOrder valued list values
      exact (inOrder.items_of_meets meet).1 _ isRule required
  | long list values tooMany =>
      have inOrder := written.inOrder valued list values
      have bounded := (inOrder.items_of_meets meet).2.1
      omega
  | wrongItem list values inPlace isWrong =>
      have inOrder := written.inOrder valued list values
      exact (inOrder.items_of_meets meet).2.2 _ inPlace isWrong

end RegisterTrace.Json
