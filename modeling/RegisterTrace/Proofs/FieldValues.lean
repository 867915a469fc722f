import RegisterTrace.Proofs.Word
import RegisterTrace.Register

/-!
# The values of fields

Cutting a word into fields treats the value and the mask of changed bits alike: each is cut by the
same widths.  `Field.values` is that cut for one word.  It commutes with exclusive or for fields of
any widths, so the mask that a field shows is the exclusive or of the field's own two values.
-/

namespace RegisterTrace

namespace Field

/-- What a word holds in each of the fields, from the lowest bit up. -/
def values : List Field → Word → List Word
  | [], _ => []
  | field :: rest, word => word.low field.width :: values rest (word.drop field.width)

@[simp]
theorem map_value_slice
    (fields : List Field)
    (value changed : Word) :
    (slice fields value changed).map FieldValue.value = values fields value := by
  induction fields generalizing value changed with
  | nil => rfl
  | cons field rest inductionHypothesis =>
      simp only [slice, values, List.map_cons, inductionHypothesis]

@[simp]
theorem map_changed_slice
    (fields : List Field)
    (value changed : Word) :
    (slice fields value changed).map FieldValue.changed = values fields changed := by
  induction fields generalizing value changed with
  | nil => rfl
  | cons field rest inductionHypothesis =>
      simp only [slice, values, List.map_cons, inductionHypothesis]

theorem values_zero
    (fields : List Field) :
    values fields 0 = List.replicate fields.length 0 := by
  induction fields with
  | nil => rfl
  | cons field rest inductionHypothesis =>
      simp only [values, Word.low_zero, Word.drop_zero, inductionHypothesis, List.length_cons,
        List.replicate_succ]

/-- The fields of an exclusive or are the exclusive ors of the fields. -/
theorem values_xor
    (fields : List Field)
    (left right : Word) :
    values fields (left ^^^ right) =
      List.zipWith (· ^^^ ·) (values fields left) (values fields right) := by
  induction fields generalizing left right with
  | nil => rfl
  | cons field rest inductionHypothesis =>
      simp only [values, Word.low_xor, Word.drop_xor, inductionHypothesis, List.zipWith_cons_cons]

end Field

namespace Register

/-- A register that was never seen shows no change. -/
theorem changed_eq_zero_of_unseen
    {register : Register}
    (unseen : register.lastValue = none)
    {value : Word}
    {place : Nat}
    {field : FieldValue}
    (shown : (register.decode value)[place]? = some field) :
    field.changed = 0 := by
  have cut :
      ((register.decode value).map FieldValue.changed)[place]? = some field.changed := by
    rw [List.getElem?_map, shown, Option.map_some]
  rw [decode, changes, unseen, Field.map_changed_slice, Field.values_zero] at cut
  exact List.eq_of_mem_replicate (List.mem_of_getElem? cut)

/-- A register that was seen shows the change of each field from what that field held then. -/
theorem changed_eq_xor_of_seen
    {register : Register}
    {previous : Word}
    (seen : register.lastValue = some previous)
    {value : Word}
    {place : Nat}
    {field : FieldValue}
    (shown : (register.decode value)[place]? = some field) :
    ∃ held,
      (Field.values register.fields previous)[place]? = some held ∧
        field.changed = field.value ^^^ held := by
  have changes :
      (Field.values register.fields (value ^^^ previous))[place]? = some field.changed := by
    rw [← Field.map_changed_slice register.fields value, List.getElem?_map]
    rw [decode, Register.changes, seen] at shown
    rw [shown, Option.map_some]
  have holds :
      (Field.values register.fields value)[place]? = some field.value := by
    rw [← Field.map_value_slice register.fields value (register.changes value), List.getElem?_map,
      ← decode, shown, Option.map_some]
  rw [Field.values_xor, List.getElem?_zipWith_eq_some] at changes
  rcases changes with ⟨current, held, atCurrent, atHeld, equal⟩
  rw [holds] at atCurrent
  cases atCurrent
  exact ⟨held, atHeld, equal.symm⟩

end Register

end RegisterTrace
