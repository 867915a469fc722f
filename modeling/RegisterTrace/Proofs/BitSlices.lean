import Mathlib.Algebra.BigOperators.Ring.List
import Mathlib.Algebra.Ring.Nat
import RegisterTrace.Proofs.FieldValues

/-!
# Fields as slices of the whole word

Decoding walks along the fields and moves the running word down by one width after the other.  What
a field gets that way is a slice of the whole word: as many bits as it is wide, from the sum of all
widths before it on.  The sum is exact, however large it is.  So the fields put together are the
word below the sum of all widths, and no bit of the word is lost or shown twice there.

The walk makes a mask for every field and moves words down by the field's width.  The same walk can
be taken with words whose operations fail where they would overflow, and then it never fails.
-/

namespace RegisterTrace

/-! ## Offsets -/

namespace Field

/-- The number of bits below the field at a place. -/
def offset (fields : List Field) (place : Nat) : Nat :=
  ((fields.take place).map width).sum

@[simp]
theorem offset_zero
    (fields : List Field) :
    offset fields 0 = 0 := rfl

@[simp]
theorem offset_cons_succ
    (field : Field)
    (rest : List Field)
    (place : Nat) :
    offset (field :: rest) (place + 1) = field.width + offset rest place := by
  rw [offset, List.take_succ_cons, List.map_cons, List.sum_cons, offset]

/-- A field holds the bits from its offset on, as many as it is wide. -/
theorem map_toNat_values
    (fields : List Field)
    (word : Word) :
    (values fields word).map BitVec.toNat =
      fields.mapIdx fun place field =>
        word.toNat / 2 ^ offset fields place % 2 ^ field.width := by
  induction fields generalizing word with
  | nil => rfl
  | cons field rest inductionHypothesis =>
      simp only [values, List.map_cons, List.mapIdx_cons, inductionHypothesis, Word.toNat_low,
        Word.toNat_drop, offset_zero, offset_cons_succ, Nat.pow_zero, Nat.div_one, Nat.pow_add,
        Nat.div_div_eq_div_mul]

/-- A common factor of numbers that depend on their places is a factor of the sum. -/
theorem sum_mapIdx_mul_left
    {Item : Type}
    (factor : Nat)
    (number : Nat → Item → Nat)
    (items : List Item) :
    (items.mapIdx fun place item => factor * number place item).sum =
      factor * (items.mapIdx number).sum := by
  rw [List.mapIdx_eq_zipIdx_map, List.mapIdx_eq_zipIdx_map]
  exact List.sum_map_mul_left items.zipIdx (fun pair => number pair.2 pair.1) factor

/-- The fields of a word, each at its offset, are the word below the sum of all widths. -/
theorem sum_values
    (fields : List Field)
    (word : Word) :
    ((values fields word).mapIdx fun place held => 2 ^ offset fields place * held.toNat).sum =
      word.toNat % 2 ^ (fields.map width).sum := by
  induction fields generalizing word with
  | nil => simp [values, Nat.mod_one]
  | cons field rest inductionHypothesis =>
      -- Behind the first field every offset is larger by its width.
      have behind :
          ((values rest (word.drop field.width)).mapIdx fun place held =>
              2 ^ offset (field :: rest) (place + 1) * held.toNat).sum =
            2 ^ field.width * (word.toNat / 2 ^ field.width % 2 ^ (rest.map width).sum) := by
        rw [← Word.toNat_drop, ← inductionHypothesis, ← sum_mapIdx_mul_left]
        simp only [offset_cons_succ, Nat.pow_add, Nat.mul_assoc]
      rw [values, List.mapIdx_cons, List.sum_cons, behind, Word.toNat_low, offset_zero,
        Nat.pow_zero, Nat.one_mul, List.map_cons, List.sum_cons, Nat.pow_add, Nat.mod_mul]

end Field

/-! ## Words whose operations fail -/

namespace Word

/-- A word moved up by a distance, which has to lie inside a word. -/
def moveUp? (value : Word) (distance : Nat) : Option Word :=
  if distance < 32 then some (value <<< distance) else none

/-- A word moved down by a distance, which has to lie inside a word. -/
def moveDown? (value : Word) (distance : Nat) : Option Word :=
  if distance < 32 then some (value >>> distance) else none

/-- The difference of two words, if it is not below zero. -/
def sub? (left right : Word) : Option Word :=
  if right ≤ left then some (left - right) else none

/-- The mask of a width: the first power of two above it less one, or all bits. -/
def mask? (width : Nat) : Option Word :=
  if width < 32 then (moveUp? 1 width).bind (sub? · 1) else some (BitVec.allOnes 32)

/-- The bits that are left of a word, none if it cannot be moved down so far. -/
def moveOut (value : Word) (width : Nat) : Word :=
  (moveDown? value width).getD 0

/-- Making a mask overflows nowhere. -/
theorem mask?_eq
    (width : Nat) :
    mask? width = some (mask width) := by
  rw [mask?, mask]
  split
  · next small =>
      have bound : 2 ^ width < 2 ^ 32 := Nat.pow_lt_pow_right (by decide) small
      have power : ((1 : Word) <<< width).toNat = 2 ^ width := by
        have one : (1 : Word).toNat = 1 := rfl
        rw [BitVec.toNat_shiftLeft, one, Nat.one_shiftLeft]
        exact Nat.mod_eq_of_lt bound
      have positive : (1 : Word) ≤ (1 : Word) <<< width := by
        rw [BitVec.le_def, power]
        exact Nat.one_le_two_pow
      rw [moveUp?, if_pos small, Option.bind_some, sub?, if_pos positive]
      congr 1
      apply BitVec.eq_of_toNat_eq
      rw [BitVec.toNat_sub_of_le positive, power, BitVec.toNat_ofNat, Nat.pow_eq]
      exact (Nat.mod_eq_of_lt (Nat.lt_of_le_of_lt (Nat.sub_le _ _) bound)).symm
  · rfl

theorem moveOut_eq
    (value : Word)
    (width : Nat) :
    moveOut value width = drop value width := by
  rw [moveOut, moveDown?, drop]
  split
  · rfl
  · next large =>
      exact (BitVec.ushiftRight_eq_zero (Nat.le_of_not_lt large)).symm

end Word

/--
Cuts a value and the mask of its changed bits into fields like `Field.slice`, with operations that
fail where they would overflow.
-/
def Field.slice? : List Field → Word → Word → Option (List FieldValue)
  | [], _, _ => some []
  | field :: rest, value, changed => do
      let mask ← Word.mask? field.width
      let behind ← slice? rest (value.moveOut field.width) (changed.moveOut field.width)
      return ⟨field.name, value &&& mask, changed &&& mask⟩ :: behind

/-- Cutting a word into fields overflows nowhere. -/
theorem Field.slice?_eq
    (fields : List Field)
    (value changed : Word) :
    slice? fields value changed = some (slice fields value changed) := by
  induction fields generalizing value changed with
  | nil => rfl
  | cons field rest inductionHypothesis =>
      rw [slice?, Word.mask?_eq, Word.moveOut_eq, Word.moveOut_eq, inductionHypothesis]
      rfl

/-! ## Decoding -/

namespace Register

theorem width_eq_sum
    (register : Register) :
    register.width = (register.fields.map Field.width).sum := by
  rw [width, List.sum_eq_foldl, List.foldl_map]

/--
Decoding shows every field under its name and in order, as the slice of the value at the field's
exact offset, with the same slice of the bits that changed since the last value, if there is one.
The fields at their offsets sum up to the value below the sum of all widths, and no operation of the
walk along the fields overflows.
-/
theorem decode_eq_slices
    (register : Register)
    (value : Word) :
    let shown := register.decode value
    let offset := Field.offset register.fields
    shown.map FieldValue.name = register.fields.map Field.name ∧
      (shown.map fun entry => entry.value.toNat) =
        register.fields.mapIdx (fun place field =>
          value.toNat / 2 ^ offset place % 2 ^ field.width) ∧
      (shown.map fun entry => entry.changed.toNat) =
        register.fields.mapIdx (fun place field =>
          match register.lastValue with
          | some previous => (value ^^^ previous).toNat / 2 ^ offset place % 2 ^ field.width
          | none => 0) ∧
      ((shown.map FieldValue.value).mapIdx fun place held => 2 ^ offset place * held.toNat).sum =
        value.toNat % 2 ^ register.width ∧
      Field.slice? register.fields value (register.changes value) = some shown := by
  intro shown offset
  have values : shown.map FieldValue.value = Field.values register.fields value :=
    Field.map_value_slice _ _ _
  have changes : shown.map FieldValue.changed =
      Field.values register.fields (register.changes value) :=
    Field.map_changed_slice _ _ _
  refine ⟨Field.map_name_slice _ _ _, ?_, ?_, ?_, Field.slice?_eq _ _ _⟩
  · rw [← Field.map_toNat_values, ← values, List.map_map]
    rfl
  · have slices := Field.map_toNat_values register.fields (register.changes value)
    rw [← changes, List.map_map] at slices
    refine slices.trans ?_
    cases seen : register.lastValue with
    | some previous => simp only [Register.changes, seen, offset]
    | none => simp [Register.changes, seen]
  · rw [values, Field.sum_values, width_eq_sum]

/-- A field wider than a word takes all that is left, and the fields behind it get nothing. -/
example :
    (Field.slice [⟨"low", 4⟩, ⟨"wide", 40⟩, ⟨"above", 3⟩] 0xDEADBEEF 0).map FieldValue.value =
      [0xF, 0xDEADBEE, 0] := by
  decide

end Register

end RegisterTrace
