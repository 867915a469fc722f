import RegisterTrace.Proofs.Numeral
import RegisterTrace.Transaction

/-!
# The marker of a field line

A field line ends with the marker exactly if a bit of the field changed.  Without the marker the
line ends with the hexadecimal column, which has digits, the hexadecimal mark and filling only.
-/

namespace RegisterTrace

namespace Numeral

theorem star_notMem_markedHex
    (number : Nat) :
    '*' ∉ (markedHex number).toList := by
  intro member
  have noStar : ∀ digit < 16, '*' ≠ Nat.digitChar digit := by decide
  rw [markedHex, hex, String.toList_append, List.mem_append] at member
  rcases member with mark | digits
  · revert mark
    decide
  · have large : 1 < 16 := by decide
    rw [String.toList_ofList] at digits
    rcases exists_of_mem_toDigits large digits with ⟨digit, small, same⟩
    exact noStar digit small same

end Numeral

/-- A text is filled with spaces, possibly none. -/
theorem toList_fillRight
    (width : Nat)
    (text : String) :
    (fillRight width text).toList =
      text.toList ++ List.replicate (width - text.toList.length) ' ' :=
  String.toList_ofList

namespace FieldValue

/-- The line of a field up to the marker. -/
def columns (field : FieldValue) : String :=
  "    " ++ fillRight 25 field.name ++
    " = " ++ fillRight 6 (Numeral.decimal field.value.toNat) ++
    " " ++ fillRight 6 (Numeral.markedHex field.value.toNat)

theorem line_eq_columns_append
    (field : FieldValue) :
    field.line.toList = field.columns.toList ++ field.marker.toList :=
  String.toList_append

/-- The columns of a field do not end with a star. -/
theorem getLast?_columns_ne
    (field : FieldValue) :
    field.columns.toList.getLast? ≠ some '*' := by
  intro endsWithStar
  rw [columns, String.toList_append, toList_fillRight] at endsWithStar
  have written : (Numeral.markedHex field.value.toNat).toList ≠ [] := by
    rw [Numeral.markedHex, String.toList_append]
    exact List.append_ne_nil_of_left_ne_nil (by decide) _
  have columnWritten := List.append_ne_nil_of_left_ne_nil written
  rw [List.getLast?_append_of_ne_nil _ (columnWritten _)] at endsWithStar
  rcases List.mem_append.mp (List.mem_of_getLast? endsWithStar) with digits | filling
  · exact Numeral.star_notMem_markedHex _ digits
  · cases List.eq_of_mem_replicate filling

/-- Whether the line of a field ends with the marker of a change. -/
def CarriesMarker (field : FieldValue) : Prop :=
  "***CHANGED***".toList <:+ field.line.toList

/-- A field line carries the marker exactly if a bit of the field changed. -/
theorem carriesMarker_iff
    (field : FieldValue) :
    field.CarriesMarker ↔ field.changed ≠ 0 := by
  rw [CarriesMarker, line_eq_columns_append, marker, isChanged]
  constructor
  · rintro ⟨front, split⟩ unchanged
    apply field.getLast?_columns_ne
    rw [unchanged, bne_self_eq_false, if_neg Bool.false_ne_true, String.toList_empty,
      List.append_nil] at split
    rw [← split, List.getLast?_append_of_ne_nil _ (by decide)]
    decide
  · intro changed
    rw [if_pos (bne_iff_ne.mpr changed)]
    have markerEnd : "***CHANGED***".toList <:+ " ***CHANGED***".toList := by decide
    exact List.suffix_append_of_suffix markerEnd

end FieldValue

end RegisterTrace
