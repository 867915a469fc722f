import Mathlib.Data.List.Basic
import RegisterTrace.Text.Utf8

/-!
# Characters as bytes

A character of ASCII is one byte, and every byte of another character is above ASCII.  So a byte of
ASCII stands in the bytes of a text only for the character itself.  The bytes of a character are
told from what follows them: a text that starts with one character does not start with another.
-/

namespace RegisterTrace.Utf8

variable {character other : Char}

/-- The first code point that is not in ASCII. -/
def asciiCount : Nat := 0x80

theorem utf8EncodeChar_of_lt
    (small : character.toNat < asciiCount) :
    String.utf8EncodeChar character = [UInt8.ofNat character.toNat] := by
  have below : character.val.toNat ≤ 0x7F := Nat.le_of_lt_succ small
  simp only [String.utf8EncodeChar, if_pos below, Char.toNat]

/-- Every byte of a character beyond ASCII is above ASCII. -/
theorem le_of_mem_utf8EncodeChar
    (large : asciiCount ≤ character.toNat)
    {value : UInt8}
    (member : value ∈ String.utf8EncodeChar character) :
    asciiCount ≤ value.toNat := by
  have above : ¬ character.val.toNat ≤ 0x7F := Nat.not_le_of_lt large
  simp only [String.utf8EncodeChar, if_neg above] at member
  rw [asciiCount]
  split at member
  · simp only [List.mem_cons, List.not_mem_nil, or_false] at member
    rcases member with rfl | rfl <;> simp only [UInt8.toNat_ofNat'] <;> omega
  · split at member
    · simp only [List.mem_cons, List.not_mem_nil, or_false] at member
      rcases member with rfl | rfl | rfl <;> simp only [UInt8.toNat_ofNat'] <;> omega
    · simp only [List.mem_cons, List.not_mem_nil, or_false] at member
      rcases member with rfl | rfl | rfl | rfl <;> simp only [UInt8.toNat_ofNat'] <;> omega

/-- A byte of ASCII in the bytes of a character is that character. -/
theorem eq_of_mem_utf8EncodeChar
    (small : other.toNat < asciiCount)
    (member : UInt8.ofNat other.toNat ∈ String.utf8EncodeChar character) :
    character = other := by
  rw [asciiCount] at small
  have byteValue : (UInt8.ofNat other.toNat).toNat = other.toNat := by
    rw [UInt8.toNat_ofNat']
    omega
  by_cases ascii : character.toNat < asciiCount
  · rw [utf8EncodeChar_of_lt ascii, List.mem_singleton] at member
    have sameValue := congrArg UInt8.toNat member
    rw [asciiCount] at ascii
    rw [byteValue, UInt8.toNat_ofNat'] at sameValue
    apply Char.toNat_inj.mp
    omega
  · have large := le_of_mem_utf8EncodeChar (Nat.le_of_not_lt ascii) member
    rw [byteValue, asciiCount] at large
    omega

/-- A character of ASCII is in a text exactly if its byte is in the bytes of the text. -/
theorem mem_encode_iff
    (small : character.toNat < asciiCount)
    {text : String} :
    UInt8.ofNat character.toNat ∈ encode text ↔ character ∈ text.toList := by
  rw [encode, List.mem_flatMap]
  constructor
  · rintro ⟨found, member, inside⟩
    rw [← eq_of_mem_utf8EncodeChar small inside]
    exact member
  · intro member
    refine ⟨character, member, ?_⟩
    rw [utf8EncodeChar_of_lt small]
    exact List.mem_singleton_self _

theorem encode_injective
    {left right : String}
    (same : encode left = encode right) :
    left = right := by
  have decoded := decode?_encode left
  rw [same, decode?_encode] at decoded
  exact (Option.some.inj decoded).symm

/-- The bytes of a text with one more character. -/
theorem encode_ofList_concat
    (characters : List Char)
    (last : Char) :
    encode (String.ofList (characters ++ [last])) =
      encode (String.ofList characters) ++ String.utf8EncodeChar last := by
  simp only [encode, String.toList_ofList, List.flatMap_append, List.flatMap_singleton]

/-! ## Where characters start -/

/-- The first byte of a character starts one, and no other byte of it does. -/
theorem exists_utf8EncodeChar_eq_cons
    (character : Char) :
    ∃ first more,
      String.utf8EncodeChar character = first :: more ∧
        first.IsUTF8FirstByte ∧ ∀ value ∈ more, ¬ value.IsUTF8FirstByte := by
  have starts : ∀ (index : Nat) (inside : index < (String.utf8EncodeChar character).length),
      ((String.utf8EncodeChar character)[index]).IsUTF8FirstByte ↔ index = 0 := by
    intro index inside
    exact UInt8.isUTF8FirstByte_getElem_utf8EncodeChar
  cases whole : String.utf8EncodeChar character with
  | nil => exact absurd whole String.utf8EncodeChar_ne_nil
  | cons first more =>
      simp only [whole] at starts
      refine ⟨first, more, rfl, (starts 0 (by simp)).mpr rfl, ?_⟩
      intro value member isFirst
      rcases List.getElem_of_mem member with ⟨index, inside, rfl⟩
      have later := (starts (index + 1) (by simpa using inside)).mp
      rw [List.getElem_cons_succ] at later
      exact absurd (later isFirst) (Nat.succ_ne_zero index)

/-- Bytes that start with a character start with no other one. -/
theorem utf8EncodeChar_append_inj
    {left right : List UInt8}
    (same : String.utf8EncodeChar character ++ left = String.utf8EncodeChar other ++ right) :
    character = other ∧ left = right := by
  have decoded := @ByteArray.utf8DecodeChar?_utf8EncodeChar_append left.toByteArray character
  rw [← List.toByteArray_append, same, List.toByteArray_append,
    ByteArray.utf8DecodeChar?_utf8EncodeChar_append, Option.some.injEq] at decoded
  subst decoded
  exact ⟨rfl, List.append_cancel_left same⟩

end RegisterTrace.Utf8
