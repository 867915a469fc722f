import Mathlib.Data.List.Forall2
import Mathlib.Data.Nat.Digits.Lemmas
import RegisterTrace.Payload
import RegisterTrace.Proofs.Numeral
import RegisterTrace.Proofs.Word

/-!
# Payloads as numbers

A payload that shows bytes shows each of them as two hexadecimal digits, with colons between the
bytes.  Its digits are the digits of the bytes from the last to the first, and the number that they
write has the first byte as its lowest.  A word holds that number exactly if all bytes behind the
fourth are zero, so four bytes always fit, and more fit if they add nothing.
-/

namespace RegisterTrace.Payload

/-! ## Numbers of bytes -/

/-- The number that bytes stand for, with the first byte as its lowest. -/
def number (bytes : List UInt8) : Nat :=
  (bytes.mapIdx fun place byte => byte.toNat * 256 ^ place).sum

theorem number_eq_ofDigits
    (bytes : List UInt8) :
    number bytes = Nat.ofDigits 256 (bytes.map UInt8.toNat) := by
  have same :
      (bytes.mapIdx fun place byte => byte.toNat * 256 ^ place) =
        (bytes.map UInt8.toNat).mapIdx fun place digit => digit * 256 ^ place := by
    apply List.ext_getElem?
    simp [Function.comp_def]
  rw [number, same, ← Nat.ofDigits_eq_sum_mapIdx]

theorem number_cons
    (byte : UInt8)
    (rest : List UInt8) :
    number (byte :: rest) = byte.toNat + 256 * number rest := by
  rw [number_eq_ofDigits, number_eq_ofDigits, List.map_cons, Nat.ofDigits_cons]

theorem number_append
    (first second : List UInt8) :
    number (first ++ second) = number first + 256 ^ first.length * number second := by
  simp only [number_eq_ofDigits, List.map_append, Nat.ofDigits_append, List.length_map]

theorem number_lt
    (bytes : List UInt8) :
    number bytes < 256 ^ bytes.length := by
  have small : ∀ digit ∈ bytes.map UInt8.toNat, digit < 256 := by
    intro digit member
    rcases List.mem_map.mp member with ⟨byte, -, rfl⟩
    exact byte.toNat_lt
  have bound := Nat.ofDigits_lt_base_pow_length (by decide) small
  rwa [← number_eq_ofDigits, List.length_map] at bound

theorem number_eq_zero_iff
    {bytes : List UInt8} :
    number bytes = 0 ↔ ∀ byte ∈ bytes, byte = 0 := by
  induction bytes with
  | nil => simp [number]
  | cons byte rest inductionHypothesis =>
      have zero : byte.toNat = 0 ↔ byte = 0 := by
        rw [← UInt8.toNat_inj]
        rfl
      rw [number_cons, List.forall_mem_cons, ← inductionHypothesis, ← zero]
      omega

/-- A word holds the number of bytes exactly if those behind the fourth are zero. -/
theorem number_lt_count_iff
    {bytes : List UInt8} :
    number bytes < Word.count ↔ ∀ byte ∈ bytes.drop 4, byte = 0 := by
  have count : Word.count = 256 ^ 4 := by decide
  have split : number bytes =
      number (bytes.take 4) + 256 ^ (bytes.take 4).length * number (bytes.drop 4) := by
    rw [← number_append, List.take_append_drop]
  rw [← number_eq_zero_iff, count, split]
  rcases Nat.le_total bytes.length 4 with short | long
  · have nothing : bytes.drop 4 = [] := List.drop_eq_nil_of_le short
    have whole : bytes.take 4 = bytes := List.take_of_length_le short
    have bound : number bytes < 256 ^ 4 :=
      Nat.lt_of_lt_of_le (number_lt bytes) (Nat.pow_le_pow_right (by decide) short)
    have zero : number [] = 0 := rfl
    rw [nothing, whole, zero, Nat.mul_zero, Nat.add_zero]
    exact iff_of_true bound rfl
  · have four : (bytes.take 4).length = 4 := List.length_take_of_le long
    have bound := number_lt (bytes.take 4)
    rw [four] at bound ⊢
    omega

/-! ## Bytes as text -/

/-- A byte is written as two hexadecimal digits, each of either case. -/
inductive Writes : List Char → UInt8 → Prop where
  | pair
      {high low : Char}
      {byte : UInt8}
      (upper : Numeral.digit? high = some (byte.toNat / 16))
      (lower : Numeral.digit? low = some (byte.toNat % 16)) :
      Writes [high, low] byte

/-- The payload that shows some groups of digits. -/
def ofGroups (groups : List (List Char)) : String :=
  String.ofList ([':'].intercalate groups)

section

variable
    {group : List Char}
    {byte : UInt8}

theorem Writes.isDigit
    (writes : Writes group byte)
    {digit : Char}
    (member : digit ∈ group) :
    Numeral.isDigit 16 digit := by
  cases writes with
  | pair upper lower =>
      have high : byte.toNat / 16 < 16 := Nat.div_lt_of_lt_mul byte.toNat_lt
      have low : byte.toNat % 16 < 16 := Nat.mod_lt _ (by decide)
      rcases List.mem_pair.mp member with rfl | rfl
      · simp [Numeral.isDigit, upper, high]
      · simp [Numeral.isDigit, lower, low]

theorem Writes.colon_notMem
    (writes : Writes group byte) :
    ':' ∉ group := by
  intro member
  cases writes.isDigit member

theorem Writes.length_eq
    (writes : Writes group byte) :
    group.length = 2 := by
  cases writes
  rfl

theorem Writes.value_eq
    (writes : Writes group byte) :
    Numeral.value 16 group = byte.toNat := by
  cases writes with
  | pair upper lower =>
      simp only [Numeral.value, List.foldl_cons, List.foldl_nil, upper, lower, Option.getD_some]
      omega

end

variable
    {groups : List (List Char)}
    {bytes : List UInt8}

/-- The digits of a payload are the groups from the last to the first. -/
theorem digits_ofGroups
    (nonempty : groups ≠ [])
    (noColon : ∀ group ∈ groups, ':' ∉ group) :
    digits (ofGroups groups) = String.ofList groups.reverse.flatten := by
  rw [digits, ofGroups, String.toList_ofList, reversedGroups,
    List.splitOn_intercalate ':' noColon nonempty]

/-- The groups of bytes write, from the last to the first, the number of the bytes. -/
theorem value_flatten_reverse
    (written : List.Forall₂ Writes groups bytes) :
    Numeral.value 16 groups.reverse.flatten = number bytes := by
  induction written with
  | nil => rfl
  | @cons group byte groups bytes writes written inductionHypothesis =>
      have square : (16 : Nat) ^ 2 = 256 := rfl
      rw [List.reverse_cons, List.flatten_concat, Numeral.value_append, inductionHypothesis,
        writes.value_eq, writes.length_eq, number_cons, square, Nat.add_comm, Nat.mul_comm]

theorem isDigit_of_mem_flatten_reverse
    (written : List.Forall₂ Writes groups bytes)
    {digit : Char}
    (member : digit ∈ groups.reverse.flatten) :
    Numeral.isDigit 16 digit := by
  induction written with
  | nil => cases member
  | cons writes written inductionHypothesis =>
      rw [List.reverse_cons, List.flatten_concat, List.mem_append] at member
      rcases member with behind | inFirst
      · exact inductionHypothesis behind
      · exact writes.isDigit inFirst

theorem length_flatten_reverse
    (written : List.Forall₂ Writes groups bytes) :
    groups.reverse.flatten.length = 2 * bytes.length := by
  induction written with
  | nil => rfl
  | cons writes written inductionHypothesis =>
      rw [List.reverse_cons, List.flatten_concat, List.length_append, inductionHypothesis,
        writes.length_eq, List.length_cons, Nat.mul_succ]

theorem colon_notMem_of_mem
    (written : List.Forall₂ Writes groups bytes) :
    ∀ group ∈ groups, ':' ∉ group := by
  induction written with
  | nil => simp
  | cons writes written inductionHypothesis =>
      exact List.forall_mem_cons.mpr ⟨writes.colon_notMem, inductionHypothesis⟩

/-- The digits of a payload that shows bytes are those of the bytes, from the last to the first. -/
theorem digits_of_written
    (nonempty : bytes ≠ [])
    (written : List.Forall₂ Writes groups bytes) :
    digits (ofGroups groups) = String.ofList groups.reverse.flatten := by
  apply digits_ofGroups ?_ (colon_notMem_of_mem written)
  rintro rfl
  exact nonempty (List.forall₂_nil_left_iff.mp written)

/-- The digits of bytes are read as the word that holds the number of the bytes, if one does. -/
theorem word?_digits_of_written
    (nonempty : bytes ≠ [])
    (written : List.Forall₂ Writes groups bytes) :
    word? (digits (ofGroups groups)) = Word.ofNat? (number bytes) := by
  have someDigits : groups.reverse.flatten ≠ [] := by
    rw [← List.length_pos_iff_ne_nil, length_flatten_reverse written]
    have some := List.length_pos_iff_ne_nil.mpr nonempty
    omega
  rw [digits_of_written nonempty written, word?, String.toList_ofList,
    Numeral.readWord?_eq_ofNat?_value someDigits
      (fun _ member => isDigit_of_mem_flatten_reverse written member),
    value_flatten_reverse written]

/-! ## Digits that write a word -/

/-- Hexadecimal digits and nothing else, one at least, with the number of a word as their value. -/
structure Plain (digits : String) (value : Word) : Prop where
  nonempty : digits ≠ ""
  hexadecimal : ∀ character ∈ digits.toList, Numeral.IsHexDigit character
  value_eq : Numeral.value 16 digits.toList = value.toNat

/-- The digits that are taken as a word: plain ones, or plain ones behind a plus sign. -/
inductive WritesWord : String → Word → Prop where
  | plain
      {digits : String}
      {value : Word}
      (plain : Plain digits value) :
      WritesWord digits value
  | signed
      {digits : String}
      {value : Word}
      (plain : Plain digits value) :
      WritesWord ("+" ++ digits) value

theorem plain_ofList_iff
    {digits : List Char}
    {value : Word} :
    Plain (String.ofList digits) value ↔
      digits ≠ [] ∧
        (∀ digit ∈ digits, Numeral.isDigit 16 digit) ∧ Numeral.value 16 digits = value.toNat := by
  have empty : String.ofList digits = "" ↔ digits = [] := by
    rw [← String.toList_inj, String.toList_ofList]
    rfl
  simp only [Numeral.isDigit_sixteen_iff]
  constructor
  · rintro ⟨nonempty, hexadecimal, value_eq⟩
    rw [String.toList_ofList] at hexadecimal value_eq
    exact ⟨mt empty.mpr nonempty, hexadecimal, value_eq⟩
  · rintro ⟨nonempty, hexadecimal, value_eq⟩
    refine ⟨mt empty.mp nonempty, ?_, ?_⟩
    · rw [String.toList_ofList]
      exact hexadecimal
    · rw [String.toList_ofList]
      exact value_eq

theorem word?_eq_some_iff
    {digits : String}
    {value : Word} :
    word? digits = some value ↔ WritesWord digits value := by
  rw [word?, Numeral.readWord?_eq_some_iff]
  constructor
  · rintro ⟨run, written, isNumeral⟩
    have plain := plain_ofList_iff.mpr isNumeral
    rcases written with same | signed
    · rw [← same, String.ofList_toList] at plain
      exact .plain plain
    · have whole : digits = "+" ++ String.ofList run := by
        rw [← String.toList_inj, String.toList_append]
        simpa using signed
      rw [whole]
      exact .signed plain
  · intro writes
    cases writes with
    | plain plain =>
        rw [← String.ofList_toList (s := digits), plain_ofList_iff] at plain
        exact ⟨digits.toList, .inl rfl, plain⟩
    | @signed digits _ plain =>
        rw [← String.ofList_toList (s := digits), plain_ofList_iff] at plain
        exact ⟨digits.toList, .inr String.toList_append, plain⟩

theorem word?_eq_none_iff
    {digits : String} :
    word? digits = none ↔ ∀ value, ¬ WritesWord digits value := by
  rw [Option.eq_none_iff_forall_ne_some]
  exact forall_congr' fun value => not_congr word?_eq_some_iff

/-- Digits that are taken as a word are plain unless a plus sign stands in front of them. -/
theorem WritesWord.exists_plain_iff
    {digits : String}
    {value : Word}
    (writes : WritesWord digits value) :
    (∃ number, Plain digits number) ↔ digits.toList.head? ≠ some '+' := by
  constructor
  · rintro ⟨number, plain⟩ signed
    exact absurd (plain.hexadecimal '+' (List.mem_of_mem_head? signed)) (by decide)
  · intro unsigned
    cases writes with
    | plain plain => exact ⟨value, plain⟩
    | signed => exact absurd (by rw [String.toList_append]; rfl) unsigned

end RegisterTrace.Payload
