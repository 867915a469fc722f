import RegisterTrace.Proofs.Payload
import RegisterTrace.Proofs.Session.Access
import RegisterTrace.Proofs.Session.Recording

/-!
# Accesses with the payload of bytes

A payload that shows bytes is accepted at a defined register exactly if a word holds the number of
the bytes, the first of them the lowest.  The register was then seen with exactly that number, and
the transaction shows the digits of the bytes from the last to the first.
-/

namespace RegisterTrace.Session

variable
    {session : Session}
    {address : Word}
    {register : Register}

/-- An access leaves the word of its digits as the last value of its register. -/
theorem lastValue_of_access
    {next : Session}
    {time digits : String}
    {direction : Direction}
    {transaction : Transaction}
    (accessed : session.access time direction address digits = .ok (next, transaction)) :
    ∃ seen,
      next.registers.get? address = some seen ∧ seen.lastValue = Payload.word? digits := by
  rcases access_eq_ok_iff.mp accessed with ⟨value, register, read, found, rfl, -⟩
  refine ⟨register.see value, ?_, read.symm⟩
  rw [registers_see, RegisterMap.get?_see, found, Option.map_some, if_pos rfl]

/--
Bytes, each written as two hexadecimal digits, are accessed at a defined register as the number of
which the first byte is the lowest, and refused if no word holds it.  A word holds it exactly if all
bytes behind the fourth are zero.
-/
theorem access_bytes
    (defined : session.registers.get? address = some register)
    {groups : List (List Char)}
    {bytes : List UInt8}
    (nonempty : bytes ≠ [])
    (written : List.Forall₂ Payload.Writes groups bytes)
    (time : String)
    (direction : Direction) :
    let digits := Payload.digits (Payload.ofGroups groups)
    let number := Payload.number bytes
    let result := session.access time direction address digits
    digits = String.ofList groups.reverse.flatten ∧
      digits.length = 2 * bytes.length ∧
        (number < Word.count →
          ∃ next transaction seen,
            result = .ok (next, transaction) ∧
              transaction.payload = digits ∧
                next.registers.get? address = some seen ∧
                  seen.lastValue.map BitVec.toNat = some number) ∧
          (Word.count ≤ number → result = .error (.invalidPayload digits)) ∧
            (number < Word.count ↔ ∀ byte ∈ bytes.drop 4, byte = 0) := by
  intro digits number result
  have shape : digits = String.ofList groups.reverse.flatten :=
    Payload.digits_of_written nonempty written
  have read : Payload.word? digits = Word.ofNat? number :=
    Payload.word?_digits_of_written nonempty written
  refine ⟨shape, ?_, ?_, ?_, Payload.number_lt_count_iff⟩
  · rw [shape, String.length_ofList, Payload.length_flatten_reverse written]
  · intro small
    have holds : Payload.word? digits = some (BitVec.ofNat 32 number) := by
      rw [read, Word.ofNat?, if_pos small]
    have accessed : result = .ok _ :=
      access_eq_ok_iff.mpr ⟨_, register, holds, defined, rfl, rfl⟩
    rcases lastValue_of_access accessed with ⟨seen, found, value⟩
    refine ⟨_, _, seen, accessed, rfl, found, ?_⟩
    rw [value, holds, Option.map_some, BitVec.toNat_ofNat]
    exact congrArg some (Nat.mod_eq_of_lt small)
  · intro large
    have none : Payload.word? digits = none := by
      rw [read, Word.ofNat?_eq_none_iff]
      exact large
    exact access_eq_error_iff.mpr (.inl ⟨none, rfl⟩)

/--
Of five bytes the last is zero, and the digits of the others are of both cases: they are taken as a
word.  The same bytes in the opposite order are refused, since the fifth is not zero then.
-/
theorem access_five_bytes :
    let start : Session := { registers := twoFieldRegisters, device := "1.4.0" }
    (∃ next transaction seen,
      start.access "" .read 0x8048 (Payload.digits "7F:ab:0C:00:00") = .ok (next, transaction) ∧
        transaction.payload = "00000Cab7F" ∧
          next.registers.get? 0x8048 = some seen ∧
            seen.lastValue.map BitVec.toNat = some 0x0CAB7F) ∧
      start.access "" .read 0x8048 (Payload.digits "00:00:0C:ab:7F") =
        .error (.invalidPayload "7Fab0C0000") := by
  intro start
  have written :
      List.Forall₂ Payload.Writes [['7', 'F'], ['a', 'b'], ['0', 'C'], ['0', '0'], ['0', '0']]
        [0x7F, 0xAB, 0x0C, 0x00, 0x00] := by
    repeat' constructor
  have backward := List.forall₂_reverse_iff.mpr written
  have lowest : Payload.number [0x7F, 0xAB, 0x0C, 0x00, 0x00] = 0x0CAB7F := by decide
  have defined : start.registers.get? 0x8048 = some _ := rfl
  have taken := access_bytes defined (by decide) written "" .read
  have refused := access_bytes defined (by decide) backward "" .read
  rcases taken with ⟨shape, -, accepted, -, -⟩
  rcases refused with ⟨otherShape, -, -, rejected, -⟩
  rcases accepted (by decide) with
    ⟨next, transaction, seen, accessed, payload, found, value⟩
  refine ⟨⟨next, transaction, seen, accessed, payload.trans shape, found, ?_⟩, ?_⟩
  · rw [value, lowest]
  · exact (rejected (by decide)).trans (by rw [otherShape]; rfl)

end RegisterTrace.Session
