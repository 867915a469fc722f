import RegisterTrace.Proofs.RegisterMap.Lookup
import RegisterTrace.Session

/-!
# One access

An access happens exactly if its digits write a word and a register is defined at its address.  It
then shows that register with the word cut into fields, and the session remembers the word as the
register's last value and counts the access.  Otherwise it is refused, for the digits first and for
the address second.
-/

namespace RegisterTrace.Session

/-- The session once the register at an address was accessed with a value. -/
def see
    (session : Session)
    (direction : Direction)
    (address value : Word) :
    Session :=
  { session with
    registers := session.registers.see address value
    tally := session.tally.countAccess direction }

@[simp]
theorem device_see
    (session : Session)
    (direction : Direction)
    (address value : Word) :
    (session.see direction address value).device = session.device := rfl

@[simp]
theorem pending_see
    (session : Session)
    (direction : Direction)
    (address value : Word) :
    (session.see direction address value).pending = session.pending := rfl

@[simp]
theorem registers_see
    (session : Session)
    (direction : Direction)
    (address value : Word) :
    (session.see direction address value).registers = session.registers.see address value := rfl

@[simp]
theorem tally_see
    (session : Session)
    (direction : Direction)
    (address value : Word) :
    (session.see direction address value).tally = session.tally.countAccess direction := rfl

/-- Accesses to two registers may be made in either order. -/
theorem see_comm
    (session : Session)
    {firstAddress secondAddress : Word}
    (apart : firstAddress ≠ secondAddress)
    (firstDirection secondDirection : Direction)
    (firstValue secondValue : Word) :
    (session.see firstDirection firstAddress firstValue).see secondDirection secondAddress
        secondValue =
      (session.see secondDirection secondAddress secondValue).see firstDirection firstAddress
        firstValue := by
  have sameTally :
      (session.tally.countAccess firstDirection).countAccess secondDirection =
        (session.tally.countAccess secondDirection).countAccess firstDirection := by
    cases firstDirection <;> cases secondDirection <;> rfl
  simp only [see, sameTally, RegisterMap.see_comm session.registers apart]

/-- What an access shows of the register that it finds. -/
def shown
    (time : String)
    (direction : Direction)
    (address : Word)
    (digits : String)
    (register : Register)
    (value : Word) :
    Transaction :=
  { time, direction, address
    payload := digits
    register := register.name
    fields := register.decode value }

/-- An access happens exactly for digits that write a word and an address that is defined. -/
theorem access_eq_ok_iff
    {session next : Session}
    {time digits : String}
    {direction : Direction}
    {address : Word}
    {transaction : Transaction} :
    session.access time direction address digits = .ok (next, transaction) ↔
      ∃ value register,
        Payload.word? digits = some value ∧
          session.registers.get? address = some register ∧
            next = session.see direction address value ∧
              transaction = shown time direction address digits register value := by
  constructor
  · intro accessed
    rw [access] at accessed
    split at accessed
    · cases accessed
    · next value written =>
        split at accessed
        · cases accessed
        · next register found =>
            cases accessed
            exact ⟨value, register, written, found, rfl, rfl⟩
  · rintro ⟨value, register, written, found, rfl, rfl⟩
    simp only [access, written, found]
    rfl

/-- An access is refused exactly for digits that write no word, or else for an undefined address. -/
theorem access_eq_error_iff
    {session : Session}
    {time digits : String}
    {direction : Direction}
    {address : Word}
    {error : DecodeError} :
    session.access time direction address digits = .error error ↔
      (Payload.word? digits = none ∧ error = .invalidPayload digits) ∨
        ((Payload.word? digits).isSome ∧
          session.registers.get? address = none ∧ error = .unknownRegister address) := by
  rw [access]
  cases written : Payload.word? digits with
  | none => simp [eq_comm]
  | some value =>
      cases found : session.registers.get? address with
      | none => simp [eq_comm]
      | some register => simp

/-! ## What an access leaves as it is, and what it shows -/

section

variable
    {session next : Session}
    {time digits : String}
    {direction : Direction}
    {address : Word}
    {transaction : Transaction}
    (accessed : session.access time direction address digits = .ok (next, transaction))

include accessed

theorem pending_of_access : next.pending = session.pending := by
  rcases access_eq_ok_iff.mp accessed with ⟨value, register, -, -, seen, -⟩
  rw [seen, pending_see]

theorem tally_of_access : next.tally = session.tally.countAccess direction := by
  rcases access_eq_ok_iff.mp accessed with ⟨value, register, -, -, seen, -⟩
  rw [seen, tally_see]

theorem direction_of_access : transaction.direction = direction := by
  rcases access_eq_ok_iff.mp accessed with ⟨value, register, -, -, -, made⟩
  rw [made, shown]

theorem address_of_access : transaction.address = address := by
  rcases access_eq_ok_iff.mp accessed with ⟨value, register, -, -, -, made⟩
  rw [made, shown]

end

/-! ## An access as a step -/

theorem accessStep_eq_ok_iff
    {session next : Session}
    {time payload : String}
    {direction : Direction}
    {address : Word}
    {transactions : List Transaction} :
    session.accessStep time direction address payload = .ok (next, transactions) ↔
      ∃ transaction,
        session.access time direction address (Payload.digits payload) = .ok (next, transaction) ∧
          transactions = [transaction] := by
  rw [accessStep]
  cases accessed : session.access time direction address (Payload.digits payload) with
  | error refusal => simp [bind, Except.bind]
  | ok made =>
      rcases made with ⟨after, transaction⟩
      constructor
      · intro taken
        cases taken
        exact ⟨transaction, rfl, rfl⟩
      · rintro ⟨same, equal, rfl⟩
        cases equal
        rfl

theorem accessStep_eq_error_iff
    {session : Session}
    {time payload : String}
    {direction : Direction}
    {address : Word}
    {error : DecodeError} :
    session.accessStep time direction address payload = .error error ↔
      session.access time direction address (Payload.digits payload) = .error error := by
  rw [accessStep]
  cases session.access time direction address (Payload.digits payload) with
  | error refusal => simp [bind, Except.bind]
  | ok made => simp [bind, Except.bind, pure, Except.pure]

end RegisterTrace.Session
