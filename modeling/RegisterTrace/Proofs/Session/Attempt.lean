import RegisterTrace.Proofs.Payload
import RegisterTrace.Proofs.Session.Access

/-!
# Accesses that may be refused

An access that is asked for is refused for its digits or else for its address, and then it leaves
the session as it was; otherwise it happens.  What it does there depends on the register at its
address alone and touches no other register.
-/

namespace RegisterTrace

/-- An access that is asked for. -/
structure Access where
  time : String
  direction : Direction
  address : Word
  digits : String
  deriving DecidableEq, Repr

namespace Session

/-- Makes an access, or leaves the session as it is. -/
def attempt (session : Session) (access : Access) : Outcome Session DecodeError Transaction :=
  match session.access access.time access.direction access.address access.digits with
  | .error error => .refuse session error
  | .ok (next, transaction) => .accept next transaction

/-- What an access shows of the register that it finds. -/
def shownBy (access : Access) (register : Register) (value : Word) : Transaction :=
  shown access.time access.direction access.address access.digits register value

/-- What comes of an access: one of two refusals, or the access itself. -/
inductive Attempts (session : Session) (access : Access) :
    Outcome Session DecodeError Transaction → Prop where
  | unreadable
      (noWord : ∀ value, ¬ Payload.WritesWord access.digits value) :
      Attempts session access (.refuse session (.invalidPayload access.digits))
  | undefined
      {value : Word}
      (writes : Payload.WritesWord access.digits value)
      (free : session.registers.get? access.address = none) :
      Attempts session access (.refuse session (.unknownRegister access.address))
  | made
      {value : Word}
      {register : Register}
      (writes : Payload.WritesWord access.digits value)
      (found : session.registers.get? access.address = some register) :
      Attempts session access
        (.accept (session.see access.direction access.address value)
          (shownBy access register value))

section

variable
    {session : Session}
    {access : Access}

theorem attempt_of_unreadable
    (noWord : ∀ value, ¬ Payload.WritesWord access.digits value) :
    session.attempt access = .refuse session (.invalidPayload access.digits) := by
  rw [attempt, access_eq_error_iff.mpr (.inl ⟨Payload.word?_eq_none_iff.mpr noWord, rfl⟩)]

theorem attempt_of_undefined
    {value : Word}
    (writes : Payload.WritesWord access.digits value)
    (free : session.registers.get? access.address = none) :
    session.attempt access = .refuse session (.unknownRegister access.address) := by
  have isWord : (Payload.word? access.digits).isSome := by
    rw [Payload.word?_eq_some_iff.mpr writes]
    rfl
  rw [attempt, access_eq_error_iff.mpr (.inr ⟨isWord, free, rfl⟩)]

theorem attempt_of_found
    {value : Word}
    {register : Register}
    (writes : Payload.WritesWord access.digits value)
    (found : session.registers.get? access.address = some register) :
    session.attempt access =
      .accept (session.see access.direction access.address value)
        (shownBy access register value) := by
  have isWord := Payload.word?_eq_some_iff.mpr writes
  rw [attempt, access_eq_ok_iff.mpr ⟨value, register, isWord, found, rfl, rfl⟩]
  rfl

end

theorem attempts
    (session : Session)
    (access : Access) :
    session.Attempts access (session.attempt access) := by
  cases read : Payload.word? access.digits with
  | none =>
      have noWord := Payload.word?_eq_none_iff.mp read
      rw [attempt_of_unreadable noWord]
      exact .unreadable noWord
  | some value =>
      have writes := Payload.word?_eq_some_iff.mp read
      cases found : session.registers.get? access.address with
      | none =>
          rw [attempt_of_undefined writes found]
          exact .undefined writes found
      | some register =>
          rw [attempt_of_found writes found]
          exact .made writes found

/-! ## The register that an access touches -/

/-- An access touches no register at another address. -/
theorem Attempts.get?_of_ne
    {session : Session}
    {access : Access}
    {outcome : Outcome Session DecodeError Transaction}
    (attempts : session.Attempts access outcome)
    {address : Word}
    (elsewhere : address ≠ access.address) :
    outcome.state.registers.get? address = session.registers.get? address := by
  cases attempts with
  | unreadable => rfl
  | undefined => rfl
  | made => exact session.registers.get?_see_of_ne elsewhere _

/-- What comes of an access depends on the register at its address alone. -/
theorem Attempts.congr
    {left right : Session}
    {access : Access}
    {outcome : Outcome Session DecodeError Transaction}
    (attempts : left.Attempts access outcome)
    (same : left.registers.get? access.address = right.registers.get? access.address) :
    outcome.result = (right.attempt access).result ∧
      outcome.state.registers.get? access.address =
        (right.attempt access).state.registers.get? access.address := by
  cases attempts with
  | unreadable noWord =>
      rw [attempt_of_unreadable noWord]
      exact ⟨rfl, same⟩
  | undefined writes free =>
      rw [attempt_of_undefined writes (same ▸ free)]
      exact ⟨rfl, same⟩
  | made writes found =>
      rw [attempt_of_found writes (same ▸ found)]
      refine ⟨rfl, ?_⟩
      simp only [Outcome.accept, registers_see, RegisterMap.get?_see_self, same]

end Session

end RegisterTrace
