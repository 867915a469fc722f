import RegisterTrace.Proofs.Session.Attempt
import RegisterTrace.Proofs.Session.Written

/-!
# What decoding leaves as it is

An access that is made leaves a value in one register and counts itself, and one that is refused
leaves nothing.  Nothing else in a session changes by it: the registers stay where they are, with
their names and fields.  So whatever is done with a session, packet by packet, access by access or
by whole captures, refused or not, its map is the one that it was built with, but for the values
that the registers were seen with.
-/

namespace RegisterTrace

/-- The register as it was defined, without the value that it was seen with. -/
def Register.definition (register : Register) : Register :=
  { register with lastValue := none }

/-- The map as it was defined, without the values that its registers were seen with. -/
def RegisterMap.definition (map : RegisterMap) : RegisterMap :=
  { map with registers := map.registers.map Register.definition }

/-- Seeing a register does not change how it is defined. -/
@[simp]
theorem RegisterMap.definition_see
    (map : RegisterMap)
    (address value : Word) :
    (map.see address value).definition = map.definition := by
  simp only [definition, see, modify, List.map_map]
  congr 2
  funext register
  simp only [Function.comp_apply]
  split <;> rfl

namespace Session

/-! ## One access -/

/-- An access left its value in its register and counted itself, and changed nothing else. -/
structure Touches (session : Session) (access : Access) (value : Word) (next : Session) : Prop where
  device_eq : next.device = session.device
  definition_eq : next.registers.definition = session.registers.definition
  seen_eq :
    next.registers.get? access.address =
      (session.registers.get? access.address).map fun register =>
        { register with lastValue := some value }
  elsewhere_eq :
    ∀ address,
      address ≠ access.address → next.registers.get? address = session.registers.get? address
  pending_eq : next.pending = session.pending
  packets_eq : next.tally.packets = session.tally.packets
  matched_eq : next.tally.matched = session.tally.matched
  reads_eq :
    next.tally.reads = session.tally.reads + if access.direction = .read then 1 else 0
  writes_eq :
    next.tally.writes = session.tally.writes + if access.direction = .write then 1 else 0

theorem touches_see
    (session : Session)
    (access : Access)
    (value : Word) :
    session.Touches access value (session.see access.direction access.address value) where
  device_eq := rfl
  definition_eq := RegisterMap.definition_see _ _ _
  seen_eq := session.registers.get?_see_self access.address value
  elsewhere_eq _ elsewhere := session.registers.get?_see_of_ne elsewhere value
  pending_eq := rfl
  packets_eq := by cases access.direction <;> rfl
  matched_eq := by cases access.direction <;> rfl
  reads_eq := by cases access.direction <;> rfl
  writes_eq := by cases access.direction <;> rfl

theorem Attempts.definition_eq
    {session : Session}
    {access : Access}
    {outcome : Outcome Session DecodeError Transaction}
    (attempts : session.Attempts access outcome) :
    outcome.state.registers.definition = session.registers.definition := by
  cases attempts with
  | unreadable => rfl
  | undefined => rfl
  | made => exact RegisterMap.definition_see _ _ _

/-! ## Packets and captures -/

theorem fixed_definition : Fixed fun session => session.registers.definition where
  counted _ := rfl
  matched _ := rfl
  awaited _ _ := rfl
  seen _ _ address value := RegisterMap.definition_see _ address value

theorem definition_transcribe
    (session : Session)
    (packets : List Packet)
    (sink : Sink) :
    (session.transcribe packets sink).state.session.registers.definition =
      session.registers.definition := by
  have atStart :
      ({ session, sink } : Decoding).session.registers.definition =
        session.registers.definition := rfl
  refine Outcome.run_invariant
    (motive := fun (decoding : Decoding) =>
      decoding.session.registers.definition = session.registers.definition)
    ?_ atStart packets
  intro decoding packet kept
  rw [Decoding.session_receive, fixed_definition.receives (receives decoding.session packet), kept]

/-! ## Whatever is done with a session -/

/-- What may be done with a session. -/
inductive Operation where
  | access (access : Access)
  | packet (packet : Packet)
  | capture (packets : List Packet) (sink : Sink)

/-- The session after an operation, refused or not. -/
def operate (session : Session) : Operation → Session
  | .access access => (session.attempt access).state
  | .packet packet => (session.receive packet).state
  | .capture packets sink => (session.transcribe packets sink).state.session

/-- The session after operations one after another, whatever comes of each. -/
def afterOperations (session : Session) (operations : List Operation) : Session :=
  operations.foldl operate session

theorem definition_operate
    (session : Session)
    (operation : Operation) :
    (session.operate operation).registers.definition = session.registers.definition := by
  cases operation with
  | access access => exact (attempts session access).definition_eq
  | packet packet => exact fixed_definition.receives (receives session packet)
  | capture packets sink => exact definition_transcribe session packets sink

theorem definition_afterOperations
    (session : Session)
    (operations : List Operation) :
    (session.afterOperations operations).registers.definition = session.registers.definition := by
  induction operations generalizing session with
  | nil => rfl
  | cons operation rest inductionHypothesis =>
      exact (inductionHypothesis (session.operate operation)).trans
        (definition_operate session operation)

/--
An access with digits that write no word is refused for them, wherever it is; with digits that do it
is refused if no register is defined at its address; and either refusal leaves the session as it
was.  Otherwise the access is made and touches its register and its counter only.  So after any
operations the registers are those that the session started with, under the same names and with the
same fields.
-/
theorem access_touches_only_its_register
    (session : Session)
    (access : Access) :
    let attempted := session.attempt access
    ((∀ value, ¬ Payload.WritesWord access.digits value) →
        attempted.result = .error (.invalidPayload access.digits) ∧ attempted.state = session) ∧
      (∀ value,
        Payload.WritesWord access.digits value →
          (session.registers.get? access.address = none →
              attempted.result = .error (.unknownRegister access.address) ∧
                attempted.state = session) ∧
            ∀ register,
              session.registers.get? access.address = some register →
                attempted.result = .ok (shownBy access register value) ∧
                  session.Touches access value attempted.state) ∧
        ∀ operations,
          (session.afterOperations operations).registers.definition =
            session.registers.definition := by
  intro attempted
  refine ⟨?_, ?_, definition_afterOperations session⟩
  · intro noWord
    have refused : attempted = _ := attempt_of_unreadable noWord
    rw [refused]
    exact ⟨rfl, rfl⟩
  · intro value writes
    constructor
    · intro free
      have refused : attempted = _ := attempt_of_undefined writes free
      rw [refused]
      exact ⟨rfl, rfl⟩
    · intro register found
      have made : attempted = _ := attempt_of_found writes found
      rw [made]
      exact ⟨rfl, touches_see session access value⟩

/--
A write with plain digits touches the register at its address.  With a letter that is no digit it is
refused for its digits, although no register is defined at the address either.
-/
theorem write_touches_register :
    let session : Session := { registers := twoFieldRegisters, device := "1.4.0" }
    let write : Access := { time := "", direction := .write, address := 0x8048, digits := "21" }
    let refused : Access := { time := "", direction := .write, address := 0, digits := "2g" }
    Payload.WritesWord "21" 0x21 ∧
      session.Touches write 0x21 (session.attempt write).state ∧
        (∀ value, ¬ Payload.WritesWord "2g" value) ∧
          (session.attempt refused).result = .error (.invalidPayload "2g") ∧
            (session.attempt refused).state = session := by
  intro session write refused
  have writes : Payload.WritesWord "21" 0x21 := Payload.word?_eq_some_iff.mp (by decide)
  have found : twoFieldRegisters.get? 0x8048 = some _ := rfl
  have noWord : ∀ value, ¬ Payload.WritesWord "2g" value :=
    Payload.word?_eq_none_iff.mp (by decide)
  have made := ((access_touches_only_its_register session write).2.1 0x21 writes).2 _ found
  exact ⟨writes, made.2, noWord, (access_touches_only_its_register session refused).1 noWord⟩

end Session

end RegisterTrace
