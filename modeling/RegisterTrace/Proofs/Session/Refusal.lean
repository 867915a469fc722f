import RegisterTrace.Proofs.Session.Pending
import RegisterTrace.Proofs.Session.Recording

/-!
# What a refused packet leaves behind

A packet that is refused gives no transaction.  Whatever half of it is refused, its own request has
no effect, so neither the pending read nor the count of writes changes.  But its answer is taken
before its request is looked at: a read that is completed then stays in its register and in the
count of reads, although nobody is given it.  The main statement of this module says that this is
the only way in which a refused packet leaves a trace beyond the two counts of packets.
-/

namespace RegisterTrace.Session

/-- The address and the value of the read that the answer in a packet completes. -/
def completedRead? (session : Session) (packet : Packet) : Option (Word × Word) :=
  if packet.isRelevant session.device then do
    let payload ← packet.response
    let address ← session.pending
    let value ← Payload.word? (Payload.digits payload)
    let _ ← session.registers.get? address
    return (address, value)
  else
    none

/-- Nothing but the counts of packets and of relevant packets tells that a packet was received. -/
structure Untouched (session : Session) (packet : Packet) (next : Session) : Prop where
  device_eq : next.device = session.device
  registers_eq : next.registers = session.registers
  pending_eq : next.pending = session.pending
  reads_eq : next.tally.reads = session.tally.reads
  writes_eq : next.tally.writes = session.tally.writes
  packets_eq : next.tally.packets = session.tally.packets + 1
  matched_eq :
    next.tally.matched =
      session.tally.matched + if packet.isRelevant session.device then 1 else 0

variable
    {session : Session}
    {packet : Packet}

/-! ## The read that an answer completes -/

theorem completedRead?_eq_some_iff
    {address value : Word} :
    session.completedRead? packet = some (address, value) ↔
      packet.isRelevant session.device ∧
        ∃ payload register,
          packet.response = some payload ∧
            session.pending = some address ∧
              Payload.word? (Payload.digits payload) = some value ∧
                session.registers.get? address = some register := by
  rw [completedRead?]
  constructor
  · intro completed
    split at completed
    · next relevant =>
        simp only [Option.bind_eq_bind, Option.bind_eq_some_iff, Option.pure_def,
          Option.some.injEq, Prod.mk.injEq] at completed
        rcases completed with
          ⟨payload, response, _, pending, _, written, register, found, rfl, rfl⟩
        exact ⟨relevant, payload, register, response, pending, written, found⟩
    · cases completed
  · rintro ⟨relevant, payload, register, response, pending, written, found⟩
    simp only [if_pos relevant, response, pending, written, found, Option.bind_eq_bind,
      Option.bind_some, Option.pure_def]

theorem completedRead?_of_not_isRelevant
    (irrelevant : packet.isRelevant session.device = false) :
    session.completedRead? packet = none := by
  rw [completedRead?, irrelevant]
  rfl

/-- An answer that is refused completes no read. -/
theorem completedRead?_of_refused
    {error : DecodeError}
    (refused : session.countRelevant.perform? packet.time packet.answer? = .error error) :
    session.completedRead? packet = none := by
  rw [Option.eq_none_iff_forall_ne_some]
  rintro ⟨address, value⟩ completed
  rcases completedRead?_eq_some_iff.mp completed with
    ⟨-, payload, register, response, pending, written, found⟩
  have happens :
      session.countRelevant.access packet.time .read address (Payload.digits payload) =
        .ok
          (session.countRelevant.see .read address value,
            shown packet.time .read address (Payload.digits payload) register value) :=
    access_eq_ok_iff.mpr ⟨value, register, written, found, rfl, rfl⟩
  have awaited : session.countRelevant.pending = some address := pending
  rw [Packet.answer?, response, Option.map_some, perform?, perform, awaited] at refused
  simp only [accessStep_eq_error_iff] at refused
  rw [happens] at refused
  cases refused

/-- Taking the answer of a relevant packet changes the session by the read that it completes. -/
theorem Answers.eq_of_completedRead?
    {middle : Session}
    {transactions : List Transaction}
    (answered : session.countRelevant.Answers packet middle transactions)
    (relevant : packet.isRelevant session.device) :
    (session.completedRead? packet = none ∧ middle = session.countRelevant) ∨
      ∃ address value,
        session.completedRead? packet = some (address, value) ∧
          middle = session.countRelevant.see .read address value := by
  cases answered with
  | silent noResponse =>
      have nothing : session.completedRead? packet = none := by
        rw [completedRead?, if_pos relevant, noResponse]
        rfl
      exact .inl ⟨nothing, rfl⟩
  | complete response pending accessed =>
      rcases access_eq_ok_iff.mp accessed with ⟨value, register, written, found, seen, -⟩
      have completed :=
        completedRead?_eq_some_iff.mpr
          ⟨relevant, _, register, response, pending, written, found⟩
      exact .inr ⟨_, value, completed, seen⟩

/-! ## Refused packets -/

theorem untouched_countPacket
    (irrelevant : packet.isRelevant session.device = false) :
    Untouched session packet session.countPacket := by
  constructor <;> simp [countPacket, irrelevant]

theorem untouched_countRelevant
    (relevant : packet.isRelevant session.device) :
    Untouched session packet session.countRelevant := by
  constructor <;> simp [countRelevant, countPacket, countMatched, relevant]

/-- A completed read is counted, so a session that it is left in is not untouched. -/
theorem not_untouched_see
    (address value : Word) :
    ¬ Untouched session packet (session.countRelevant.see .read address value) := by
  intro untouched
  have counted : session.tally.reads + 1 = session.tally.reads := untouched.reads_eq
  exact Nat.succ_ne_self _ counted

/-- A refused packet leaves the session untouched, or with the read that its answer completes. -/
theorem Receives.refused_cases
    {next : Session}
    {error : DecodeError}
    (receives : session.Receives packet next (.error error)) :
    (session.completedRead? packet = none ∧ Untouched session packet next) ∨
      ∃ address value,
        session.completedRead? packet = some (address, value) ∧
          next = session.countRelevant.see .read address value := by
  cases receives with
  | unclear unknown =>
      have irrelevant : packet.isRelevant session.device = false := by
        rw [← Bool.not_eq_true, ← Packet.concerns_eq_ok_true_iff, unknown]
        exact nofun
      exact .inl ⟨completedRead?_of_not_isRelevant irrelevant, untouched_countPacket irrelevant⟩
  | unanswered concerned refused =>
      have relevant := Packet.concerns_eq_ok_true_iff.mp concerned
      exact .inl ⟨completedRead?_of_refused refused, untouched_countRelevant relevant⟩
  | unserved concerned answered _ =>
      have relevant := Packet.concerns_eq_ok_true_iff.mp concerned
      rcases answered.eq_of_completedRead? relevant with ⟨nothing, rfl⟩ | completed
      · exact .inl ⟨nothing, untouched_countRelevant relevant⟩
      · exact .inr completed

/--
A refused packet leaves the session untouched exactly if its answer completes no read.  If it
completes one, the session has counted the packet and the read and remembers the value, and this is
all that changed.
-/
theorem untouched_iff_of_refused
    {error : DecodeError}
    (refused : (session.receive packet).result = .error error) :
    let next := (session.receive packet).state
    (Untouched session packet next ↔ session.completedRead? packet = none) ∧
      ∀ address value,
        session.completedRead? packet = some (address, value) →
          next = session.countRelevant.see .read address value := by
  intro next
  have received := receives session packet
  rw [refused] at received
  rcases received.refused_cases with ⟨nothing, untouched⟩ | ⟨address, value, completed, left⟩
  · refine ⟨iff_of_true untouched nothing, ?_⟩
    intro address value completed
    rw [nothing] at completed
    cases completed
  · have same : next = session.countRelevant.see .read address value := left
    have touched : ¬ Untouched session packet next := by
      rw [same]
      exact not_untouched_see address value
    have something : session.completedRead? packet ≠ none := by
      rw [completed]
      exact nofun
    refine ⟨iff_of_false touched something, ?_⟩
    intro otherAddress otherValue otherCompleted
    rw [completed] at otherCompleted
    cases otherCompleted
    exact same

/-- A packet whose answer is no numeral is refused and leaves the session untouched. -/
theorem untouched_of_unreadable_answer :
    let start : Session := { registers := twoFieldRegisters, device := "1.4.0" }
    let session := start.after (readThenWrite.take 1)
    let packet : Packet :=
      { usb := { destination := "1.4.0", transferType := some "0x02" }
        response := some "0g:00:00:00"
        setup := some { requestType := some "0xc0", index := some "32840" } }
    (session.receive packet).result = .error (.invalidPayload "0000000g") ∧
      Untouched session packet (session.receive packet).state := by
  intro start session packet
  have refused : (session.receive packet).result = .error (.invalidPayload "0000000g") := rfl
  have nothing : session.completedRead? packet = none := rfl
  exact ⟨refused, (untouched_iff_of_refused refused).1.mpr nothing⟩

/--
An answer that completes a read, in a packet whose own request names no register: the packet is
refused and gives no transaction, but the read is counted and its value remembered.
-/
theorem read_lost_with_refused_request :
    let start : Session := { registers := twoFieldRegisters, device := "1.4.0" }
    let session := start.after (readThenWrite.take 1)
    let packet : Packet :=
      { usb := { destination := "1.4.0", transferType := some "0x02" }
        response := some "05:00:00:00"
        setup := some { requestType := some "0xc0" } }
    let next := (session.receive packet).state
    (session.receive packet).result = .error (.missingKey "usb.setup.wIndex") ∧
      session.tally.reads = 0 ∧ next.tally.reads = 1 ∧
        session.registers.seen = [] ∧ next.registers.seen = [(0x8048, 5)] ∧
          ¬ Untouched session packet next := by
  refine ⟨rfl, rfl, rfl, rfl, rfl, ?_⟩
  intro untouched
  exact absurd untouched.reads_eq (by decide)

end RegisterTrace.Session
