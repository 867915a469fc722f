import RegisterTrace.Proofs.Run
import RegisterTrace.Proofs.Session.Receive

/-!
# Recordings

A recording decodes packets as `Session.transcribe` does and keeps the transactions themselves in
place of their text, so that nothing but a packet can end it.
-/

namespace RegisterTrace

namespace Session

/-- A session together with the transactions that its packets made so far. -/
structure Recording where
  session : Session
  transactions : List Transaction := []
  deriving DecidableEq

/-- Decodes one packet and keeps its transactions. -/
def Recording.receive
    (recording : Recording)
    (packet : Packet) :
    Outcome Recording DecodeError Unit :=
  let received := recording.session.receive packet
  match received.result with
  | .error error => .refuse { recording with session := received.state } error received.log
  | .ok transactions =>
      .accept ⟨received.state, recording.transactions ++ transactions⟩ () received.log

/-- Decodes packets in order and keeps their transactions, until one is refused. -/
def record
    (session : Session)
    (packets : List Packet) :
    Outcome Recording DecodeError Unit :=
  Outcome.run Recording.receive { session } packets

/-- The transactions of packets up to the first one that is refused. -/
def transactions
    (session : Session)
    (packets : List Packet) :
    List Transaction :=
  (session.record packets).state.transactions

theorem Recording.receive_of_error
    {recording : Recording}
    {packet : Packet}
    {error : DecodeError}
    (refused : (recording.session.receive packet).result = .error error) :
    recording.receive packet =
      ⟨{ recording with session := (recording.session.receive packet).state },
        (recording.session.receive packet).log, .error error⟩ := by
  rw [receive, refused]
  rfl

theorem Recording.receive_of_ok
    {recording : Recording}
    {packet : Packet}
    {transactions : List Transaction}
    (decoded : (recording.session.receive packet).result = .ok transactions) :
    recording.receive packet =
      ⟨⟨(recording.session.receive packet).state, recording.transactions ++ transactions⟩,
        (recording.session.receive packet).log, .ok ()⟩ := by
  rw [receive, decoded]
  rfl

theorem Recording.receive_accepted_iff
    {recording : Recording}
    {packet : Packet} :
    (recording.receive packet).result = .ok () ↔
      ∃ transactions, (recording.session.receive packet).result = .ok transactions := by
  cases decoded : (recording.session.receive packet).result with
  | error error => simp [receive_of_error decoded]
  | ok transactions => simp [receive_of_ok decoded]

theorem Recording.receive_refused_iff
    {recording : Recording}
    {packet : Packet}
    {error : DecodeError} :
    (recording.receive packet).result = .error error ↔
      (recording.session.receive packet).result = .error error := by
  cases decoded : (recording.session.receive packet).result with
  | error other => simp [receive_of_error decoded]
  | ok transactions => simp [receive_of_ok decoded]

/-- What every decoded packet keeps holds at the end of a recording that gets through. -/
theorem record_induction
    {motive : List Packet → Recording → Prop}
    {session : Session}
    (start : motive [] { session })
    (kept :
      ∀ done recording packet next transactions,
        motive done recording →
          recording.session.Receives packet next (.ok transactions) →
            motive (done ++ [packet]) ⟨next, recording.transactions ++ transactions⟩)
    {packets : List Packet}
    (accepted : (session.record packets).result = .ok ()) :
    motive packets (session.record packets).state := by
  apply Outcome.run_induction start ?_ accepted
  intro done recording packet holds taken
  rcases Recording.receive_accepted_iff.mp taken with ⟨transactions, decoded⟩
  have received := receives recording.session packet
  rw [decoded] at received
  rw [Recording.receive_of_ok decoded]
  exact kept done recording packet _ transactions holds received

/-- Recording packets only adds transactions. -/
theorem exists_transactions_append
    (recording : Recording)
    (packets : List Packet) :
    ∃ later,
      (Outcome.run Recording.receive recording packets).state.transactions =
        recording.transactions ++ later := by
  induction packets generalizing recording with
  | nil => exact ⟨[], (List.append_nil _).symm⟩
  | cons packet rest inductionHypothesis =>
      cases decoded : (recording.session.receive packet).result with
      | error error =>
          refine ⟨[], ?_⟩
          rw [Outcome.run_cons_of_refused (Recording.receive_refused_iff.mpr decoded),
            Recording.receive_of_error decoded, List.append_nil]
      | ok transactions =>
          have accepted := Recording.receive_accepted_iff.mpr ⟨transactions, decoded⟩
          rcases inductionHypothesis (recording.receive packet).state with ⟨later, added⟩
          refine ⟨transactions ++ later, ?_⟩
          rw [Outcome.run_cons_of_accepted accepted]
          simp only [added]
          rw [Recording.receive_of_ok decoded, List.append_assoc]

/-- A recording that is refused stops at a packet, with the transactions of those before it. -/
theorem record_refused
    {session : Session}
    {packets : List Packet}
    {error : DecodeError}
    (refused : (session.record packets).result = .error error) :
    ∃ before packet after,
      packets = before ++ packet :: after ∧
        (session.record before).result = .ok () ∧
          ((session.record before).state.session.receive packet).result = .error error ∧
            session.transactions packets = session.transactions before := by
  rcases Outcome.run_refused refused with ⟨before, packet, after, split, accepted, stopped, stop⟩
  have decoded := Recording.receive_refused_iff.mp stopped
  refine ⟨before, packet, after, split, accepted, decoded, ?_⟩
  rw [Recording.receive_of_error decoded] at stop
  rw [transactions, record, stop]
  rfl

/-- A packet that is refused after others that are decoded ends a recording there. -/
theorem record_of_refused
    {session : Session}
    {before : List Packet}
    {packet : Packet}
    {error : DecodeError}
    (accepted : (session.record before).result = .ok ())
    (refused : ((session.record before).state.session.receive packet).result = .error error)
    (after : List Packet) :
    (session.record (before ++ packet :: after)).result = .error error ∧
      session.transactions (before ++ packet :: after) = session.transactions before := by
  rcases Outcome.run_of_refused accepted (Recording.receive_refused_iff.mpr refused) after with
    ⟨result, state⟩
  refine ⟨result, ?_⟩
  rw [Recording.receive_of_error (by exact refused)] at state
  rw [transactions, record, state]
  rfl

/-! ## A small recording -/

/-- A map with one register of two fields. -/
def twoFieldRegisters : RegisterMap where
  registers := [{ name := "REG", address := 0x8048, fields := [⟨"low", 4⟩, ⟨"high", 4⟩] }]
  index := [("REG", 0x8048)]

/-- A read that is set up and answered, and a write to the same register. -/
def readThenWrite : List Packet :=
  let usb : Endpoints := { source := "host", destination := "1.4.0", transferType := some "0x02" }
  [{ usb, setup := some { requestType := some "0xc0", index := some "32840" } },
    { usb, response := some "01:00:00:00" },
    { usb
      setup :=
        some
          { requestType := some "0x40"
            index := some "32840"
            fragment := some "21:00:00:00" } }]

end Session

end RegisterTrace
