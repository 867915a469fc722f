import RegisterTrace.Proofs.Session.Receive
import RegisterTrace.Proofs.Session.Written

/-!
# Complete transcripts

A capture that is decoded to its end loses nothing, repeats nothing and keeps the order: its
transactions are, packet by packet, the read that each relevant packet answers and then the write
that it carries.  `Packet.outlines` says this of a packet by the keys that it shows, and the tally
counts the same packets.
-/

namespace RegisterTrace

/--
What a transaction owes to its packet alone: the time, the direction and the digits, and for a write
the address.
-/
structure Outline where
  time : String
  direction : Direction
  digits : String
  written : Option Word
  deriving DecidableEq, Repr

/-- The outline of a transaction; a read takes its address from an earlier packet. -/
def Transaction.outline (transaction : Transaction) : Outline where
  time := transaction.time
  direction := transaction.direction
  digits := transaction.payload
  written :=
    match transaction.direction with
    | .read => none
    | .write => some transaction.address

namespace Packet

/-- The outline of the read that a packet answers. -/
def answerOutlines (packet : Packet) : List Outline :=
  packet.response.toList.map fun payload =>
    ⟨packet.time, .read, Payload.digits payload, none⟩

/-- The outline of the write that a packet carries. -/
def requestOutlines (packet : Packet) : List Outline :=
  packet.written?.toList.map fun payload =>
    ⟨packet.time, .write, Payload.digits payload, packet.address?⟩

/-- The outlines of what a packet carries, the answer to a read before a write. -/
def outlines (packet : Packet) : List Outline :=
  packet.answerOutlines ++ packet.requestOutlines

end Packet

namespace Session

theorem Answers.outlines_eq
    {session next : Session}
    {packet : Packet}
    {transactions : List Transaction}
    (answers : session.Answers packet next transactions) :
    transactions.map Transaction.outline = packet.answerOutlines := by
  rw [Packet.answerOutlines]
  cases answers with
  | silent noResponse =>
      rw [noResponse]
      rfl
  | complete response pending accessed =>
      rcases access_eq_ok_iff.mp accessed with ⟨value, register, -, -, -, rfl⟩
      rw [response]
      rfl

theorem Answers.tally_eq
    {session next : Session}
    {packet : Packet}
    {transactions : List Transaction}
    (answers : session.Answers packet next transactions) :
    next.tally =
      { session.tally with
        reads := session.tally.reads + if packet.response.isSome then 1 else 0 } := by
  cases answers with
  | silent noResponse =>
      rw [noResponse]
      rfl
  | complete response pending accessed =>
      rw [tally_of_access accessed, response]
      rfl

theorem Requests.outlines_eq
    {session next : Session}
    {packet : Packet}
    {transactions : List Transaction}
    (requests : session.Requests packet next transactions) :
    transactions.map Transaction.outline = packet.requestOutlines := by
  rw [Packet.requestOutlines]
  cases requests with
  | silent typed noRead noWrite =>
      rw [noWrite]
      rfl
  | await setUp named =>
      rw [Packet.written?_of_setsUpRead setUp]
      rfl
  | write noRead written named accessed =>
      rcases access_eq_ok_iff.mp accessed with ⟨value, register, -, -, -, rfl⟩
      rw [written, named]
      rfl

theorem Requests.tally_eq
    {session next : Session}
    {packet : Packet}
    {transactions : List Transaction}
    (requests : session.Requests packet next transactions) :
    next.tally =
      { session.tally with
        writes := session.tally.writes + if packet.written?.isSome then 1 else 0 } := by
  cases requests with
  | silent typed noRead noWrite =>
      rw [noWrite]
      rfl
  | await setUp named =>
      rw [Packet.written?_of_setsUpRead setUp]
      rfl
  | write noRead written named accessed =>
      rw [tally_of_access accessed, written]
      rfl

/-- A recording accounts for packets that were all decoded. -/
structure Accounts (device : String) (packets : List Packet) (recording : Recording) : Prop where
  device_eq : recording.session.device = device
  outlines_eq :
    recording.transactions.map Transaction.outline =
      (packets.filter (·.isRelevant device)).flatMap Packet.outlines
  packets_eq : recording.session.tally.packets = packets.length
  matched_eq : recording.session.tally.matched = (packets.filter (·.isRelevant device)).length
  reads_eq :
    recording.session.tally.reads =
      (packets.filter (·.isRelevant device)).countP (·.response.isSome)
  writes_eq :
    recording.session.tally.writes =
      (packets.filter (·.isRelevant device)).countP (·.written?.isSome)

/-- A packet that is decoded is accounted for like those before it. -/
theorem Accounts.receive
    {device : String}
    {packets : List Packet}
    {recording : Recording}
    (accounts : Accounts device packets recording)
    {packet : Packet}
    {next : Session}
    {transactions : List Transaction}
    (receives : recording.session.Receives packet next (.ok transactions)) :
    Accounts device (packets ++ [packet]) ⟨next, recording.transactions ++ transactions⟩ := by
  cases receives with
  | foreign irrelevant =>
      rw [accounts.device_eq] at irrelevant
      have skipped :
          (packets ++ [packet]).filter (·.isRelevant device) =
            packets.filter (·.isRelevant device) := by
        simp [Packet.isRelevant_of_concerns_eq_ok_false irrelevant]
      constructor
      · exact accounts.device_eq
      · rw [skipped, List.append_nil]
        exact accounts.outlines_eq
      · rw [List.length_append, ← accounts.packets_eq]
        rfl
      · rw [skipped]
        exact accounts.matched_eq
      · rw [skipped]
        exact accounts.reads_eq
      · rw [skipped]
        exact accounts.writes_eq
  | decoded relevant answered served =>
      have kept :
          (packets ++ [packet]).filter (·.isRelevant device) =
            packets.filter (·.isRelevant device) ++ [packet] := by
        rw [accounts.device_eq] at relevant
        simp [Packet.concerns_eq_ok_true_iff.mp relevant]
      -- Counted are the packet itself, then its answer, and last its request.
      have tally := served.tally_eq.trans (by rw [answered.tally_eq])
      constructor
      · rw [served.device_eq, answered.device_eq]
        exact accounts.device_eq
      · rw [kept, List.map_append, List.map_append, answered.outlines_eq, served.outlines_eq,
          accounts.outlines_eq, List.flatMap_append, List.flatMap_singleton, Packet.outlines]
      · rw [List.length_append, ← accounts.packets_eq, tally]
        rfl
      · rw [kept, List.length_append, ← accounts.matched_eq, tally]
        rfl
      · rw [kept, List.countP_append, ← accounts.reads_eq, List.countP_singleton, tally]
        rfl
      · rw [kept, List.countP_append, ← accounts.writes_eq, List.countP_singleton, tally]
        rfl

/-- A recording that gets through packets accounts for them. -/
theorem accounts_of_record_accepted
    {registers : RegisterMap}
    {device : String}
    {packets : List Packet}
    (accepted : (record { registers, device } packets).result = .ok ()) :
    Accounts device packets (record { registers, device } packets).state := by
  apply record_induction (motive := Accounts device) ⟨rfl, rfl, rfl, rfl, rfl, rfl⟩ ?_ accepted
  intro done recording packet next transactions accounts received
  exact accounts.receive received

/--
A capture that is decoded to its end, into whatever sink, is written as the texts of transactions
whose outlines are those of the relevant packets in order, and the tally counts these packets.
-/
theorem transcribe_accepted_accounts
    (registers : RegisterMap)
    (device : String)
    (packets : List Packet)
    (sink : Sink)
    (accepted : (transcribe { registers, device } packets sink).result = .ok ()) :
    let start : Session := { registers, device }
    let final := (start.transcribe packets sink).state
    let relevant := packets.filter (·.isRelevant device)
    final.sink.written = sink.written ++ Transaction.bytes (start.transactions packets) ∧
      (start.transactions packets).map Transaction.outline = relevant.flatMap Packet.outlines ∧
        final.session.tally =
          { packets := packets.length
            matched := relevant.length
            reads := relevant.countP (·.response.isSome)
            writes := relevant.countP (·.written?.isSome) } := by
  intro start final relevant
  rcases shows_of_transcribe_accepted accepted with ⟨recorded, shows⟩
  have accounts := accounts_of_record_accepted recorded
  refine ⟨?_, accounts.outlines_eq, ?_⟩
  · rw [shows.sink_eq]
    exact shows.fits.written_put
  · rw [shows.session_eq, ← accounts.packets_eq, ← accounts.matched_eq, ← accounts.reads_eq,
      ← accounts.writes_eq]

/-- A read and a write that are decoded are both in the transcript, and counted. -/
theorem accounts_readThenWrite :
    let start : Session := { registers := twoFieldRegisters, device := "1.4.0" }
    (start.transcribe readThenWrite {}).result = .ok () ∧
      (start.transactions readThenWrite).map Transaction.outline =
          [⟨"", .read, "00000001", none⟩, ⟨"", .write, "00000021", some 0x8048⟩] ∧
        (start.transcribe readThenWrite {}).state.session.tally =
          { packets := 3, matched := 3, reads := 1, writes := 1 } := by
  intro start
  have accepted : (start.transcribe readThenWrite {}).result = .ok () := rfl
  rcases transcribe_accepted_accounts twoFieldRegisters "1.4.0" readThenWrite {} accepted with
    ⟨-, outlines, tally⟩
  exact ⟨accepted, outlines.trans rfl, tally.trans rfl⟩

end Session

end RegisterTrace
