import RegisterTrace.Proofs.History
import RegisterTrace.Proofs.Session.Receive

/-!
# The pending read

A session carries one thing from packet to packet besides its registers and its tally: the address
of the read that was set up last.  Only a relevant packet that sets up a read and is decoded changes
it, and that packet changes it last, after its own answer was taken.  So along every sequence of
packets, refused ones among them, an answer belongs to the latest read that was set up before.
-/

namespace RegisterTrace.Session

/-! ## One packet -/

theorem Answers.pending_eq
    {session next : Session}
    {packet : Packet}
    {transactions : List Transaction}
    (answers : session.Answers packet next transactions) :
    next.pending = session.pending := by
  cases answers with
  | silent => rfl
  | complete response pending accessed => exact pending_of_access accessed

theorem Answers.pending_eq_address
    {session next : Session}
    {packet : Packet}
    {transactions : List Transaction}
    (answers : session.Answers packet next transactions)
    {transaction : Transaction}
    (member : transaction ∈ transactions) :
    session.pending = some transaction.address := by
  cases answers with
  | silent => cases member
  | complete response pending accessed =>
      rw [List.mem_singleton] at member
      rw [member, address_of_access accessed]
      exact pending

/-- A request that sets up a read names the address that is pending then. -/
theorem Requests.pending_of_setsUpRead
    {session next : Session}
    {packet : Packet}
    {transactions : List Transaction}
    (requests : session.Requests packet next transactions)
    (setUp : packet.setsUpRead) :
    ∃ address, packet.address? = some address ∧ next.pending = some address := by
  cases requests with
  | silent _ noRead => simp [setUp] at noRead
  | await _ named => exact ⟨_, named, rfl⟩
  | write noRead => simp [setUp] at noRead

theorem Requests.pending_of_not_setsUpRead
    {session next : Session}
    {packet : Packet}
    {transactions : List Transaction}
    (requests : session.Requests packet next transactions)
    (noRead : packet.setsUpRead = false) :
    next.pending = session.pending := by
  cases requests with
  | silent => rfl
  | await setUp => simp [noRead] at setUp
  | write _ written named accessed => exact pending_of_access accessed

theorem Requests.direction_eq_write
    {session next : Session}
    {packet : Packet}
    {transactions : List Transaction}
    (requests : session.Requests packet next transactions)
    {transaction : Transaction}
    (member : transaction ∈ transactions) :
    transaction.direction = .write := by
  cases requests with
  | silent => cases member
  | await => cases member
  | write noRead written named accessed =>
      rw [List.mem_singleton] at member
      rw [member]
      exact direction_of_access accessed

/-- A relevant packet that sets up a read and is decoded makes its address the pending one. -/
theorem Receives.pending_of_setup
    {session next : Session}
    {packet : Packet}
    {result : Except DecodeError (List Transaction)}
    (receives : session.Receives packet next result)
    (relevant : packet.isRelevant session.device)
    (setUp : packet.setsUpRead)
    (decoded : result.isOk) :
    ∃ address, packet.address? = some address ∧ next.pending = some address := by
  cases receives with
  | unclear => cases decoded
  | foreign irrelevant =>
      rw [Packet.isRelevant_of_concerns_eq_ok_false irrelevant] at relevant
      cases relevant
  | unanswered => cases decoded
  | unserved => cases decoded
  | decoded _ answered served => exact served.pending_of_setsUpRead setUp

/-- Every other packet leaves the pending read as it is. -/
theorem Receives.pending_eq
    {session next : Session}
    {packet : Packet}
    {result : Except DecodeError (List Transaction)}
    (receives : session.Receives packet next result)
    (noSetup :
      (packet.isRelevant session.device && packet.setsUpRead && result.isOk) = false) :
    next.pending = session.pending := by
  cases receives with
  | unclear => rfl
  | foreign => rfl
  | unanswered => rfl
  | unserved _ answered => exact answered.pending_eq
  | decoded relevant answered served =>
      have noRead : packet.setsUpRead = false := by
        simpa [Packet.concerns_eq_ok_true_iff.mp relevant, Except.isOk, Except.toBool]
          using noSetup
      rw [served.pending_of_not_setsUpRead noRead]
      exact answered.pending_eq

/-- A read is attributed to the read that was pending when its packet came. -/
theorem Receives.pending_eq_address
    {session next : Session}
    {packet : Packet}
    {transactions : List Transaction}
    (receives : session.Receives packet next (.ok transactions))
    {transaction : Transaction}
    (member : transaction ∈ transactions)
    (read : transaction.direction = .read) :
    session.pending = some transaction.address := by
  cases receives with
  | foreign => cases member
  | decoded relevant answered served =>
      rcases List.mem_append.mp member with answer | request
      · exact answered.pending_eq_address answer
      · rw [served.direction_eq_write request] at read
        cases read

/-! ## Sequences of packets -/

/-- A packet together with the session that receives it. -/
structure Call where
  before : Session
  packet : Packet

namespace Call

/-- What comes of the packet of a call. -/
def result (call : Call) : Except DecodeError (List Transaction) :=
  (call.before.receive call.packet).result

/-- The session after a call. -/
def after (call : Call) : Session :=
  (call.before.receive call.packet).state

/-- Whether a call decodes a relevant packet that sets up a read. -/
def setsUpRead (device : String) (call : Call) : Bool :=
  call.packet.isRelevant device && call.packet.setsUpRead && call.result.isOk

end Call

/-- The session after packets, whatever comes of each. -/
def after (session : Session) (packets : List Packet) : Session :=
  packets.foldl (fun session packet => (session.receive packet).state) session

/-- The calls that give packets to a session one after another, whatever comes of each. -/
def calls : Session → List Packet → List Call
  | _, [] => []
  | session, packet :: rest =>
      ⟨session, packet⟩ :: calls (session.receive packet).state rest

theorem after_concat
    (session : Session)
    (packets : List Packet)
    (packet : Packet) :
    session.after (packets ++ [packet]) = ((session.after packets).receive packet).state := by
  simp only [after, List.foldl_append, List.foldl_cons, List.foldl_nil]

theorem calls_concat
    (session : Session)
    (packets : List Packet)
    (packet : Packet) :
    session.calls (packets ++ [packet]) =
      session.calls packets ++ [⟨session.after packets, packet⟩] := by
  induction packets generalizing session with
  | nil => rfl
  | cons first rest inductionHypothesis =>
      simp only [List.cons_append, calls, inductionHypothesis, after, List.foldl_cons]

@[simp]
theorem device_after
    (session : Session)
    (packets : List Packet) :
    (session.after packets).device = session.device := by
  induction packets using List.reverseRecOn with
  | nil => rfl
  | append_singleton packets packet inductionHypothesis =>
      rw [after_concat, (receives _ packet).device_eq, inductionHypothesis]

theorem device_of_mem_calls
    {session : Session}
    {packets : List Packet}
    {call : Call}
    (member : call ∈ session.calls packets) :
    call.before.device = session.device := by
  induction packets generalizing session with
  | nil => cases member
  | cons packet rest inductionHypothesis =>
      rcases List.mem_cons.mp member with first | later
      · rw [first]
      · rw [inductionHypothesis later, (receives session packet).device_eq]

/-- The pending read is the one that the latest decoded setup named. -/
theorem pending_after
    (registers : RegisterMap)
    (device : String)
    (packets : List Packet) :
    let start : Session := { registers, device }
    match (start.calls packets).findRev? (Call.setsUpRead device) with
    | none => (start.after packets).pending = none
    | some call =>
        ∃ text address,
          call.packet.index? = some text ∧
            decimalWord? text = some address ∧
              (start.after packets).pending = some address := by
  intro start
  induction packets using List.reverseRecOn with
  | nil => rfl
  | append_singleton packets packet inductionHypothesis =>
      have received := receives (start.after packets) packet
      have sameDevice : (start.after packets).device = device :=
        device_after start packets
      rw [calls_concat, findRev?_concat, after_concat]
      -- The last call decides if it is a setup; otherwise the calls before it still do.
      cases setup : Call.setsUpRead device ⟨start.after packets, packet⟩ with
      | true =>
          simp only [Call.setsUpRead, Bool.and_eq_true] at setup
          rcases setup with ⟨⟨relevant, setUp⟩, decoded⟩
          rw [← sameDevice] at relevant
          rcases received.pending_of_setup relevant setUp decoded with ⟨address, named, pending⟩
          rcases Option.bind_eq_some_iff.mp named with ⟨text, shown, read⟩
          exact ⟨text, address, shown, read, pending⟩
      | false =>
          rw [received.pending_eq (by rw [sameDevice]; exact setup)]
          exact inductionHypothesis

/-- A read that a call gives is at the address that was pending before the call. -/
theorem Call.pending_eq_address
    {call : Call}
    {transactions : List Transaction}
    (decoded : call.result = .ok transactions)
    {transaction : Transaction}
    (made : transaction ∈ transactions)
    (read : transaction.direction = .read) :
    call.before.pending = some transaction.address := by
  have received := receives call.before call.packet
  rw [← Call.result, decoded] at received
  exact received.pending_eq_address made read

/-- A call that decodes no setup leaves the pending read as it is. -/
theorem Call.pending_eq
    {call : Call}
    (noSetup : call.setsUpRead call.before.device = false) :
    call.after.pending = call.before.pending :=
  (receives call.before call.packet).pending_eq noSetup

/--
The pending read of a session that follows a device from the start is the one that the latest
decoded setup named, and there is none before the first.  Every read that a call gives is at the
address that was pending before the call, and a call that decodes no setup leaves the pending read
as it is.
-/
theorem pending_eq_latest_setup
    (registers : RegisterMap)
    (device : String)
    (packets : List Packet) :
    let start : Session := { registers, device }
    (match (start.calls packets).findRev? (Call.setsUpRead device) with
      | none => (start.after packets).pending = none
      | some call =>
          ∃ text address,
            call.packet.index? = some text ∧
              decimalWord? text = some address ∧
                (start.after packets).pending = some address) ∧
      ∀ call ∈ start.calls packets,
        (∀ transactions,
          call.result = .ok transactions →
            ∀ transaction ∈ transactions,
              transaction.direction = .read →
                call.before.pending = some transaction.address) ∧
          (call.setsUpRead device = false → call.after.pending = call.before.pending) := by
  intro start
  refine ⟨pending_after registers device packets, ?_⟩
  intro call member
  constructor
  · intro transactions decoded transaction made read
    exact call.pending_eq_address decoded made read
  · intro noSetup
    have sameDevice : call.before.device = device := device_of_mem_calls member
    rw [← sameDevice] at noSetup
    exact call.pending_eq noSetup

end RegisterTrace.Session
