import RegisterTrace.Proofs.Session.Written

/-!
# Foreign traffic

A capture holds the traffic of other devices and transfers of other kinds between the packets that
a session follows.  Such a packet is counted and has no other effect, and the count of packets is
read by nothing.  So a capture is decoded as if they had been taken out before, wherever they stand
and whatever they carry.
-/

namespace RegisterTrace

/-- Whether a packet is known not to be a control transfer of a device. -/
def Packet.isForeign (packet : Packet) (device : String) : Bool :=
  match packet.concerns device with
  | .ok relevant => !relevant
  | .error _ => false

theorem Packet.isForeign_iff
    {packet : Packet}
    {device : String} :
    packet.isForeign device ↔ packet.concerns device = .ok false := by
  rw [isForeign]
  cases packet.concerns device with
  | error error => simp
  | ok relevant => simp

namespace Session

/-! ## The count of packets -/

/-- The session once it has seen some more packets, with nothing else changed. -/
def ahead (session : Session) (count : Nat) : Session :=
  { session with tally := { session.tally with packets := session.tally.packets + count } }

theorem ahead_ahead
    (session : Session)
    (first second : Nat) :
    (session.ahead first).ahead second = session.ahead (first + second) := by
  simp only [ahead, Nat.add_assoc]

@[simp]
theorem device_ahead
    (session : Session)
    (count : Nat) :
    (session.ahead count).device = session.device := rfl

theorem countPacket_ahead
    (session : Session)
    (count : Nat) :
    (session.ahead count).countPacket = session.countPacket.ahead count := by
  simp only [countPacket, ahead, Nat.add_right_comm]

theorem countMatched_ahead
    (session : Session)
    (count : Nat) :
    (session.ahead count).countMatched = session.countMatched.ahead count := rfl

theorem see_ahead
    (session : Session)
    (count : Nat)
    (direction : Direction)
    (address value : Word) :
    (session.ahead count).see direction address value =
      (session.see direction address value).ahead count := by
  cases direction <;> rfl

section

variable
    (session : Session)
    (count : Nat)
    (time : String)

theorem access_ahead
    (direction : Direction)
    (address : Word)
    (digits : String) :
    (session.ahead count).access time direction address digits =
      (session.access time direction address digits).map fun made =>
        (made.1.ahead count, made.2) := by
  cases accessed : session.access time direction address digits with
  | error error =>
      rw [access_eq_error_iff] at accessed
      exact access_eq_error_iff.mpr accessed
  | ok made =>
      rcases made with ⟨next, transaction⟩
      rcases access_eq_ok_iff.mp accessed with ⟨value, register, written, found, rfl, made⟩
      apply access_eq_ok_iff.mpr
      refine ⟨value, register, written, found, ?_, made⟩
      rw [see_ahead]

theorem accessStep_ahead
    (direction : Direction)
    (address : Word)
    (payload : String) :
    (session.ahead count).accessStep time direction address payload =
      (session.accessStep time direction address payload).map fun made =>
        (made.1.ahead count, made.2) := by
  rw [accessStep, accessStep, access_ahead]
  cases session.access time direction address (Payload.digits payload) <;> rfl

/-- A step does the same whatever the count of packets is. -/
theorem perform_ahead
    (step : Step) :
    (session.ahead count).perform time step =
      (session.perform time step).map fun made => (made.1.ahead count, made.2) := by
  cases step with
  | complete payload =>
      have samePending : (session.ahead count).pending = session.pending := rfl
      rw [perform, perform, samePending]
      cases session.pending with
      | none => rfl
      | some address => exact accessStep_ahead session count time .read address payload
  | await address => rfl
  | write address payload => exact accessStep_ahead session count time .write address payload
  | reject error => rfl

theorem performAll_ahead
    (steps : List Step) :
    (session.ahead count).performAll time steps =
      (session.performAll time steps).mapState (ahead · count) := by
  induction steps generalizing session with
  | nil => rfl
  | cons step rest inductionHypothesis =>
      rw [performAll, performAll, perform_ahead]
      cases session.perform time step with
      | error error => rfl
      | ok made =>
          rcases made with ⟨next, transactions⟩
          simp only [Except.map, inductionHypothesis]
          rfl

end

theorem receive_ahead
    (session : Session)
    (count : Nat)
    (packet : Packet) :
    (session.ahead count).receive packet =
      (session.receive packet).mapState (ahead · count) := by
  rw [receive, receive, device_ahead]
  cases packet.concerns session.device with
  | error error =>
      simp only [countPacket_ahead]
      rfl
  | ok relevant =>
      cases relevant with
      | false =>
          simp only [countPacket_ahead]
          rfl
      | true =>
          simp only [countPacket_ahead, countMatched_ahead]
          exact performAll_ahead _ count packet.time packet.steps

/-! ## Transcriptions -/

/-- The decoding once it has seen some more packets, with nothing else changed. -/
def Decoding.ahead (decoding : Decoding) (count : Nat) : Decoding :=
  { decoding with session := decoding.session.ahead count }

theorem Decoding.ahead_ahead
    (decoding : Decoding)
    (first second : Nat) :
    (decoding.ahead first).ahead second = decoding.ahead (first + second) := by
  simp only [ahead, Session.ahead_ahead]

theorem Decoding.write_ahead
    (count : Nat)
    (decoding : Decoding)
    (transaction : Transaction) :
    (decoding.ahead count).write transaction =
      (decoding.write transaction).mapState (ahead · count) := by
  rw [write, write, ahead]
  cases decoding.sink.take? transaction.text <;> rfl

/-- A packet is decoded and written the same whatever the count of packets is. -/
theorem Decoding.receive_ahead
    (count : Nat)
    (decoding : Decoding)
    (packet : Packet) :
    (decoding.ahead count).receive packet =
      (decoding.receive packet).mapState (ahead · count) := by
  rw [receive, receive]
  have received := Session.receive_ahead decoding.session count packet
  have sameSession : (decoding.ahead count).session = decoding.session.ahead count := rfl
  simp only [sameSession, received, Outcome.mapState]
  cases (decoding.session.receive packet).result with
  | error error => rfl
  | ok transactions =>
      let after : Decoding := { decoding with session := (decoding.session.receive packet).state }
      have written :
          Outcome.run write (after.ahead count) transactions =
            (Outcome.run write after transactions).mapState (ahead · count) :=
        Outcome.run_mapState (write_ahead count) after transactions
      exact
        congrArg
          (fun outcome : Outcome Decoding DecodeError Unit =>
            { outcome with log := (decoding.session.receive packet).log })
          written

/-- A foreign packet is counted, and that is all. -/
theorem Decoding.receive_of_isForeign
    {decoding : Decoding}
    {packet : Packet}
    (foreign : packet.isForeign decoding.session.device) :
    (decoding.receive packet).result = .ok () ∧
      (decoding.receive packet).state = decoding.ahead 1 := by
  have concern := Packet.isForeign_iff.mp foreign
  rw [receive, Session.receive]
  simp only [concern]
  exact ⟨rfl, rfl⟩

/-- Leaving the foreign packets out of a capture leaves everything but the count as it was. -/
theorem run_receive_own
    {device : String}
    {decoding : Decoding}
    (follows : decoding.session.device = device)
    (packets : List Packet) :
    let own := packets.filter fun packet => !packet.isForeign device
    let whole := Outcome.run Decoding.receive decoding packets
    let rest := Outcome.run Decoding.receive decoding own
    whole.result = rest.result ∧ ∃ count, whole.state = rest.state.ahead count := by
  induction packets generalizing decoding with
  | nil => exact ⟨rfl, 0, rfl⟩
  | cons packet later inductionHypothesis =>
      -- Both runs take the packet, or one run alone does and its count is carried through the rest.
      simp only [List.filter_cons]
      cases foreign : packet.isForeign device with
      | true =>
          simp only [Bool.not_true, Bool.false_eq_true, if_false]
          rw [← follows] at foreign
          rcases Decoding.receive_of_isForeign foreign with ⟨accepted, counted⟩
          rcases inductionHypothesis follows with ⟨sameResult, count, sameState⟩
          rw [Outcome.run_cons_of_accepted accepted, counted,
            Outcome.run_mapState (Decoding.receive_ahead 1)]
          refine ⟨sameResult, count + 1, ?_⟩
          simp only [Outcome.mapState, sameState, Decoding.ahead_ahead]
      | false =>
          simp only [Bool.not_false, if_true]
          cases result : (decoding.receive packet).result with
          | error error =>
              rw [Outcome.run_cons_of_refused result, Outcome.run_cons_of_refused result]
              exact ⟨rfl, 0, rfl⟩
          | ok value =>
              have stillFollows : (decoding.receive packet).state.session.device = device := by
                rw [Decoding.session_receive, (receives _ packet).device_eq, follows]
              rw [Outcome.run_cons_of_accepted result, Outcome.run_cons_of_accepted result]
              exact inductionHypothesis stillFollows

/--
A capture is transcribed as if it held no foreign packets: the result and what is written are the
same, and so is the session at the end but for the count of packets that it has seen.
-/
theorem transcribe_own
    (session : Session)
    (packets : List Packet)
    (sink : Sink) :
    let own := packets.filter fun packet => !packet.isForeign session.device
    let whole := session.transcribe packets sink
    let rest := session.transcribe own sink
    whole.result = rest.result ∧
      whole.state.sink = rest.state.sink ∧
        ∃ count, whole.state.session = rest.state.session.ahead count := by
  intro own whole rest
  let start : Decoding := { session, sink }
  have follows : start.session.device = session.device := rfl
  rcases run_receive_own follows packets with ⟨sameResult, count, sameState⟩
  have state : whole.state = rest.state.ahead count := sameState
  refine ⟨sameResult, ?_, count, ?_⟩
  · rw [state]
    rfl
  · rw [state]
    rfl

end Session

end RegisterTrace
