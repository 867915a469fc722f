import RegisterTrace.Proofs.History
import RegisterTrace.Proofs.Session.Pending
import RegisterTrace.Proofs.Session.Written

/-!
# Faulty packets

Whether a packet can be decoded depends on the packet, on the addresses at which registers are
defined, and on one earlier packet, the latest that set up a read.  `Packet.fault?` says what is
wrong with a packet after given earlier ones, the first thing that applies.  A capture is refused
exactly if it has a faulty packet, and then as the first of them says, after everything before that
packet was written.
-/

namespace RegisterTrace

/-! ## What is wrong with a packet -/

/-- What is wrong with a payload: its digits write no word. -/
def payloadFault? (payload : String) : Option DecodeError :=
  if (Payload.word? (Payload.digits payload)).isSome then
    none
  else
    some (.invalidPayload (Payload.digits payload))

/-- What is wrong with an address: no register is defined there. -/
def RegisterMap.addressFault? (registers : RegisterMap) (address : Word) : Option DecodeError :=
  if (registers.get? address).isSome then none else some (.unknownRegister address)

namespace Packet

/-- The latest of some packets that is relevant and sets up a read. -/
def latestSetup? (device : String) (packets : List Packet) : Option Packet :=
  packets.findRev? fun packet => packet.isRelevant device && packet.setsUpRead

theorem latestSetup?_concat
    (device : String)
    (packets : List Packet)
    (packet : Packet) :
    latestSetup? device (packets ++ [packet]) =
      if packet.isRelevant device && packet.setsUpRead then
        some packet
      else
        latestSetup? device packets :=
  findRev?_concat _ packets packet

/-- What is wrong with the answer in a packet, given the packet that set the read up. -/
def answerFault?
    (registers : RegisterMap)
    (setup? : Option Packet)
    (packet : Packet) :
    Option DecodeError :=
  packet.response.bind fun payload =>
    match setup? with
    | none => some .noPendingRead
    | some setup => (payloadFault? payload).or (setup.address?.bind registers.addressFault?)

/-- What is wrong with the request of a packet. -/
def requestFault? (registers : RegisterMap) (packet : Packet) : Option DecodeError :=
  if packet.isUntyped then
    some (.missingKey "usb.bmRequestType")
  else if packet.setsUpRead then
    packet.indexFault?
  else
    packet.written?.bind fun payload =>
      packet.indexFault?.or
        ((payloadFault? payload).or (packet.address?.bind registers.addressFault?))

/-- What is wrong with a packet that comes after others, if anything is. -/
def fault?
    (registers : RegisterMap)
    (device : String)
    (earlier : List Packet)
    (packet : Packet) :
    Option DecodeError :=
  if packet.involves device && packet.usb.transferType.isNone then
    some (.missingKey "usb.transfer_type")
  else if packet.isRelevant device then
    (packet.answerFault? registers (latestSetup? device earlier)).or
      (packet.requestFault? registers)
  else
    none

/-- Nothing is wrong with any of the packets, each after those before it. -/
def FaultFree (registers : RegisterMap) (device : String) : List Packet → Prop :=
  Throughout fun earlier packet => packet.fault? registers device earlier = none

end Packet

/-! ## Sessions and faults -/

namespace Session

/-- A session is where some packets lead that follow a device from given registers on. -/
structure Follows
    (registers : RegisterMap)
    (device : String)
    (packets : List Packet)
    (session : Session) : Prop where
  device_eq : session.device = device
  defined : ∀ address, (session.registers.get? address).isSome = (registers.get? address).isSome
  pending :
    match Packet.latestSetup? device packets with
    | none => session.pending = none
    | some setup =>
        ∃ address, setup.address? = some address ∧ session.pending = some address

theorem fixed_isSome_get?
    (address : Word) :
    Fixed fun session => (session.registers.get? address).isSome where
  counted _ := rfl
  matched _ := rfl
  awaited _ _ := rfl
  seen session _ seenAddress value :=
    session.registers.isSome_get?_see seenAddress address value

section Access

variable
    {registers : RegisterMap}
    {session : Session}
    (defined :
      ∀ address, (session.registers.get? address).isSome = (registers.get? address).isSome)
    {time payload : String}
    {direction : Direction}
    {address : Word}

include defined

/-- An access that happens has nothing wrong with its payload and its address. -/
theorem accessFault?_of_ok
    {next : Session}
    {transaction : Transaction}
    (accessed :
      session.access time direction address (Payload.digits payload) = .ok (next, transaction)) :
    payloadFault? payload = none ∧ registers.addressFault? address = none := by
  rcases access_eq_ok_iff.mp accessed with ⟨value, register, written, found, -, -⟩
  constructor
  · rw [payloadFault?, written]
    rfl
  · rw [RegisterMap.addressFault?, ← defined, found]
    rfl

/-- An access is refused for what is wrong with its payload or else with its address. -/
theorem accessFault?_of_error
    {error : DecodeError}
    (refused : session.accessStep time direction address payload = .error error) :
    (payloadFault? payload).or (registers.addressFault? address) = some error := by
  rw [accessStep_eq_error_iff, access_eq_error_iff] at refused
  rcases refused with ⟨unwritten, rfl⟩ | ⟨written, undefined, rfl⟩
  · rw [payloadFault?, unwritten]
    rfl
  · rw [payloadFault?, if_pos written, Option.none_or, RegisterMap.addressFault?, ← defined,
      undefined]
    rfl

end Access

/-! ## The fault of a packet is what becomes of it -/

section Packet

variable
    {registers : RegisterMap}
    {device : String}
    {earlier : List Packet}
    {session : Session}
    (follows : Follows registers device earlier session)
    {packet : Packet}

include follows

theorem Follows.answerFault?_of_error
    {error : DecodeError}
    (refused : session.perform? packet.time packet.answer? = .error error) :
    packet.answerFault? registers (Packet.latestSetup? device earlier) = some error := by
  rw [Packet.answer?] at refused
  rw [Packet.answerFault?]
  have pending := follows.pending
  cases response : packet.response with
  | none =>
      rw [response] at refused
      cases refused
  | some payload =>
      rw [response, Option.map_some, perform?, perform] at refused
      rw [Option.bind_some]
      cases latest : Packet.latestSetup? device earlier with
      | none =>
          simp only [latest] at pending
          rw [pending] at refused
          cases refused
          rfl
      | some setup =>
          simp only [latest] at pending
          rcases pending with ⟨address, named, awaited⟩
          rw [awaited] at refused
          simp only [named, Option.bind_some]
          exact accessFault?_of_error follows.defined refused

theorem Follows.answerFault?_of_answers
    {next : Session}
    {transactions : List Transaction}
    (answers : session.Answers packet next transactions) :
    packet.answerFault? registers (Packet.latestSetup? device earlier) = none := by
  rw [Packet.answerFault?]
  have pending := follows.pending
  cases answers with
  | silent noResponse => rw [noResponse, Option.bind_none]
  | complete response awaited accessed =>
      rw [response, Option.bind_some]
      cases latest : Packet.latestSetup? device earlier with
      | none =>
          simp only [latest, awaited] at pending
          cases pending
      | some setup =>
          simp only [latest, awaited, Option.some.injEq] at pending
          rcases pending with ⟨address, named, rfl⟩
          rcases accessFault?_of_ok follows.defined accessed with ⟨payloadSound, addressSound⟩
          simp only [payloadSound, named, Option.bind_some, addressSound, Option.none_or]

omit follows in
/-- A step at the address of a packet is refused for its index or as a step at that address. -/
theorem indexFault?_of_perform_stepAt
    {time : String}
    {step : Word → Step}
    {error : DecodeError}
    (refused : session.perform time (packet.stepAt step) = .error error) :
    packet.indexFault? = some error ∨
      ∃ address,
        packet.address? = some address ∧ session.perform time (step address) = .error error := by
  rcases packet.stepAt_cases step with ⟨fault, wrong, rejected⟩ | ⟨address, named, stepped⟩
  · rw [rejected] at refused
    cases refused
    exact .inl wrong
  · rw [stepped] at refused
    exact .inr ⟨address, named, refused⟩

theorem Follows.requestFault?_of_error
    {error : DecodeError}
    (refused : session.perform? packet.time packet.request? = .error error) :
    packet.requestFault? registers = some error := by
  rw [Packet.request?] at refused
  rw [Packet.requestFault?]
  split at refused
  · next untyped =>
      cases refused
      rw [if_pos untyped]
  · next typed =>
      rw [if_neg typed]
      split at refused
      · next setUp =>
          rw [if_pos setUp]
          rcases indexFault?_of_perform_stepAt refused with index | ⟨address, -, impossible⟩
          · exact index
          · cases impossible
      · next noRead =>
          rw [if_neg noRead]
          cases written : packet.written? with
          | none =>
              rw [written] at refused
              cases refused
          | some payload =>
              rw [written] at refused
              rw [Option.bind_some]
              rcases indexFault?_of_perform_stepAt refused with index | ⟨address, named, stepped⟩
              · rw [index, Option.some_or]
              · rw [Packet.indexFault?_of_address? named, named, Option.none_or, Option.bind_some]
                exact accessFault?_of_error follows.defined stepped

theorem Follows.requestFault?_of_requests
    {next : Session}
    {transactions : List Transaction}
    (requests : session.Requests packet next transactions) :
    packet.requestFault? registers = none := by
  rw [Packet.requestFault?]
  cases requests with
  | silent typed noRead noWrite => simp [typed, noRead, noWrite]
  | await setUp named =>
      rw [Packet.isUntyped_of_setsUpRead setUp, if_neg Bool.false_ne_true, if_pos setUp,
        Packet.indexFault?_of_address? named]
  | write noRead written named accessed =>
      rcases accessFault?_of_ok follows.defined accessed with ⟨payloadSound, addressSound⟩
      rw [Packet.isUntyped_of_written? written, if_neg Bool.false_ne_true, noRead,
        if_neg Bool.false_ne_true, written, Option.bind_some,
        Packet.indexFault?_of_address? named,
        payloadSound, named, Option.bind_some, addressSound]
      rfl

theorem Follows.answers
    {next : Session}
    {transactions : List Transaction}
    (answers : session.Answers packet next transactions) :
    Follows registers device earlier next where
  device_eq := answers.device_eq.trans follows.device_eq
  defined address := ((fixed_isSome_get? address).answers answers).trans (follows.defined address)
  pending := by
    rw [answers.pending_eq]
    exact follows.pending

theorem Follows.countRelevant :
    Follows registers device earlier session.countRelevant :=
  ⟨follows.device_eq, follows.defined, follows.pending⟩

/-- A packet is refused exactly for what is wrong with it after the packets before it. -/
theorem Follows.fault?_eq_some_iff
    {next : Session}
    {result : Except DecodeError (List Transaction)}
    (receives : session.Receives packet next result)
    {error : DecodeError} :
    packet.fault? registers device earlier = some error ↔ result = .error error := by
  rw [Packet.fault?]
  cases receives with
  | unclear unknown =>
      rw [follows.device_eq] at unknown
      rcases Packet.concerns_eq_error_iff.mp unknown with ⟨involved, missing, rfl⟩
      simp [involved, missing]
  | foreign irrelevant =>
      rw [follows.device_eq] at irrelevant
      rw [if_neg (Packet.not_unclear_of_concerns_eq_ok irrelevant),
        Packet.isRelevant_of_concerns_eq_ok_false irrelevant]
      simp
  | unanswered relevant refused =>
      rw [follows.device_eq] at relevant
      rw [if_neg (Packet.not_unclear_of_concerns_eq_ok relevant),
        if_pos (Packet.concerns_eq_ok_true_iff.mp relevant),
        follows.countRelevant.answerFault?_of_error refused]
      simp
  | unserved relevant answered refused =>
      rw [follows.device_eq] at relevant
      rw [if_neg (Packet.not_unclear_of_concerns_eq_ok relevant),
        if_pos (Packet.concerns_eq_ok_true_iff.mp relevant),
        follows.countRelevant.answerFault?_of_answers answered,
        (follows.countRelevant.answers answered).requestFault?_of_error refused]
      simp
  | decoded relevant answered served =>
      rw [follows.device_eq] at relevant
      rw [if_neg (Packet.not_unclear_of_concerns_eq_ok relevant),
        if_pos (Packet.concerns_eq_ok_true_iff.mp relevant),
        follows.countRelevant.answerFault?_of_answers answered,
        (follows.countRelevant.answers answered).requestFault?_of_requests served]
      simp

theorem Follows.fault?_eq_none
    {next : Session}
    {transactions : List Transaction}
    (receives : session.Receives packet next (.ok transactions)) :
    packet.fault? registers device earlier = none := by
  rw [Option.eq_none_iff_forall_ne_some]
  intro error fault
  cases (follows.fault?_eq_some_iff receives).mp fault

/-- A packet that is decoded leads a session one packet further. -/
theorem Follows.receive
    {next : Session}
    {transactions : List Transaction}
    (receives : session.Receives packet next (.ok transactions)) :
    Follows registers device (earlier ++ [packet]) next where
  device_eq := receives.device_eq.trans follows.device_eq
  defined address := ((fixed_isSome_get? address).receives receives).trans (follows.defined address)
  pending := by
    rw [Packet.latestSetup?_concat]
    cases setup : packet.isRelevant device && packet.setsUpRead with
    | true =>
        rw [Bool.and_eq_true, ← follows.device_eq] at setup
        exact receives.pending_of_setup setup.1 setup.2 rfl
    | false =>
        rw [← follows.device_eq] at setup
        rw [receives.pending_eq (by rw [setup]; rfl)]
        exact follows.pending

end Packet

/-! ## Whole captures -/

theorem follows_start
    (registers : RegisterMap)
    (device : String) :
    Follows registers device [] { registers, device } :=
  ⟨rfl, fun _ => rfl, rfl⟩

/-- Packets that are all decoded lead the session where they should, and are all sound. -/
theorem faultFree_of_record_accepted
    {registers : RegisterMap}
    {device : String}
    {packets : List Packet}
    (accepted : (record { registers, device } packets).result = .ok ()) :
    Follows registers device packets (record { registers, device } packets).state.session ∧
      Packet.FaultFree registers device packets := by
  apply record_induction
    (motive := fun done recording =>
      Follows registers device done recording.session ∧ Packet.FaultFree registers device done)
    ⟨follows_start registers device, throughout_nil _⟩ ?_ accepted
  rintro done recording packet next transactions ⟨follows, faultFree⟩ received
  exact ⟨follows.receive received, faultFree.concat (follows.fault?_eq_none received)⟩

/-- After packets that are all decoded, a packet is refused exactly as its fault says. -/
theorem receive_eq_error_iff_fault?
    {registers : RegisterMap}
    {device : String}
    {earlier : List Packet}
    (accepted : (record { registers, device } earlier).result = .ok ())
    {packet : Packet}
    {error : DecodeError} :
    ((record { registers, device } earlier).state.session.receive packet).result = .error error ↔
      packet.fault? registers device earlier = some error :=
  ((faultFree_of_record_accepted accepted).1.fault?_eq_some_iff (receives _ packet)).symm

/-- A recording gets through packets that are all sound. -/
theorem record_accepted_of_faultFree
    {registers : RegisterMap}
    {device : String}
    {packets : List Packet}
    (faultFree : Packet.FaultFree registers device packets) :
    (record { registers, device } packets).result = .ok () := by
  cases refused : (record { registers, device } packets).result with
  | ok value => rfl
  | error error =>
      rcases record_refused refused with ⟨before, packet, after, split, accepted, stopped, -⟩
      have fault := (receive_eq_error_iff_fault? accepted).mp stopped
      rw [faultFree before packet after split] at fault
      cases fault

/-- The first faulty packet ends a transcription with its fault, after what came before it. -/
theorem transcribe_of_fault?
    {registers : RegisterMap}
    {device : String}
    {before : List Packet}
    {packet : Packet}
    {error : DecodeError}
    (faultFree : Packet.FaultFree registers device before)
    (fault : packet.fault? registers device before = some error)
    (after : List Packet)
    (written : ByteArray) :
    let start : Session := { registers, device }
    let outcome := start.transcribe (before ++ packet :: after) { written }
    outcome.result = .error error ∧
      (start.transcribe before { written }).result = .ok () ∧
        outcome.state.sink.written = written ++ Transaction.bytes (start.transactions before) := by
  intro start outcome
  have limitless : ({ written } : Sink).room = none := rfl
  have accepted := record_accepted_of_faultFree faultFree
  have refused := (receive_eq_error_iff_fault? accepted).mpr fault
  rcases record_of_refused accepted refused after with ⟨result, sameTransactions⟩
  rcases shows_of_unlimited start (before ++ packet :: after) limitless with ⟨sameResult, shows⟩
  refine ⟨sameResult.trans result, ?_, ?_⟩
  · exact (shows_of_unlimited start before limitless).1.trans accepted
  · rw [← sameTransactions, transactions, shows.sink_eq]
    exact shows.fits.written_put

/-- A transcription into a sink without a limit that is refused has a faulty packet. -/
theorem exists_fault?_of_transcribe_refused
    {registers : RegisterMap}
    {device : String}
    {packets : List Packet}
    {written : ByteArray}
    {error : DecodeError}
    (refused : (transcribe { registers, device } packets { written }).result = .error error) :
    ∃ before packet after,
      packets = before ++ packet :: after ∧ (packet.fault? registers device before).isSome := by
  have limitless : ({ written } : Sink).room = none := rfl
  rw [(shows_of_unlimited { registers, device } packets limitless).1] at refused
  rcases record_refused refused with ⟨before, packet, after, split, accepted, stopped, -⟩
  refine ⟨before, packet, after, split, ?_⟩
  rw [(receive_eq_error_iff_fault? accepted).mp stopped, Option.isSome_some]

/--
Into a sink without a limit, a capture is refused exactly if one of its packets is faulty.  Then the
error is that of the first faulty packet, and what was written is the transactions of the packets
before it, which are all decoded.
-/
theorem transcribe_refused_iff_fault?
    (registers : RegisterMap)
    (device : String)
    (packets : List Packet)
    (written : ByteArray) :
    let start : Session := { registers, device }
    let outcome := start.transcribe packets { written }
    ((∃ error, outcome.result = .error error) ↔
        ∃ before packet after,
          packets = before ++ packet :: after ∧
            (packet.fault? registers device before).isSome) ∧
      ∀ before packet after error,
        packets = before ++ packet :: after →
          Packet.FaultFree registers device before →
            packet.fault? registers device before = some error →
              outcome.result = .error error ∧
                (start.transcribe before { written }).result = .ok () ∧
                  outcome.state.sink.written =
                    written ++ Transaction.bytes (start.transactions before) := by
  intro start outcome
  have first :
      ∀ before packet after error,
        packets = before ++ packet :: after →
          Packet.FaultFree registers device before →
            packet.fault? registers device before = some error →
              outcome.result = .error error ∧
                (start.transcribe before { written }).result = .ok () ∧
                  outcome.state.sink.written =
                    written ++ Transaction.bytes (start.transactions before) := by
    rintro before packet after error rfl faultFree fault
    exact transcribe_of_fault? faultFree fault after written
  refine ⟨⟨?_, ?_⟩, first⟩
  · rintro ⟨error, refused⟩
    exact exists_fault?_of_transcribe_refused refused
  · rintro ⟨before, packet, after, split, faulty⟩
    -- The faulty packet need not be the first one, and only the first one decides the error.
    have wrong : ¬ Packet.FaultFree registers device packets := by
      intro faultFree
      rw [faultFree before packet after split] at faulty
      cases faulty
    rcases exists_first_of_not_throughout wrong with
      ⟨sound, culprit, rest, culpritSplit, soundBefore, culpritFaulty⟩
    rcases Option.ne_none_iff_exists'.mp culpritFaulty with ⟨error, fault⟩
    exact ⟨error, (first sound culprit rest error culpritSplit soundBefore fault).1⟩

/-- A setup whose index is no decimal numeral ends a capture after what came before it. -/
theorem refused_after_readThenWrite :
    let start : Session := { registers := twoFieldRegisters, device := "1.4.0" }
    let faulty : Packet :=
      { usb := { destination := "1.4.0", transferType := some "0x02" }
        setup := some { requestType := some "0xc0", index := some "0x8048" } }
    let outcome := start.transcribe (readThenWrite ++ [faulty]) {}
    outcome.result = .error (.invalidIndex "0x8048") ∧
      outcome.state.sink.written =
        ByteArray.empty ++ Transaction.bytes (start.transactions readThenWrite) := by
  intro start faulty outcome
  have sound : Packet.FaultFree twoFieldRegisters "1.4.0" readThenWrite :=
    (faultFree_of_record_accepted rfl).2
  rcases
      (transcribe_refused_iff_fault? twoFieldRegisters "1.4.0" (readThenWrite ++ [faulty])
        ByteArray.empty).2 readThenWrite faulty [] (.invalidIndex "0x8048") rfl sound rfl with
    ⟨result, -, text⟩
  exact ⟨result, text⟩

end Session

end RegisterTrace
