import RegisterTrace.Outcome
import RegisterTrace.RegisterMap
import RegisterTrace.Session.Request
import RegisterTrace.Sink
import RegisterTrace.Transaction

/-!
# Decoding sessions

A session follows the packets of one device.  It keeps the registers with their last values, the
address of the read that was set up last, and a tally.  A single access to a register either
happens as a whole or leaves the session as it was.  A packet asks for its steps in order, and what
the steps before a refused one did stays done; the transactions of a refused packet are not given.
-/

namespace RegisterTrace

/-- How many packets were seen, how many were relevant, and how many accesses they made. -/
structure Tally where
  packets : Nat := 0
  matched : Nat := 0
  reads : Nat := 0
  writes : Nat := 0
  deriving DecidableEq, Repr

/-- The tally with one more access. -/
def Tally.countAccess (tally : Tally) : Direction → Tally
  | .read => { tally with reads := tally.reads + 1 }
  | .write => { tally with writes := tally.writes + 1 }

/-- The state of decoding. -/
structure Session where
  registers : RegisterMap
  device : String
  pending : Option Word := none
  tally : Tally := {}
  deriving DecidableEq, Repr

namespace Session

/-- The session once one more packet was seen. -/
def countPacket (session : Session) : Session :=
  { session with tally := { session.tally with packets := session.tally.packets + 1 } }

/-- The session once one more packet was relevant. -/
def countMatched (session : Session) : Session :=
  { session with tally := { session.tally with matched := session.tally.matched + 1 } }

/-- The session once the read at an address is the pending one. -/
def await (session : Session) (address : Word) : Session :=
  { session with pending := some address }

/-- One access to a register: the session after it, and its transaction. -/
def access
    (session : Session)
    (time : String)
    (direction : Direction)
    (address : Word)
    (digits : String) :
    Except DecodeError (Session × Transaction) :=
  match Payload.word? digits with
  | none => .error (.invalidPayload digits)
  | some value =>
      match session.registers.get? address with
      | none => .error (.unknownRegister address)
      | some register =>
          .ok
            ({ session with
                registers := session.registers.see address value
                tally := session.tally.countAccess direction },
             { time, direction, address
               payload := digits
               register := register.name
               fields := register.decode value })

/-- One access as the only transaction of a step. -/
def accessStep
    (session : Session)
    (time : String)
    (direction : Direction)
    (address : Word)
    (payload : String) :
    Except DecodeError (Session × List Transaction) := do
  let (next, transaction) ← session.access time direction address (Payload.digits payload)
  return (next, [transaction])

/-- Takes one step of a packet: the session after it, and the transactions that it made. -/
def perform
    (session : Session)
    (time : String) :
    Step → Except DecodeError (Session × List Transaction)
  | .complete payload =>
      match session.pending with
      | none => .error .noPendingRead
      | some address => session.accessStep time .read address payload
  | .await address => .ok (session.await address, [])
  | .write address payload => session.accessStep time .write address payload
  | .reject error => .error error

/-- What is reported about a step that was taken. -/
def stepLog : Step → Log
  | .await address =>
      #[⟨.debug, .session, "read setup for " ++ Numeral.address address⟩]
  | _ => #[]

/-- Takes the steps of a packet in order until one is refused. -/
def performAll
    (session : Session)
    (time : String) :
    List Step → Outcome Session DecodeError (List Transaction)
  | [] => .accept session []
  | step :: rest =>
      match session.perform time step with
      | .error error => .refuse session error
      | .ok (next, transactions) =>
          let later := performAll next time rest
          { state := later.state
            log := stepLog step ++ later.log
            result := later.result.map (transactions ++ ·) }

/-- Decodes one packet. -/
def receive
    (session : Session)
    (packet : Packet) :
    Outcome Session DecodeError (List Transaction) :=
  let counted := session.countPacket
  match packet.concerns session.device with
  | .error error => .refuse counted error
  | .ok false =>
      .accept counted [] #[⟨.trace, .session, "skipping packet at " ++ packet.time⟩]
  | .ok true => counted.countMatched.performAll packet.time packet.steps

/-! ## Whole captures -/

/-- A session together with the sink that its transactions are written to. -/
structure Decoding where
  session : Session
  sink : Sink := {}

/-- Writes one transaction; one that does not fit fills the sink and ends the decoding. -/
def Decoding.write
    (decoding : Decoding)
    (transaction : Transaction) :
    Outcome Decoding DecodeError Unit :=
  match decoding.sink.take? transaction.text with
  | some sink => .accept { decoding with sink } ()
  | none => .refuse { decoding with sink := decoding.sink.fill transaction.text } .sinkFull

/-- Decodes one packet and writes its transactions. -/
def Decoding.receive
    (decoding : Decoding)
    (packet : Packet) :
    Outcome Decoding DecodeError Unit :=
  let received := decoding.session.receive packet
  let after := { decoding with session := received.state }
  match received.result with
  | .error error => .refuse after error received.log
  | .ok transactions =>
      { Outcome.run Decoding.write after transactions with log := received.log }

/-- Decodes packets in order and writes their transactions, until one is refused. -/
def transcribe
    (session : Session)
    (packets : List Packet)
    (sink : Sink) :
    Outcome Decoding DecodeError Unit :=
  Outcome.run Decoding.receive { session, sink } packets

end Session

end RegisterTrace
