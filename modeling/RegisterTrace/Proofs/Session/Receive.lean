import RegisterTrace.Proofs.Session.Access
import RegisterTrace.Proofs.Session.Request

/-!
# One packet

`Session.Receives` says what becomes of a session that receives a packet, in five cases: the packet
is unclear, it is foreign, its answer is refused, its own request is refused after the answer was
taken, or both are taken.  `Session.Answers` and `Session.Requests` say what taking the two halves
does.  A packet is analysed here once, and every property of packets is read off these cases.
-/

namespace RegisterTrace.Session

/-- Takes a step if there is one. -/
def perform?
    (session : Session)
    (time : String) :
    Option Step → Except DecodeError (Session × List Transaction)
  | none => .ok (session, [])
  | some step => session.perform time step

/-- The session once it has counted a relevant packet. -/
def countRelevant (session : Session) : Session :=
  session.countPacket.countMatched

/-! ## The two halves of a packet -/

/-- What taking the answer in a packet does. -/
inductive Answers (session : Session) (packet : Packet) : Session → List Transaction → Prop where
  | silent
      (noResponse : packet.response = none) :
      Answers session packet session []
  | complete
      {payload : String}
      {address : Word}
      {next : Session}
      {transaction : Transaction}
      (response : packet.response = some payload)
      (pending : session.pending = some address)
      (accessed :
        session.access packet.time .read address (Payload.digits payload) =
          .ok (next, transaction)) :
      Answers session packet next [transaction]

/-- What taking the request of a packet does. -/
inductive Requests (session : Session) (packet : Packet) : Session → List Transaction → Prop where
  | silent
      (typed : packet.isUntyped = false)
      (noRead : packet.setsUpRead = false)
      (noWrite : packet.written? = none) :
      Requests session packet session []
  | await
      {address : Word}
      (setUp : packet.setsUpRead)
      (named : packet.address? = some address) :
      Requests session packet (session.await address) []
  | write
      {payload : String}
      {address : Word}
      {next : Session}
      {transaction : Transaction}
      (noRead : packet.setsUpRead = false)
      (written : packet.written? = some payload)
      (named : packet.address? = some address)
      (accessed :
        session.access packet.time .write address (Payload.digits payload) =
          .ok (next, transaction)) :
      Requests session packet next [transaction]

theorem answers_of_perform?
    {session next : Session}
    {packet : Packet}
    {transactions : List Transaction}
    (taken : session.perform? packet.time packet.answer? = .ok (next, transactions)) :
    session.Answers packet next transactions := by
  rw [Packet.answer?] at taken
  cases response : packet.response with
  | none =>
      rw [response] at taken
      cases taken
      exact .silent response
  | some payload =>
      rw [response, Option.map_some, perform?, perform] at taken
      cases pending : session.pending with
      | none =>
          rw [pending] at taken
          cases taken
      | some address =>
          rw [pending] at taken
          rcases accessStep_eq_ok_iff.mp taken with ⟨transaction, accessed, rfl⟩
          exact .complete response pending accessed

/-- A step at the address of a packet that is taken finds that address. -/
theorem address?_of_perform_stepAt
    {session : Session}
    {packet : Packet}
    {time : String}
    {step : Word → Step}
    {made : Session × List Transaction}
    (taken : session.perform time (packet.stepAt step) = .ok made) :
    ∃ address,
      packet.address? = some address ∧ session.perform time (step address) = .ok made := by
  rcases packet.stepAt_cases step with ⟨error, -, rejected⟩ | ⟨address, named, stepped⟩
  · rw [rejected] at taken
    cases taken
  · rw [stepped] at taken
    exact ⟨address, named, taken⟩

theorem requests_of_perform?
    {session next : Session}
    {packet : Packet}
    {transactions : List Transaction}
    (taken : session.perform? packet.time packet.request? = .ok (next, transactions)) :
    session.Requests packet next transactions := by
  rw [Packet.request?] at taken
  split at taken
  · cases taken
  · next typed =>
      split at taken
      · next setUp =>
          rcases address?_of_perform_stepAt taken with ⟨address, named, awaited⟩
          cases awaited
          exact .await setUp named
      · next noRead =>
          cases written : packet.written? with
          | none =>
              rw [written] at taken
              cases taken
              exact .silent (eq_false_of_ne_true typed) (eq_false_of_ne_true noRead) written
          | some payload =>
              rw [written] at taken
              rcases address?_of_perform_stepAt taken with ⟨address, named, stepped⟩
              rcases accessStep_eq_ok_iff.mp stepped with ⟨transaction, accessed, rfl⟩
              exact .write (eq_false_of_ne_true noRead) written named accessed

/-! ## The whole packet -/

/-- What becomes of a session that receives a packet, and what comes of the packet. -/
inductive Receives (session : Session) (packet : Packet) :
    Session → Except DecodeError (List Transaction) → Prop where
  | unclear
      {error : DecodeError}
      (unknown : packet.concerns session.device = .error error) :
      Receives session packet session.countPacket (.error error)
  | foreign
      (irrelevant : packet.concerns session.device = .ok false) :
      Receives session packet session.countPacket (.ok [])
  | unanswered
      {error : DecodeError}
      (relevant : packet.concerns session.device = .ok true)
      (refused : session.countRelevant.perform? packet.time packet.answer? = .error error) :
      Receives session packet session.countRelevant (.error error)
  | unserved
      {error : DecodeError}
      {middle : Session}
      {answers : List Transaction}
      (relevant : packet.concerns session.device = .ok true)
      (answered : session.countRelevant.Answers packet middle answers)
      (refused : middle.perform? packet.time packet.request? = .error error) :
      Receives session packet middle (.error error)
  | decoded
      {middle next : Session}
      {answers requests : List Transaction}
      (relevant : packet.concerns session.device = .ok true)
      (answered : session.countRelevant.Answers packet middle answers)
      (served : middle.Requests packet next requests) :
      Receives session packet next (.ok (answers ++ requests))

theorem performAll_toList
    (session : Session)
    (time : String)
    (step? : Option Step) :
    (session.performAll time step?.toList).state =
        (match session.perform? time step? with
          | .error _ => session
          | .ok (next, _) => next) ∧
      (session.performAll time step?.toList).result =
        (session.perform? time step?).map Prod.snd := by
  cases step? with
  | none => exact ⟨rfl, rfl⟩
  | some step =>
      rw [Option.toList_some, performAll, perform?]
      cases session.perform time step with
      | error error => exact ⟨rfl, rfl⟩
      | ok made => simp [performAll, Outcome.accept, Except.map]

theorem performAll_of_refused
    {session : Session}
    {time : String}
    {first? : Option Step}
    {error : DecodeError}
    (refused : session.perform? time first? = .error error)
    (rest : List Step) :
    session.performAll time (first?.toList ++ rest) = .refuse session error := by
  cases first? with
  | none => cases refused
  | some step =>
      rw [perform?] at refused
      rw [Option.toList_some, List.singleton_append, performAll, refused]

/-- After a first step that is taken the other steps are taken from the session after it. -/
theorem performAll_of_taken
    {session next : Session}
    {time : String}
    {first? : Option Step}
    {transactions : List Transaction}
    (taken : session.perform? time first? = .ok (next, transactions))
    (rest : List Step) :
    (session.performAll time (first?.toList ++ rest)).state =
        (next.performAll time rest).state ∧
      (session.performAll time (first?.toList ++ rest)).result =
        (next.performAll time rest).result.map (transactions ++ ·) := by
  cases first? with
  | none =>
      cases taken
      refine ⟨rfl, ?_⟩
      rw [Option.toList_none, List.nil_append]
      cases (session.performAll time rest).result <;> rfl
  | some step =>
      rw [perform?] at taken
      rw [Option.toList_some, List.singleton_append, performAll, taken]
      exact ⟨rfl, rfl⟩

/-- A relevant packet gives what its answer and then its own request give. -/
theorem result_of_relevant
    {session : Session}
    {packet : Packet}
    (relevant : packet.isRelevant session.device) :
    (session.receive packet).result =
      (session.countRelevant.perform? packet.time packet.answer?).bind fun made =>
        (made.1.perform? packet.time packet.request?).map fun served => made.2 ++ served.2 := by
  rw [receive, Packet.concerns_eq_ok_true_iff.mpr relevant]
  simp only [Packet.steps_eq]
  rw [← countRelevant]
  cases answered : session.countRelevant.perform? packet.time packet.answer? with
  | error error =>
      rw [performAll_of_refused answered]
      rfl
  | ok made =>
      rw [(performAll_of_taken answered packet.request?.toList).2,
        (performAll_toList made.1 packet.time packet.request?).2]
      cases served : made.1.perform? packet.time packet.request? <;>
        simp [Except.bind, Except.map, served]

/-- What a session does with a packet is one of the five cases. -/
theorem receives
    (session : Session)
    (packet : Packet) :
    session.Receives packet (session.receive packet).state (session.receive packet).result := by
  rw [receive]
  cases concern : packet.concerns session.device with
  | error error => exact .unclear concern
  | ok relevant =>
      cases relevant with
      | false => exact .foreign concern
      | true =>
          simp only [Packet.steps_eq]
          rw [← countRelevant]
          cases answered : session.countRelevant.perform? packet.time packet.answer? with
          | error error =>
              rw [performAll_of_refused answered]
              exact .unanswered concern answered
          | ok made =>
              rcases made with ⟨middle, answers⟩
              rcases performAll_of_taken answered packet.request?.toList with
                ⟨sameState, sameResult⟩
              rcases performAll_toList middle packet.time packet.request? with
                ⟨stateAfter, resultAfter⟩
              rw [sameState, sameResult, stateAfter, resultAfter]
              have first := answers_of_perform? answered
              cases served : middle.perform? packet.time packet.request? with
              | error error => exact .unserved concern first served
              | ok last =>
                  rcases last with ⟨next, requests⟩
                  exact .decoded concern first (requests_of_perform? served)

/-! ## What a packet leaves as it is -/

/-- An aspect of sessions that neither counting nor setting up a read nor an access changes. -/
structure Fixed {Aspect : Type} (aspect : Session → Aspect) : Prop where
  counted (session : Session) : aspect session.countPacket = aspect session
  matched (session : Session) : aspect session.countMatched = aspect session
  awaited (session : Session) (address : Word) : aspect (session.await address) = aspect session
  seen (session : Session) (direction : Direction) (address value : Word) :
    aspect (session.see direction address value) = aspect session

section Fixed

variable
    {Aspect : Type}
    {aspect : Session → Aspect}
    (fixed : Fixed aspect)
    {session next : Session}
    {packet : Packet}
    {transactions : List Transaction}

include fixed

theorem Fixed.access
    {time digits : String}
    {direction : Direction}
    {address : Word}
    {transaction : Transaction}
    (accessed : session.access time direction address digits = .ok (next, transaction)) :
    aspect next = aspect session := by
  rcases access_eq_ok_iff.mp accessed with ⟨value, register, -, -, rfl, -⟩
  exact fixed.seen session direction address value

theorem Fixed.relevant
    (session : Session) :
    aspect session.countRelevant = aspect session :=
  (fixed.matched session.countPacket).trans (fixed.counted session)

theorem Fixed.answers
    (answers : session.Answers packet next transactions) :
    aspect next = aspect session := by
  cases answers with
  | silent => rfl
  | complete response pending accessed => exact fixed.access accessed

theorem Fixed.requests
    (requests : session.Requests packet next transactions) :
    aspect next = aspect session := by
  cases requests with
  | silent => rfl
  | await => exact fixed.awaited session _
  | write noRead written named accessed => exact fixed.access accessed

theorem Fixed.receives
    {result : Except DecodeError (List Transaction)}
    (receives : session.Receives packet next result) :
    aspect next = aspect session := by
  cases receives with
  | unclear => exact fixed.counted session
  | foreign => exact fixed.counted session
  | unanswered => exact fixed.relevant session
  | unserved _ answered => exact (fixed.answers answered).trans (fixed.relevant session)
  | decoded _ answered served =>
      exact
        (fixed.requests served).trans
          ((fixed.answers answered).trans (fixed.relevant session))

end Fixed

theorem fixed_device : Fixed Session.device :=
  ⟨fun _ => rfl, fun _ => rfl, fun _ _ => rfl, fun _ _ _ _ => rfl⟩

theorem Answers.device_eq
    {session next : Session}
    {packet : Packet}
    {transactions : List Transaction}
    (answers : session.Answers packet next transactions) :
    next.device = session.device :=
  fixed_device.answers answers

theorem Requests.device_eq
    {session next : Session}
    {packet : Packet}
    {transactions : List Transaction}
    (requests : session.Requests packet next transactions) :
    next.device = session.device :=
  fixed_device.requests requests

theorem Receives.device_eq
    {session next : Session}
    {packet : Packet}
    {result : Except DecodeError (List Transaction)}
    (receives : session.Receives packet next result) :
    next.device = session.device :=
  fixed_device.receives receives

end RegisterTrace.Session
