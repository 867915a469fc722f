import RegisterTrace.Proofs.Payload
import RegisterTrace.Proofs.Session.Refusal

/-!
# The payload column

A transaction shows the digits of its payload as they were captured.  They are the digits of the
word that it decodes and that its register remembers from then on, and any other digits are refused.
But a plus sign in front of the digits is taken too, and shown with them: the main statement of this
module says that this is the only way in which the column shows anything but hexadecimal digits.
-/

namespace RegisterTrace

/--
Transactions lead from one map to another: each one's digits write a word, it shows this word in the
fields of the register at its address, and it leaves the word there as the last value.
-/
inductive RegisterMap.Leads : RegisterMap → List Transaction → RegisterMap → Prop where
  | nothing
      {map : RegisterMap} :
      Leads map [] map
  | transaction
      {map last : RegisterMap}
      {transaction : Transaction}
      {later : List Transaction}
      {value : Word}
      {register : Register}
      (writes : Payload.WritesWord transaction.payload value)
      (found : map.get? transaction.address = some register)
      (shows : transaction.fields = register.decode value)
      (leads : Leads (map.see transaction.address value) later last) :
      Leads map (transaction :: later) last

theorem RegisterMap.Leads.append
    {first middle last : RegisterMap}
    {earlier later : List Transaction}
    (leads : first.Leads earlier middle)
    (leadsOn : middle.Leads later last) :
    first.Leads (earlier ++ later) last := by
  induction leads with
  | nothing => exact leadsOn
  | transaction writes found shows _ inductionHypothesis =>
      exact .transaction writes found shows (inductionHypothesis leadsOn)

theorem RegisterMap.Leads.exists_writesWord
    {map last : RegisterMap}
    {transactions : List Transaction}
    (leads : map.Leads transactions last)
    {transaction : Transaction}
    (member : transaction ∈ transactions) :
    ∃ value, Payload.WritesWord transaction.payload value := by
  induction leads with
  | nothing => cases member
  | transaction writes _ _ _ inductionHypothesis =>
      rcases List.mem_cons.mp member with rfl | later
      · exact ⟨_, writes⟩
      · exact inductionHypothesis later

namespace Session

/-! ## Packets that are decoded -/

theorem leads_of_access
    {session next : Session}
    {time digits : String}
    {direction : Direction}
    {address : Word}
    {transaction : Transaction}
    (accessed : session.access time direction address digits = .ok (next, transaction)) :
    session.registers.Leads [transaction] next.registers := by
  rcases access_eq_ok_iff.mp accessed with ⟨value, register, written, found, rfl, rfl⟩
  exact .transaction (Payload.word?_eq_some_iff.mp written) found rfl .nothing

theorem Answers.leads
    {session next : Session}
    {packet : Packet}
    {transactions : List Transaction}
    (answers : session.Answers packet next transactions) :
    session.registers.Leads transactions next.registers := by
  cases answers with
  | silent => exact .nothing
  | complete response pending accessed => exact leads_of_access accessed

theorem Requests.leads
    {session next : Session}
    {packet : Packet}
    {transactions : List Transaction}
    (requests : session.Requests packet next transactions) :
    session.registers.Leads transactions next.registers := by
  cases requests with
  | silent => exact .nothing
  | await => exact .nothing
  | write noRead written named accessed => exact leads_of_access accessed

theorem Receives.leads
    {session next : Session}
    {packet : Packet}
    {transactions : List Transaction}
    (receives : session.Receives packet next (.ok transactions)) :
    session.registers.Leads transactions next.registers := by
  cases receives with
  | foreign => exact .nothing
  | decoded _ answered served => exact answered.leads.append served.leads

/-! ## Payloads that are refused -/

/-- The digits of a payload that an access of a relevant packet is to read. -/
inductive Meets (session : Session) (packet : Packet) : String → Prop where
  | answer
      {payload : String}
      {address : Word}
      (response : packet.response = some payload)
      (pending : session.pending = some address) :
      Meets session packet (Payload.digits payload)
  -- The answer in a packet is taken first, so one that is refused hides the payload to write.
  | request
      {payload : String}
      {address : Word}
      (answered : packet.response.isSome → (session.completedRead? packet).isSome)
      (written : packet.written? = some payload)
      (named : packet.address? = some address) :
      Meets session packet (Payload.digits payload)

section

variable
    {session : Session}
    {packet : Packet}
    {time payload digits : String}

theorem accessStep_eq_invalidPayload_iff
    {direction : Direction}
    {address : Word} :
    session.accessStep time direction address payload = .error (.invalidPayload digits) ↔
      Payload.digits payload = digits ∧ ∀ value, ¬ Payload.WritesWord digits value := by
  rw [accessStep_eq_error_iff, access_eq_error_iff, ← Payload.word?_eq_none_iff]
  constructor
  · rintro (⟨noWord, same⟩ | ⟨-, -, other⟩)
    · cases same
      exact ⟨rfl, noWord⟩
    · cases other
  · rintro ⟨rfl, noWord⟩
    exact .inl ⟨noWord, rfl⟩

theorem perform?_answer_eq_invalidPayload_iff :
    session.perform? time packet.answer? = .error (.invalidPayload digits) ↔
      (∃ payload address,
        packet.response = some payload ∧
          session.pending = some address ∧ Payload.digits payload = digits) ∧
        ∀ value, ¬ Payload.WritesWord digits value := by
  rw [Packet.answer?]
  cases packet.response with
  | none => simp [perform?]
  | some payload =>
      cases pending : session.pending with
      | none => simp [perform?, perform, pending]
      | some address =>
          simp [perform?, perform, pending, accessStep_eq_invalidPayload_iff]

/-- A step at the address of a packet is not refused for a payload unless there is the address. -/
theorem perform_stepAt_eq_invalidPayload_iff
    {step : Word → Step} :
    session.perform time (packet.stepAt step) = .error (.invalidPayload digits) ↔
      ∃ address,
        packet.address? = some address ∧
          session.perform time (step address) = .error (.invalidPayload digits) := by
  rw [Packet.stepAt, Packet.address?]
  cases packet.index? with
  | none => simp [perform]
  | some text => cases read : decimalWord? text <;> simp [perform, read]

theorem perform?_request_eq_invalidPayload_iff :
    session.perform? time packet.request? = .error (.invalidPayload digits) ↔
      (∃ payload address,
        packet.written? = some payload ∧
          packet.address? = some address ∧ Payload.digits payload = digits) ∧
        ∀ value, ¬ Payload.WritesWord digits value := by
  cases written : packet.written? with
  | none =>
      rw [Packet.request?, written]
      split
      · simp [perform?, perform]
      · split
        · rw [perform?, perform_stepAt_eq_invalidPayload_iff]
          simp [perform]
        · simp [perform?]
  | some payload =>
      have noRead : ¬ packet.setsUpRead := by
        intro setUp
        rw [Packet.written?_of_setsUpRead setUp] at written
        cases written
      rw [Packet.request?, Packet.isUntyped_of_written? written, if_neg Bool.false_ne_true,
        if_neg noRead, written, Option.map_some, perform?, perform_stepAt_eq_invalidPayload_iff]
      simp only [perform, accessStep_eq_invalidPayload_iff]
      simp [and_assoc]

end

/-- The answer in a relevant packet is taken exactly if there is none or it completes a read. -/
theorem answer?_taken_iff
    {session : Session}
    {packet : Packet}
    (relevant : packet.isRelevant session.device) :
    (∃ made, session.countRelevant.perform? packet.time packet.answer? = .ok made) ↔
      (packet.response.isSome → (session.completedRead? packet).isSome) := by
  constructor
  · rintro ⟨⟨middle, transactions⟩, taken⟩ answers
    cases answers_of_perform? taken with
    | silent noResponse =>
        rw [noResponse] at answers
        cases answers
    | complete response pending accessed =>
        rcases access_eq_ok_iff.mp accessed with ⟨value, register, written, found, -, -⟩
        rw [completedRead?_eq_some_iff.mpr
          ⟨relevant, _, register, response, pending, written, found⟩]
        rfl
  · intro completes
    cases taken : session.countRelevant.perform? packet.time packet.answer? with
    | ok made => exact ⟨made, rfl⟩
    | error error =>
        rw [completedRead?_of_refused taken] at completes
        have noResponse : packet.response = none := by
          rw [← Option.not_isSome_iff_eq_none]
          intro answers
          cases completes answers
        rw [Packet.answer?, noResponse] at taken
        cases taken

theorem Receives.isRelevant_of_invalidPayload
    {session next : Session}
    {packet : Packet}
    {digits : String}
    (receives : session.Receives packet next (.error (.invalidPayload digits))) :
    packet.isRelevant session.device := by
  cases receives with
  | unclear unknown => cases (Packet.concerns_eq_error_iff.mp unknown).2.2
  | unanswered relevant => exact Packet.concerns_eq_ok_true_iff.mp relevant
  | unserved relevant => exact Packet.concerns_eq_ok_true_iff.mp relevant

/-- A packet is refused for a payload exactly if it is relevant and meets one that is no word. -/
theorem receive_eq_invalidPayload_iff
    {session : Session}
    {packet : Packet}
    {digits : String} :
    (session.receive packet).result = .error (.invalidPayload digits) ↔
      packet.isRelevant session.device ∧
        session.Meets packet digits ∧ ∀ value, ¬ Payload.WritesWord digits value := by
  constructor
  · intro refused
    have relevant : packet.isRelevant session.device :=
      (refused ▸ receives session packet).isRelevant_of_invalidPayload
    refine ⟨relevant, ?_⟩
    rw [result_of_relevant relevant] at refused
    cases answered : session.countRelevant.perform? packet.time packet.answer? with
    | error error =>
        rw [answered] at refused
        cases refused
        rcases perform?_answer_eq_invalidPayload_iff.mp answered with
          ⟨⟨payload, address, response, pending, rfl⟩, noWord⟩
        exact ⟨.answer response pending, noWord⟩
    | ok made =>
        rw [answered] at refused
        have completes := (answer?_taken_iff relevant).mp ⟨made, answered⟩
        cases served : made.1.perform? packet.time packet.request? with
        | ok later =>
            rw [Except.bind, served] at refused
            cases refused
        | error error =>
            rw [Except.bind, served] at refused
            cases refused
            rcases perform?_request_eq_invalidPayload_iff.mp served with
              ⟨⟨payload, address, written, named, rfl⟩, noWord⟩
            exact ⟨.request completes written named, noWord⟩
  · rintro ⟨relevant, meets, noWord⟩
    rw [result_of_relevant relevant]
    cases meets with
    | answer response pending =>
        have refused : session.countRelevant.perform? packet.time packet.answer? = _ :=
          perform?_answer_eq_invalidPayload_iff.mpr ⟨⟨_, _, response, pending, rfl⟩, noWord⟩
        rw [refused]
        rfl
    | request answered written named =>
        rcases (answer?_taken_iff relevant).mpr answered with ⟨made, taken⟩
        have refused : made.1.perform? packet.time packet.request? = _ :=
          perform?_request_eq_invalidPayload_iff.mpr ⟨⟨_, _, written, named, rfl⟩, noWord⟩
        rw [taken]
        simp only [Except.bind, refused, Except.map]

/-! ## What the column shows -/

/--
The transactions of a packet show the digits of words, the words that they cut into fields and leave
as last values; and these digits are plain exactly if they do not start with a plus sign.  A packet
is refused for digits exactly if it is relevant and an access of it meets digits that write no word.
-/
theorem payload_plain_iff_unsigned
    (session : Session)
    (packet : Packet) :
    let received := session.receive packet
    (∀ transactions,
        received.result = .ok transactions →
          session.registers.Leads transactions received.state.registers ∧
            ∀ transaction ∈ transactions,
              (∃ value, Payload.Plain transaction.payload value) ↔
                transaction.payload.toList.head? ≠ some '+') ∧
      ∀ digits,
        received.result = .error (.invalidPayload digits) ↔
          packet.isRelevant session.device ∧
            session.Meets packet digits ∧ ∀ value, ¬ Payload.WritesWord digits value := by
  intro received
  refine ⟨?_, fun digits => receive_eq_invalidPayload_iff⟩
  intro transactions accepted
  have leads := (accepted ▸ receives session packet).leads
  refine ⟨leads, ?_⟩
  intro transaction member
  rcases leads.exists_writesWord member with ⟨value, writes⟩
  exact writes.exists_plain_iff

/-- A control transfer to the device that writes a payload to the register at 0x8048. -/
def writePacket (payload : String) : Packet where
  time := "T1"
  usb := { source := "host", destination := "1.4.0", transferType := some "0x02" }
  setup := some { requestType := some "0x40", index := some "32840", fragment := some payload }

/-- A written payload that is shown as plain digits, and one that is refused. -/
theorem plain_digits_shown :
    let session : Session := { registers := twoFieldRegisters, device := "1.4.0" }
    (∃ transaction,
        (session.receive (writePacket "05:01")).result = .ok [transaction] ∧
          transaction.payload = "0105" ∧ ∃ value, Payload.Plain transaction.payload value) ∧
      (session.receive (writePacket "0g:01")).result = .error (.invalidPayload "010g") ∧
        ∀ value, ¬ Payload.WritesWord "010g" value := by
  intro session
  have refused :
      (session.receive (writePacket "0g:01")).result = .error (.invalidPayload "010g") := rfl
  refine ⟨⟨_, rfl, rfl, ?_⟩, refused, ?_⟩
  · have shown := (payload_plain_iff_unsigned session (writePacket "05:01")).1 [_] rfl
    exact (shown.2 _ List.mem_cons_self).mpr (by decide)
  · exact (((payload_plain_iff_unsigned session (writePacket "0g:01")).2 "010g").mp refused).2.2

/-- A written payload with a plus sign is taken, and the sign is shown in front of its digits. -/
theorem signed_digits_shown :
    let session : Session := { registers := twoFieldRegisters, device := "1.4.0" }
    let received := session.receive (writePacket "02:+1")
    ∃ transaction,
      received.result = .ok [transaction] ∧
        transaction.payload = "+102" ∧
          (∀ value, ¬ Payload.Plain transaction.payload value) ∧
            received.state.registers.seen = [(0x8048, 0x102)] := by
  intro session received
  refine ⟨_, rfl, rfl, ?_, rfl⟩
  intro value plain
  exact absurd (plain.hexadecimal '+' (by decide)) (by decide)

end Session

end RegisterTrace
