import RegisterTrace.Proofs.FieldLine
import RegisterTrace.Proofs.FieldValues
import RegisterTrace.Proofs.Header.Unseen
import RegisterTrace.Proofs.History
import RegisterTrace.Proofs.Session.Receive
import RegisterTrace.Proofs.Session.Written

/-!
# Marks of changes

What a transaction marks as changed in a field is the difference from what the same field held in
the latest transaction before it at the same address.  The invariant is that a register remembers
the word whose fields that latest transaction shows, and remembers none before the first.
-/

namespace RegisterTrace

namespace Transaction

/-- The latest of some transactions at an address. -/
def latest? (address : Word) (history : List Transaction) : Option Transaction :=
  history.findRev? (·.address == address)

theorem latest?_concat
    (address : Word)
    (history : List Transaction)
    (last : Transaction) :
    latest? address (history ++ [last]) =
      if last.address = address then some last else latest? address history := by
  simp only [latest?, findRev?_concat, beq_iff_eq]

/--
A transaction marks in each field the difference from the field's value in the latest transaction
before it at its address, and no change if there is none.
-/
def MarksChanges (history : List Transaction) (transaction : Transaction) : Prop :=
  ∀ (place : Nat) (field : FieldValue),
    transaction.fields[place]? = some field →
      match latest? transaction.address history with
      | none => field.changed = 0
      | some previous =>
          ∃ shown : FieldValue,
            previous.fields[place]? = some shown ∧ field.changed = field.value ^^^ shown.value

end Transaction

namespace Session

/-- A register of a session remembers the word that the latest transaction at its address shows. -/
def Remembers (history : List Transaction) (session : Session) : Prop :=
  ∀ address register,
    session.registers.get? address = some register →
      match Transaction.latest? address history with
      | none => register.lastValue = none
      | some previous =>
          ∃ value,
            register.lastValue = some value ∧
              previous.fields.map FieldValue.value = Field.values register.fields value

/-- An access marks the changes since the latest transaction that the session remembers. -/
theorem Remembers.marksChanges
    {history : List Transaction}
    {session next : Session}
    (remembers : Remembers history session)
    {time digits : String}
    {direction : Direction}
    {address : Word}
    {transaction : Transaction}
    (accessed : session.access time direction address digits = .ok (next, transaction)) :
    transaction.MarksChanges history := by
  rcases access_eq_ok_iff.mp accessed with ⟨value, register, -, found, -, rfl⟩
  have remembered := remembers address register found
  intro place field shown
  simp only [Session.shown] at shown ⊢
  cases latest : Transaction.latest? address history with
  | none =>
      simp only [latest] at remembered
      exact Register.changed_eq_zero_of_unseen remembered shown
  | some previous =>
      simp only [latest] at remembered
      rcases remembered with ⟨last, seen, cut⟩
      rcases Register.changed_eq_xor_of_seen seen shown with ⟨held, atHeld, changed⟩
      rw [← cut, List.getElem?_map, Option.map_eq_some_iff] at atHeld
      rcases atHeld with ⟨previousField, atPrevious, rfl⟩
      exact ⟨previousField, atPrevious, changed⟩

/-- After an access the session remembers its transaction as the latest at its address. -/
theorem Remembers.access
    {history : List Transaction}
    {session next : Session}
    (remembers : Remembers history session)
    {time digits : String}
    {direction : Direction}
    {address : Word}
    {transaction : Transaction}
    (accessed : session.access time direction address digits = .ok (next, transaction)) :
    Remembers (history ++ [transaction]) next := by
  rcases access_eq_ok_iff.mp accessed with ⟨value, register, -, found, rfl, rfl⟩
  intro other otherRegister otherFound
  rw [registers_see, RegisterMap.get?_see, Option.map_eq_some_iff] at otherFound
  rcases otherFound with ⟨old, oldFound, rfl⟩
  rw [Transaction.latest?_concat]
  by_cases same : other = address
  · subst same
    rw [found, Option.some.injEq] at oldFound
    subst oldFound
    simp only [shown, if_true]
    exact ⟨value, rfl, Field.map_value_slice _ _ _⟩
  · have notLast :
        (shown time direction address digits register value).address ≠ other :=
      fun equal => same equal.symm
    rw [if_neg notLast, if_neg same]
    exact remembers other old oldFound

/-- A session remembers its history, and every transaction of it marks the changes rightly. -/
structure Tracks (history : List Transaction) (session : Session) : Prop where
  marked : Throughout Transaction.MarksChanges history
  remembers : Remembers history session

section Tracks

variable
    {history : List Transaction}
    {session next : Session}
    (tracks : Tracks history session)

include tracks

theorem Tracks.access
    {time digits : String}
    {direction : Direction}
    {address : Word}
    {transaction : Transaction}
    (accessed : session.access time direction address digits = .ok (next, transaction)) :
    Tracks (history ++ [transaction]) next where
  marked := tracks.marked.concat (tracks.remembers.marksChanges accessed)
  remembers := tracks.remembers.access accessed

theorem Tracks.answers
    {packet : Packet}
    {transactions : List Transaction}
    (answers : session.Answers packet next transactions) :
    Tracks (history ++ transactions) next := by
  cases answers with
  | silent =>
      rw [List.append_nil]
      exact tracks
  | complete response pending accessed => exact tracks.access accessed

theorem Tracks.requests
    {packet : Packet}
    {transactions : List Transaction}
    (requests : session.Requests packet next transactions) :
    Tracks (history ++ transactions) next := by
  cases requests with
  | silent =>
      rw [List.append_nil]
      exact tracks
  | await =>
      rw [List.append_nil]
      exact ⟨tracks.marked, tracks.remembers⟩
  | write noRead written named accessed => exact tracks.access accessed

theorem Tracks.receive
    {packet : Packet}
    {transactions : List Transaction}
    (receives : session.Receives packet next (.ok transactions)) :
    Tracks (history ++ transactions) next := by
  cases receives with
  | foreign =>
      rw [List.append_nil]
      exact ⟨tracks.marked, tracks.remembers⟩
  | decoded relevant answered served =>
      have counted : Tracks history session.countRelevant :=
        ⟨tracks.marked, tracks.remembers⟩
      rw [← List.append_assoc]
      exact (counted.answers answered).requests served

end Tracks

theorem tracks_start
    {registers : RegisterMap}
    (unseen : registers.Unseen)
    (device : String) :
    Tracks [] { registers, device } where
  marked := throughout_nil _
  remembers _ _ found := unseen.lastValue_eq_none found

/-- A recording that gets through packets tracks its transactions. -/
theorem tracks_of_record_accepted
    {registers : RegisterMap}
    (unseen : registers.Unseen)
    {device : String}
    {packets : List Packet}
    (accepted : (record { registers, device } packets).result = .ok ()) :
    Tracks (transactions { registers, device } packets)
      (record { registers, device } packets).state.session := by
  apply record_induction
    (motive := fun _ recording => Tracks recording.transactions recording.session)
    (tracks_start unseen device) ?_ accepted
  intro done recording packet next transactions tracks received
  exact tracks.receive received

/-- The transactions of packets mark the changes rightly, up to the first packet that is refused. -/
theorem marked_transactions
    {registers : RegisterMap}
    (unseen : registers.Unseen)
    (device : String)
    (packets : List Packet) :
    Throughout Transaction.MarksChanges (transactions { registers, device } packets) := by
  cases result : (record { registers, device } packets).result with
  | ok value => exact (tracks_of_record_accepted unseen result).marked
  | error error =>
      -- The packets before the refused one are all decoded, and they made all the transactions.
      rcases record_refused result with ⟨before, packet, after, -, accepted, -, same⟩
      rw [same]
      exact (tracks_of_record_accepted unseen accepted).marked

/--
With the registers of a header, every field line that is written for packets carries the marker
exactly if the field's value differs from the one written last for that register, and the mask of
changed bits is the exclusive or of the two values.  What is written first for a register carries
none.  This holds of all transactions up to the first packet that is refused, and the sink, whatever
it is, takes their text as far as there is room for it.
-/
theorem marksChanges_of_transcribe
    (source : Source)
    (registers : RegisterMap)
    (built : Header.registers source = .ok registers)
    (device : String)
    (packets : List Packet)
    (sink : Sink) :
    let start : Session := { registers, device }
    let transactions := start.transactions packets
    (start.transcribe packets sink).state.sink = sink.put (Transaction.bytes transactions) ∧
      ∀ before current after (place : Nat) (field : FieldValue),
        transactions = before ++ current :: after →
          current.fields[place]? = some field →
            match before.findRev? (·.address == current.address) with
            | none => field.changed = 0 ∧ ¬ field.CarriesMarker
            | some previous =>
                ∃ shown : FieldValue,
                  previous.fields[place]? = some shown ∧
                    field.changed = field.value ^^^ shown.value ∧
                      (field.CarriesMarker ↔ field.value ≠ shown.value) := by
  intro start transactions
  refine ⟨sink_transcribe start packets sink, ?_⟩
  intro before current after place field split atPlace
  have unseen := Header.unseen_of_registers_eq_ok built
  have marked := marked_transactions unseen device packets before current after split place field
    atPlace
  rw [Transaction.latest?] at marked
  cases latest : before.findRev? (·.address == current.address) with
  | none =>
      simp only [latest] at marked ⊢
      exact ⟨marked, fun carries => field.carriesMarker_iff.mp carries marked⟩
  | some previous =>
      simp only [latest] at marked ⊢
      rcases marked with ⟨shown, atPrevious, changed⟩
      refine ⟨shown, atPrevious, changed, ?_⟩
      rw [field.carriesMarker_iff, changed, ne_eq, ne_eq]
      exact not_congr BitVec.xor_eq_zero_iff

/-! ## A small header -/

/-- A header with one register of two fields. -/
def twoFields : Source :=
  .ofText "#define BASE 0x8000\n#define REG (BASE + 0x48)\nu32 low : 4;\nu32 high : 4;\n"

theorem registers_twoFields : Header.registers twoFields = .ok twoFieldRegisters := by
  have built : (Header.registers twoFields).toOption = some twoFieldRegisters := by
    decide +kernel
  cases result : Header.registers twoFields with
  | error error =>
      rw [result] at built
      cases built
  | ok registers =>
      rw [result] at built
      rw [Option.some.inj built]

/-- The write changes the second field of the register that was read before it. -/
theorem carriesMarker_of_readThenWrite :
    Header.registers twoFields = .ok twoFieldRegisters ∧
      ∃ first second field,
        transactions { registers := twoFieldRegisters, device := "1.4.0" } readThenWrite =
            [first, second] ∧
          second.fields[1]? = some field ∧ field.changed = 2 ∧ field.CarriesMarker := by
  refine ⟨registers_twoFields, _, _, _, rfl, rfl, rfl, ?_⟩
  rcases
      (marksChanges_of_transcribe twoFields twoFieldRegisters registers_twoFields "1.4.0"
        readThenWrite {}).2 [_] _ [] 1 _ rfl rfl with
    ⟨shown, atPlace, -, carries⟩
  cases atPlace
  exact carries.mpr (by decide)

end Session

end RegisterTrace
