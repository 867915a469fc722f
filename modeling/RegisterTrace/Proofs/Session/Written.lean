import RegisterTrace.Proofs.Session.Recording
import RegisterTrace.Proofs.Sink

/-!
# Written transcripts

A transcription puts the texts of the recorded transactions into its sink, whatever the sink.  If
they all fit, it is the recording in everything else too; if not, it ends because the sink is full.
So what is shown of recorded transactions holds of the text that is written.
-/

namespace RegisterTrace

namespace Transaction

/-- The text of transactions one after another. -/
def texts (transactions : List Transaction) : String :=
  String.join (transactions.map text)

/-- The bytes of transactions one after another. -/
def bytes (transactions : List Transaction) : ByteArray :=
  (texts transactions).toUTF8

theorem bytes_nil : bytes [] = ByteArray.empty := rfl

theorem bytes_cons
    (transaction : Transaction)
    (rest : List Transaction) :
    bytes (transaction :: rest) = transaction.text.toUTF8 ++ bytes rest := by
  simp only [bytes, texts, List.map_cons, String.join_cons, String.toUTF8,
    String.toByteArray_append]

theorem bytes_append
    (first second : List Transaction) :
    bytes (first ++ second) = bytes first ++ bytes second := by
  simp only [bytes, texts, List.map_append, String.join_append, String.toUTF8,
    String.toByteArray_append]

end Transaction

namespace Session

/-! ## The transactions of one packet -/

theorem write_of_fits
    {decoding : Decoding}
    {transaction : Transaction}
    (fits : decoding.sink.Fits transaction.text.toUTF8) :
    decoding.write transaction =
      .accept { decoding with sink := decoding.sink.put transaction.text.toUTF8 } () := by
  rw [Decoding.write, Sink.take?_of_fits fits]

theorem write_of_not_fits
    {decoding : Decoding}
    {transaction : Transaction}
    (overflow : ¬ decoding.sink.Fits transaction.text.toUTF8) :
    decoding.write transaction =
      .refuse { decoding with sink := decoding.sink.put transaction.text.toUTF8 } .sinkFull := by
  rcases Sink.take?_of_not_fits overflow with ⟨notTaken, filled⟩
  rw [Decoding.write, notTaken, filled]

theorem run_write_of_fits
    (decoding : Decoding)
    {transactions : List Transaction}
    (fits : decoding.sink.Fits (Transaction.bytes transactions)) :
    (Outcome.run Decoding.write decoding transactions).result = .ok () ∧
      (Outcome.run Decoding.write decoding transactions).state =
        { decoding with sink := decoding.sink.put (Transaction.bytes transactions) } := by
  induction transactions generalizing decoding with
  | nil =>
      rw [Transaction.bytes_nil, Sink.put_empty]
      exact ⟨rfl, rfl⟩
  | cons transaction rest inductionHypothesis =>
      rw [Transaction.bytes_cons, Sink.fits_append_iff] at fits
      have written := write_of_fits fits.1
      have accepted : (decoding.write transaction).result = .ok () := by
        rw [written]
        rfl
      rw [Outcome.run_cons_of_accepted accepted, Transaction.bytes_cons, Sink.put_append, written]
      exact inductionHypothesis _ fits.2

/-- Transactions that do not fit fill the sink, and the one that does not is refused. -/
theorem run_write_of_not_fits
    (decoding : Decoding)
    {transactions : List Transaction}
    (overflow : ¬ decoding.sink.Fits (Transaction.bytes transactions)) :
    (Outcome.run Decoding.write decoding transactions).result = .error .sinkFull ∧
      (Outcome.run Decoding.write decoding transactions).state =
        { decoding with sink := decoding.sink.put (Transaction.bytes transactions) } := by
  induction transactions generalizing decoding with
  | nil => exact absurd Sink.fits_empty overflow
  | cons transaction rest inductionHypothesis =>
      rw [Transaction.bytes_cons, Sink.fits_append_iff] at overflow
      by_cases fits : decoding.sink.Fits transaction.text.toUTF8
      · have written := write_of_fits fits
        have accepted : (decoding.write transaction).result = .ok () := by
          rw [written]
          rfl
        rw [Outcome.run_cons_of_accepted accepted, Transaction.bytes_cons, Sink.put_append, written]
        exact inductionHypothesis _ fun restFits => overflow ⟨fits, restFits⟩
      · have written := write_of_not_fits fits
        have refused : (decoding.write transaction).result = .error .sinkFull := by
          rw [written]
          rfl
        rw [Outcome.run_cons_of_refused refused, Transaction.bytes_cons,
          Sink.put_append_of_not_fits fits, written]
        exact ⟨rfl, rfl⟩

/-- Writing the transactions of a packet does not touch the session that it left. -/
theorem Decoding.session_receive
    (decoding : Decoding)
    (packet : Packet) :
    (decoding.receive packet).state.session = (decoding.session.receive packet).state := by
  rw [receive]
  cases (decoding.session.receive packet).result with
  | error error => rfl
  | ok transactions =>
      let after : Decoding := { decoding with session := (decoding.session.receive packet).state }
      have kept : (Outcome.run write after transactions).state.session = after.session := by
        by_cases fits : after.sink.Fits (Transaction.bytes transactions)
        · rw [(run_write_of_fits after fits).2]
        · rw [(run_write_of_not_fits after fits).2]
      exact kept

/-! ## Whole captures -/

/-- A transcription into a sink is as far as a recording, and everything recorded was written. -/
structure Shows (sink : Sink) (decoding : Decoding) (recording : Recording) : Prop where
  session_eq : decoding.session = recording.session
  sink_eq : decoding.sink = sink.put (Transaction.bytes recording.transactions)
  fits : sink.Fits (Transaction.bytes recording.transactions)

/--
A transcription ended as a recording did: it shows it, or the sink took what it could of the
recorded transactions and was full.
-/
def EndsLike
    (sink : Sink)
    (written : Outcome Decoding DecodeError Unit)
    (recorded : Outcome Recording DecodeError Unit) :
    Prop :=
  written.result = recorded.result ∧ Shows sink written.state recorded.state ∨
    ¬ sink.Fits (Transaction.bytes recorded.state.transactions) ∧
      written.result = .error .sinkFull ∧
        written.state.sink = sink.put (Transaction.bytes recorded.state.transactions)

/-- From where it shows the recording, a packet is transcribed as it is recorded. -/
theorem Shows.receive
    {sink : Sink}
    {decoding : Decoding}
    {recording : Recording}
    (shows : Shows sink decoding recording)
    (packet : Packet) :
    EndsLike sink (decoding.receive packet) (recording.receive packet) := by
  have sameSession := shows.session_eq
  cases decoded : (recording.session.receive packet).result with
  | error error =>
      rw [Recording.receive_of_error decoded, Decoding.receive]
      simp only [sameSession, decoded]
      exact .inl ⟨rfl, rfl, shows.sink_eq, shows.fits⟩
  | ok transactions =>
      rw [Recording.receive_of_ok decoded, Decoding.receive]
      simp only [sameSession, decoded]
      have joined :
          sink.put (Transaction.bytes (recording.transactions ++ transactions)) =
            decoding.sink.put (Transaction.bytes transactions) := by
        rw [Transaction.bytes_append, Sink.put_append, ← shows.sink_eq]
      have enough :
          sink.Fits (Transaction.bytes (recording.transactions ++ transactions)) ↔
            decoding.sink.Fits (Transaction.bytes transactions) := by
        rw [Transaction.bytes_append, Sink.fits_append_iff, ← shows.sink_eq]
        exact and_iff_right shows.fits
      by_cases fits : decoding.sink.Fits (Transaction.bytes transactions)
      · rcases run_write_of_fits ⟨(recording.session.receive packet).state, decoding.sink⟩ fits with
          ⟨accepted, written⟩
        refine .inl ⟨accepted, ?_, ?_, enough.mpr fits⟩
        · simp only [written]
        · simp only [written, joined]
      · rcases
            run_write_of_not_fits
              ⟨(recording.session.receive packet).state, decoding.sink⟩ fits with
          ⟨refused, written⟩
        refine .inr ⟨fun whole => fits (enough.mp whole), refused, ?_⟩
        simp only [written, joined]

/-- From where it shows the recording, packets are transcribed as they are recorded. -/
theorem Shows.run_receive
    {sink : Sink}
    {decoding : Decoding}
    {recording : Recording}
    (shows : Shows sink decoding recording)
    (packets : List Packet) :
    EndsLike sink
      (Outcome.run Decoding.receive decoding packets)
      (Outcome.run Recording.receive recording packets) := by
  induction packets generalizing decoding recording with
  | nil => exact .inl ⟨rfl, shows⟩
  | cons packet rest inductionHypothesis =>
      rcases shows.receive packet with ⟨same, showsNext⟩ | ⟨overflow, refused, filled⟩
      · cases result : (recording.receive packet).result with
        | error error =>
            rw [Outcome.run_cons_of_refused (same.trans result),
              Outcome.run_cons_of_refused result]
            exact .inl ⟨rfl, showsNext⟩
        | ok value =>
            rw [Outcome.run_cons_of_accepted (same.trans result),
              Outcome.run_cons_of_accepted result]
            exact inductionHypothesis showsNext
      · rw [Outcome.run_cons_of_refused refused]
        cases result : (recording.receive packet).result with
        | error error =>
            rw [Outcome.run_cons_of_refused result]
            exact .inr ⟨overflow, rfl, filled⟩
        | ok value =>
            -- The recording goes on, but nothing that it adds reaches the full sink.
            rw [Outcome.run_cons_of_accepted result]
            rcases exists_transactions_append (recording.receive packet).state rest with
              ⟨later, added⟩
            refine .inr ⟨?_, rfl, ?_⟩
            · simp only [added, Transaction.bytes_append, Sink.fits_append_iff]
              exact fun whole => overflow whole.1
            · simp only [added, Transaction.bytes_append, Sink.put_append_of_not_fits overflow]
              exact filled

/-- Whatever the sink, a transcription ends as the recording does or when the sink is full. -/
theorem transcribe_endsLike
    (session : Session)
    (packets : List Packet)
    (sink : Sink) :
    EndsLike sink (session.transcribe packets sink) (session.record packets) := by
  apply Shows.run_receive
  refine ⟨rfl, ?_, Sink.fits_empty⟩
  rw [Transaction.bytes_nil, Sink.put_empty]

/-- Whatever the sink, the texts of the recorded transactions are put into it. -/
theorem sink_transcribe
    (session : Session)
    (packets : List Packet)
    (sink : Sink) :
    (session.transcribe packets sink).state.sink =
      sink.put (Transaction.bytes (session.transactions packets)) := by
  rcases transcribe_endsLike session packets sink with ⟨-, shows⟩ | ⟨-, -, filled⟩
  · exact shows.sink_eq
  · exact filled

/-- A transcription that gets through all packets shows the recording, and that one does too. -/
theorem shows_of_transcribe_accepted
    {session : Session}
    {packets : List Packet}
    {sink : Sink}
    (accepted : (session.transcribe packets sink).result = .ok ()) :
    (session.record packets).result = .ok () ∧
      Shows sink (session.transcribe packets sink).state (session.record packets).state := by
  rcases transcribe_endsLike session packets sink with ⟨same, shows⟩ | ⟨-, full, -⟩
  · exact ⟨same.symm.trans accepted, shows⟩
  · rw [full] at accepted
    cases accepted

/-- A transcription into a sink without a limit shows the recording, with the same result. -/
theorem shows_of_unlimited
    (session : Session)
    (packets : List Packet)
    {sink : Sink}
    (unlimited : sink.room = none) :
    (session.transcribe packets sink).result = (session.record packets).result ∧
      Shows sink (session.transcribe packets sink).state (session.record packets).state := by
  rcases transcribe_endsLike session packets sink with shown | ⟨overflow, -⟩
  · exact shown
  · exact absurd (Sink.fits_of_unlimited unlimited _) overflow

end Session

end RegisterTrace
