import RegisterTrace.Proofs.Session.Written

/-!
# Transcripts cut short

A sink with limited room takes the start of the transcript that a sink without a limit gets.  If the
transcript fits, its own ending is the result, an error of a packet included; if it does not, the
result is that the sink is full, whatever the packets behind the cut would have said.  A
transcription may also stop between two packets and go on later from where it is.
-/

namespace RegisterTrace.Session

variable
    {session : Session}
    {packets : List Packet}

/-- What a sink without a limit gets is what the recorded transactions say. -/
theorem written_of_unlimited
    (session : Session)
    (packets : List Packet) :
    (session.transcribe packets {}).state.sink.written =
      Transaction.bytes (session.transactions packets) := by
  rw [sink_transcribe, Sink.Fits.written_put (Sink.fits_of_unlimited rfl _)]
  exact ByteArray.empty_append

/-- Into a sink with room for the whole transcript, a transcription ends as without a limit. -/
theorem transcribe_of_fits
    {sink : Sink}
    (fits : sink.Fits (Transaction.bytes (session.transactions packets))) :
    (session.transcribe packets sink).result = (session.transcribe packets {}).result ∧
      (session.transcribe packets sink).state.session =
        (session.transcribe packets {}).state.session := by
  rcases @shows_of_unlimited session packets {} rfl with ⟨wholeResult, wholeShows⟩
  rcases transcribe_endsLike session packets sink with ⟨result, shows⟩ | ⟨overflow, -, -⟩
  · exact
      ⟨result.trans wholeResult.symm, shows.session_eq.trans wholeShows.session_eq.symm⟩
  · exact absurd fits overflow

/-- Into a sink without room for the whole transcript, a transcription ends when it is full. -/
theorem transcribe_of_not_fits
    {sink : Sink}
    (overflow : ¬ sink.Fits (Transaction.bytes (session.transactions packets))) :
    (session.transcribe packets sink).result = .error .sinkFull := by
  rcases transcribe_endsLike session packets sink with ⟨-, shows⟩ | ⟨-, full, -⟩
  · exact absurd shows.fits overflow
  · exact full

/-- Packets that are decoded in two parts leave what they leave when decoded in one. -/
theorem transcribe_append_of_accepted
    {first : List Packet}
    {sink : Sink}
    (accepted : (session.transcribe first sink).result = .ok ())
    (second : List Packet) :
    let half := (session.transcribe first sink).state
    let later := half.session.transcribe second half.sink
    session.transcribe (first ++ second) sink =
      ⟨later.state, (session.transcribe first sink).log ++ later.log, later.result⟩ :=
  Outcome.run_append_of_accepted accepted second

/--
A sink that takes a number of bytes gets the whole output with its result if that is no longer, and
otherwise exactly its first bytes, with the sink's own failure.  Decoding the packets in two parts,
with the same session and the same sink, of which the first part is accepted, changes nothing.
-/
theorem transcribe_limited
    (session : Session)
    (packets : List Packet) :
    (∀ limit : Nat,
      let whole := session.transcribe packets {}
      let output := whole.state.sink.written
      let cut := session.transcribe packets { room := some limit }
      (output.size ≤ limit →
          cut.state.sink.written = output ∧
            cut.result = whole.result ∧ cut.state.session = whole.state.session) ∧
        (limit < output.size →
          cut.state.sink.written = output.extract 0 limit ∧ cut.result = .error .sinkFull)) ∧
      ∀ first second sink,
        packets = first ++ second →
          (session.transcribe first sink).result = .ok () →
            let half := (session.transcribe first sink).state
            let later := half.session.transcribe second half.sink
            let whole := session.transcribe packets sink
            later.state = whole.state ∧ later.result = whole.result := by
  constructor
  · intro limit whole output cut
    have limited : (⟨ByteArray.empty, some limit⟩ : Sink).room = some limit := rfl
    have isOutput : output = Transaction.bytes (session.transactions packets) :=
      written_of_unlimited session packets
    have isCut : cut.state.sink.written = output.extract 0 limit := by
      rw [isOutput, sink_transcribe, Sink.written_put_of_limited limited]
      exact ByteArray.empty_append
    constructor
    · intro small
      have fits : Sink.Fits ⟨ByteArray.empty, some limit⟩ output :=
        (Sink.fits_iff_of_limited limited).mpr small
      have kept : output.extract 0 limit = output := by
        rw [← Nat.max_eq_left small]
        exact ByteArray.extract_zero_max_size
      rw [isOutput] at fits
      exact ⟨isCut.trans kept, transcribe_of_fits fits⟩
    · intro large
      have overflow : ¬ Sink.Fits ⟨ByteArray.empty, some limit⟩ output := by
        rw [Sink.fits_iff_of_limited limited]
        exact Nat.not_le_of_lt large
      rw [isOutput] at overflow
      exact ⟨isCut, transcribe_of_not_fits overflow⟩
  · rintro first second sink rfl accepted half later whole
    have joined : whole = _ := transcribe_append_of_accepted accepted second
    rw [joined]
    exact ⟨rfl, rfl⟩

/--
A read and a write have a transcript of 250 bytes, and the packet behind them has no request type.
A sink that takes all the bytes lets this show; one that takes a byte less does not, and decoding
may go on in it after the read.
-/
theorem cut_before_untyped_request :
    let start : Session := { registers := twoFieldRegisters, device := "1.4.0" }
    let untyped : Packet :=
      { usb := { destination := "1.4.0", transferType := some "0x02" }, setup := some {} }
    let packets := readThenWrite ++ [untyped]
    let output := (start.transcribe packets {}).state.sink.written
    let read := readThenWrite.take 2
    let half := (start.transcribe read { room := some 249 }).state
    let later := half.session.transcribe (readThenWrite.drop 2 ++ [untyped]) half.sink
    output.size = 250 ∧
      (start.transcribe packets { room := some 250 }).state.sink.written = output ∧
        (start.transcribe packets { room := some 250 }).result =
            .error (.missingKey "usb.bmRequestType") ∧
          (start.transcribe packets { room := some 249 }).state.sink.written =
              output.extract 0 249 ∧
            (start.transcribe packets { room := some 249 }).result = .error .sinkFull ∧
              (start.transcribe read { room := some 249 }).result = .ok () ∧
                later.result = .error .sinkFull := by
  intro start untyped packets output read half later
  have size : output.size = 250 := by decide +kernel
  have small : output.size ≤ 250 := Nat.le_of_eq size
  have large : 249 < output.size := by
    rw [size]
    decide
  have refused : (start.transcribe packets {}).result = .error (.missingKey "usb.bmRequestType") :=
    rfl
  have fits :
      Sink.Fits ⟨ByteArray.empty, some 249⟩
        (Transaction.bytes (start.transactions read)) :=
    (Sink.fits_iff_of_limited rfl).mpr (by decide +kernel)
  have accepted : (start.transcribe read { room := some 249 }).result = .ok () :=
    (transcribe_of_fits fits).1
  rcases transcribe_limited start packets with ⟨limited, split⟩
  rcases (limited 250).1 small with ⟨whole, result, -⟩
  rcases (limited 249).2 large with ⟨part, full⟩
  rcases split _ (readThenWrite.drop 2 ++ [untyped]) _ rfl accepted with ⟨-, resumed⟩
  exact ⟨size, whole, result.trans refused, part, full, accepted, resumed.trans full⟩

end RegisterTrace.Session
