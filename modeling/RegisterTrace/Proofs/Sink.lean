import RegisterTrace.Sink

/-!
# What a sink keeps

A sink keeps as much of the bytes put to it as there is room for.  Bytes that fit are kept whole,
and a sink that could not keep all of some bytes is full and keeps nothing of what comes after them.
-/

namespace RegisterTrace.Sink

/-- There is room for some bytes in a sink. -/
def Fits (sink : Sink) (bytes : ByteArray) : Prop :=
  ∀ room, sink.room = some room → bytes.size ≤ room

/-- The sink once bytes were put to it, as many of them as there is room for. -/
def put (sink : Sink) (bytes : ByteArray) : Sink :=
  match sink.room with
  | none => { sink with written := sink.written ++ bytes }
  | some room => ⟨sink.written ++ bytes.extract 0 room, some (room - bytes.size)⟩

variable {sink : Sink}

@[simp]
theorem put_empty : sink.put ByteArray.empty = sink := by
  rcases sink with ⟨written, _ | room⟩
  · simp only [put, ByteArray.append_empty]
  · have nothing : ByteArray.empty.extract 0 room = ByteArray.empty := by
      simp
    simp only [put, nothing, ByteArray.append_empty, ByteArray.size_empty, Nat.sub_zero]

@[simp]
theorem fits_empty : sink.Fits ByteArray.empty := by
  intro room limited
  exact Nat.zero_le room

theorem fits_of_unlimited
    (unlimited : sink.room = none)
    (bytes : ByteArray) :
    sink.Fits bytes := by
  intro room limited
  rw [unlimited] at limited
  cases limited

/-- Bytes that fit are kept whole. -/
theorem Fits.written_put
    {bytes : ByteArray}
    (fits : sink.Fits bytes) :
    (sink.put bytes).written = sink.written ++ bytes := by
  rcases sink with ⟨written, _ | room⟩
  · rfl
  · have whole : bytes.extract 0 room = bytes := by
      rw [← Nat.max_eq_left (fits room rfl)]
      exact ByteArray.extract_zero_max_size
    rw [put]
    simp only [whole]

/-- A sink with limited room keeps as many of the bytes as there is room for. -/
theorem written_put_of_limited
    {room : Nat}
    (limited : sink.room = some room)
    (bytes : ByteArray) :
    (sink.put bytes).written = sink.written ++ bytes.extract 0 room := by
  simp only [put, limited]

theorem fits_iff_of_limited
    {room : Nat}
    (limited : sink.room = some room)
    {bytes : ByteArray} :
    sink.Fits bytes ↔ bytes.size ≤ room := by
  simp only [Fits, limited, Option.some.injEq, forall_eq']

/-- Bytes put one after another are put together. -/
theorem put_append
    (first second : ByteArray) :
    sink.put (first ++ second) = (sink.put first).put second := by
  rcases sink with ⟨written, _ | room⟩
  · simp only [put, ByteArray.append_assoc]
  · simp only [put, ByteArray.extract_append, ByteArray.size_append, ByteArray.append_assoc,
      Nat.zero_sub, Nat.sub_sub]

/-- There is room for two parts exactly if there is room for the first, and then for the second. -/
theorem fits_append_iff
    {first second : ByteArray} :
    sink.Fits (first ++ second) ↔ sink.Fits first ∧ (sink.put first).Fits second := by
  rcases sink with ⟨written, _ | room⟩
  · exact ⟨fun _ => ⟨fits_of_unlimited rfl _, fits_of_unlimited rfl _⟩,
      fun _ => fits_of_unlimited rfl _⟩
  · simp only [Fits, put, Option.some.injEq, forall_eq', ByteArray.size_append]
    omega

/-- Once some bytes did not fit, nothing more is kept. -/
theorem put_append_of_not_fits
    {first : ByteArray}
    (overflow : ¬ sink.Fits first)
    (second : ByteArray) :
    sink.put (first ++ second) = sink.put first := by
  rcases sink with ⟨written, _ | room⟩
  · exact absurd (fits_of_unlimited rfl first) overflow
  · have tooMuch : room < first.size := by
      simpa only [Fits, Option.some.injEq, forall_eq', Nat.not_le] using overflow
    have full : room - first.size = 0 := Nat.sub_eq_zero_of_le (Nat.le_of_lt tooMuch)
    rw [put_append]
    simp only [put, full, ByteArray.extract_same, ByteArray.append_empty, Nat.zero_sub]

theorem take?_of_fits
    {text : String}
    (fits : sink.Fits text.toUTF8) :
    sink.take? text = some (sink.put text.toUTF8) := by
  have whole := fits.written_put
  rcases sink with ⟨written, _ | room⟩
  · rfl
  · have enough : text.toUTF8.size ≤ room := fits room rfl
    simp only [put] at whole
    simp only [take?, put, whole, if_pos enough]

/-- A text that does not fit is not taken, and fills the sink. -/
theorem take?_of_not_fits
    {text : String}
    (overflow : ¬ sink.Fits text.toUTF8) :
    sink.take? text = none ∧ sink.fill text = sink.put text.toUTF8 := by
  rcases sink with ⟨written, _ | room⟩
  · exact absurd (fits_of_unlimited rfl _) overflow
  · have tooMuch : ¬ text.toUTF8.size ≤ room := by
      simpa only [Fits, Option.some.injEq, forall_eq'] using overflow
    have full : room - text.toUTF8.size = 0 := by omega
    constructor
    · simp only [take?, if_neg tooMuch]
    · simp only [fill, put, full]

end RegisterTrace.Sink
