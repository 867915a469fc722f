import RegisterTrace.Proofs.Json.Text

/-!
# Strings that are kept

A string that is kept adds bytes one by one and, for an escape, all bytes of a character at once.
The bytes together are text exactly if they are whole characters, and then each escape is one of
these characters and the plain bytes are the others.  So the reader gives a text exactly for the
bytes that write its characters.
-/

namespace RegisterTrace.Json.Text

open Reader

variable
    {ending : Ending}
    {bytes rest : List UInt8}

/-! ## What a string adds up to -/

/-- The bytes that a string adds up to, and how they are written after its opening quote. -/
inductive KeptText : List UInt8 → List UInt8 → Prop where
  | close : KeptText [] [byte '"']
  | plain
      {value : UInt8}
      {meant rest : List UInt8}
      (isPlain : IsPlainByte value)
      (later : KeptText meant rest) :
      KeptText (value :: meant) (value :: rest)
  | escaped
      {character : Char}
      {part meant rest : List UInt8}
      (escape : EscapeText character part)
      (later : KeptText meant rest) :
      KeptText (String.utf8EncodeChar character ++ meant) (part ++ rest)

/-- Where the bytes go on inside a character, they stand for themselves. -/
theorem KeptText.exists_rest
    {inside meant text : List UInt8}
    (noStart : ∀ value ∈ inside, ¬ value.IsUTF8FirstByte)
    (kept : KeptText (inside ++ meant) text) :
    ∃ rest,
      text = inside ++ rest ∧
        (∀ value ∈ inside, IsPlainByte value) ∧ KeptText meant rest := by
  induction inside generalizing text with
  | nil => exact ⟨text, rfl, nofun, kept⟩
  | cons first more inductionHypothesis =>
      rcases List.forall_mem_cons.mp noStart with ⟨noStartFirst, noStartMore⟩
      generalize whole : first :: more ++ meant = given at kept
      cases kept with
      | close => cases whole
      | plain isPlain later =>
          rw [List.cons_append, List.cons.injEq] at whole
          rcases whole with ⟨rfl, rfl⟩
          rcases inductionHypothesis noStartMore later with ⟨rest, rfl, plain, keptRest⟩
          exact ⟨rest, rfl, List.forall_mem_cons.mpr ⟨isPlain, plain⟩, keptRest⟩
      | @escaped character part others rest escape later =>
          -- An escape starts a character.
          rcases Utf8.exists_utf8EncodeChar_eq_cons character with ⟨start, _, split, starts, -⟩
          rw [split, List.cons_append, List.cons_append, List.cons.injEq] at whole
          rw [whole.1] at noStartFirst
          exact absurd starts noStartFirst

theorem KeptText.of_plain
    {inside meant text : List UInt8}
    (plain : ∀ value ∈ inside, IsPlainByte value)
    (kept : KeptText meant text) :
    KeptText (inside ++ meant) (inside ++ text) := by
  induction inside with
  | nil => exact kept
  | cons first more inductionHypothesis =>
      rcases List.forall_mem_cons.mp plain with ⟨plainFirst, plainMore⟩
      exact .plain plainFirst (inductionHypothesis plainMore)

/-- The bytes of a character stand for themselves exactly if the character does. -/
theorem isPlain_iff
    {character : Char} :
    IsPlain character ↔ ∀ value ∈ String.utf8EncodeChar character, IsPlainByte value := by
  have controlCount : (0x20 : UInt8).toNat = 0x20 := rfl
  have quoteNumber : '"'.toNat = 0x22 := rfl
  have backslashNumber : '\\'.toNat = 0x5C := rfl
  have quoteByte : (byte '"').toNat = 0x22 := rfl
  have backslashByte : (byte '\\').toNat = 0x5C := rfl
  by_cases ascii : character.toNat < Utf8.asciiCount
  · rw [Utf8.utf8EncodeChar_of_lt ascii, IsPlain]
    have number : (byte character).toNat = character.toNat := toNat_byte ascii
    change _ ↔ ∀ value ∈ [byte character], _
    rw [List.forall_mem_singleton, IsPlainByte, UInt8.le_iff_toNat_le, ne_eq, ne_eq, ne_eq, ne_eq,
      ← UInt8.toNat_inj, ← UInt8.toNat_inj, ← Char.toNat_inj, ← Char.toNat_inj, number,
      controlCount, quoteNumber, backslashNumber, quoteByte, backslashByte]
  · have large := Nat.le_of_not_lt ascii
    rw [Utf8.asciiCount] at large
    refine iff_of_true ⟨by omega, ?_, ?_⟩ ?_
    · rintro rfl
      omega
    · rintro rfl
      omega
    · intro value member
      have above := Utf8.le_of_mem_utf8EncodeChar (Nat.le_of_not_lt ascii) member
      rw [Utf8.asciiCount] at above
      rw [IsPlainByte, UInt8.le_iff_toNat_le, controlCount]
      refine ⟨by omega, ?_, ?_⟩
      · rintro rfl
        omega
      · rintro rfl
        omega

/-- A string adds up to the bytes of characters exactly if it writes these characters. -/
theorem keptText_iff_stringText
    {characters : List Char}
    {text : List UInt8} :
    KeptText (characters.flatMap String.utf8EncodeChar) text ↔ StringText characters text := by
  constructor
  · intro kept
    induction characters generalizing text with
    | nil =>
        generalize whole : [].flatMap String.utf8EncodeChar = given at kept
        cases kept with
        | close => exact .close
        | plain isPlain later => cases whole
        | @escaped character part meant rest escape later =>
            rw [List.flatMap_nil, eq_comm, List.append_eq_nil_iff] at whole
            exact absurd whole.1 String.utf8EncodeChar_ne_nil
    | cons character more inductionHypothesis =>
        rw [List.flatMap_cons] at kept
        generalize whole :
          String.utf8EncodeChar character ++ more.flatMap String.utf8EncodeChar = given at kept
        cases kept with
        | close =>
            rw [List.append_eq_nil_iff] at whole
            exact absurd whole.1 String.utf8EncodeChar_ne_nil
        | @plain value meant text isPlain later =>
            rcases Utf8.exists_utf8EncodeChar_eq_cons character with
              ⟨start, inside, split, -, noStart⟩
            rw [split, List.cons_append, List.cons.injEq] at whole
            rcases whole with ⟨rfl, rfl⟩
            rcases later.exists_rest noStart with ⟨rest, rfl, plain, keptRest⟩
            have allPlain : IsPlain character := by
              rw [isPlain_iff, split]
              exact List.forall_mem_cons.mpr ⟨isPlain, plain⟩
            rw [← List.cons_append, ← split]
            exact .plain allPlain (inductionHypothesis keptRest)
        | @escaped other part meant rest escape later =>
            rcases Utf8.utf8EncodeChar_append_inj whole with ⟨rfl, rfl⟩
            exact .escaped escape (inductionHypothesis later)
  · intro written
    induction written with
    | close => exact .close
    | plain isPlain later inductionHypothesis =>
        exact inductionHypothesis.of_plain (isPlain_iff.mp isPlain)
    | escaped escape later inductionHypothesis => exact .escaped escape inductionHypothesis

/-! ## The reader -/

theorem run_finish_eq_ok_iff
    {reversed : List UInt8}
    {text : String} :
    (finish reversed).run ending bytes = .ok (text, rest) ↔
      Utf8.encode text = reversed.reverse ∧ bytes = rest := by
  rw [finish, ← Utf8.decode?_eq_some_iff]
  cases Utf8.decode? reversed.reverse with
  | none => exact iff_of_false nofun nofun
  | some found => rw [run_pure_eq_ok_iff, Option.some.injEq]

/-- The loop over a string ends with the text of the bytes before it and those it adds up to. -/
theorem run_keptLoop_eq_ok_iff
    {reversed : List UInt8}
    {text : String} :
    (loop keptStep (fun _ => .ended .text) reversed).run ending bytes = .ok (text, rest) ↔
      ∃ meant written,
        KeptText meant written ∧
          Utf8.encode text = reversed.reverse ++ meant ∧ bytes = written ++ rest := by
  constructor
  · intro read
    refine
      run_loop_induction
        (motive := fun before given =>
          ∃ meant written,
            KeptText meant written ∧
              Utf8.encode text = before.reverse ++ meant ∧ given = written ++ rest)
        ?_ ?_ read
    · intro before value tail stepRead
      rw [keptStep] at stepRead
      split at stepRead
      · next quote =>
          rcases run_bind_eq_ok_iff.mp stepRead with ⟨found, middle, finished, made⟩
          rcases run_pure_eq_ok_iff.mp made with ⟨same, rfl⟩
          cases same
          rcases run_finish_eq_ok_iff.mp finished with ⟨encoded, rfl⟩
          exact ⟨[], _, .close, by rw [encoded, List.append_nil], by rw [quote]; rfl⟩
      · split at stepRead
        · rcases run_bind_eq_ok_iff.mp stepRead with ⟨_, _, -, impossible⟩
          cases impossible
        · split at stepRead
          · cases stepRead
          · cases stepRead
    · rintro before value tail following middle stepRead ⟨meant, written, kept, encoded, rfl⟩
      rw [keptStep] at stepRead
      split at stepRead
      · rcases run_bind_eq_ok_iff.mp stepRead with ⟨_, _, -, impossible⟩
        cases impossible
      · next noQuote =>
          split at stepRead
          · next backslash =>
              rcases run_bind_eq_ok_iff.mp stepRead with ⟨added, left, escape, made⟩
              rcases run_pure_eq_ok_iff.mp made with ⟨same, rfl⟩
              cases same
              rcases run_escape_eq_ok_iff.mp escape with ⟨character, part, isEscape, rfl, rfl⟩
              refine ⟨_, _, .escaped isEscape kept, ?_, by rw [backslash]; simp⟩
              rw [encoded]
              simp
          · next noBackslash =>
              split at stepRead
              · cases stepRead
              · next noControl =>
                  rcases run_pure_eq_ok_iff.mp stepRead with ⟨same, rfl⟩
                  cases same
                  have isPlain : IsPlainByte value :=
                    ⟨UInt8.not_lt.mp noControl, noQuote, noBackslash⟩
                  refine ⟨_, _, .plain isPlain kept, ?_, rfl⟩
                  rw [encoded]
                  simp
  · rintro ⟨meant, written, kept, encoded, rfl⟩
    induction kept generalizing reversed with
    | close =>
        have finished : (finish reversed).run ending rest = .ok (text, rest) := by
          rw [run_finish_eq_ok_iff, encoded, List.append_nil]
          exact ⟨rfl, rfl⟩
        rw [List.singleton_append, run_loop_cons, keptStep, if_pos rfl, run_bind, finished]
        rfl
    | @plain value meant more isPlain later inductionHypothesis =>
        rcases isPlain with ⟨noControl, noQuote, noBackslash⟩
        rw [List.cons_append, run_loop_cons, keptStep, if_neg noQuote, if_neg noBackslash,
          if_neg (UInt8.not_lt.mpr noControl)]
        apply inductionHypothesis
        rw [encoded]
        simp
    | @escaped character part meant more isEscape later inductionHypothesis =>
        rcases exists_of_escapeText isEscape with ⟨written, rfl, -⟩
        have escape : escape.run ending (written ++ (more ++ rest)) =
            .ok (String.utf8EncodeChar character, more ++ rest) :=
          run_escape_eq_ok_iff.mpr ⟨character, written, isEscape, rfl, rfl⟩
        rw [List.cons_append, List.cons_append, List.append_assoc, run_loop_cons, keptStep,
          if_neg (by decide), if_pos rfl, run_bind, escape]
        apply inductionHypothesis
        rw [encoded]
        simp

/-- The reader of strings that are kept gives a text exactly for the bytes that write it. -/
theorem run_kept_eq_ok_iff
    {text : String} :
    kept.run ending bytes = .ok (text, rest) ↔
      ∃ written, StringText text.toList written ∧ bytes = written ++ rest := by
  rw [kept, run_keptLoop_eq_ok_iff]
  constructor
  · rintro ⟨meant, written, kept, encoded, rfl⟩
    rw [List.reverse_nil, List.nil_append] at encoded
    subst encoded
    exact ⟨written, keptText_iff_stringText.mp kept, rfl⟩
  · rintro ⟨written, isText, rfl⟩
    exact ⟨Utf8.encode text, written, keptText_iff_stringText.mpr isText, rfl, rfl⟩

/-! ## One string in two readings -/

theorem quotedText_of_plain
    {inside text : List UInt8}
    (plain : ∀ value ∈ inside, IsPlainByte value)
    (quoted : QuotedText text) :
    QuotedText (inside ++ text) := by
  induction inside with
  | nil => exact quoted
  | cons first more inductionHypothesis =>
      rcases List.forall_mem_cons.mp plain with ⟨plainFirst, plainMore⟩
      exact .plain plainFirst (inductionHypothesis plainMore)

/-- What writes characters has the form of a string. -/
theorem quotedText_of_stringText
    {characters : List Char}
    {text : List UInt8}
    (written : StringText characters text) :
    QuotedText text := by
  induction written with
  | close => exact .close
  | plain isPlain later inductionHypothesis =>
      exact quotedText_of_plain (isPlain_iff.mp isPlain) inductionHypothesis
  | escaped escape later inductionHypothesis =>
      cases escape with
      | short listed => exact .short listed inductionHypothesis
      | numbered written => exact .numbered written inductionHypothesis
      | paired leadingRange trailingRange same firstWritten secondWritten =>
          have both :=
            QuotedText.numbered firstWritten (.numbered secondWritten inductionHypothesis)
          simpa using both

/-- Two strings that bytes start with are one. -/
theorem quotedText_append_inj
    {left right leftRest rightRest : List UInt8}
    (leftQuoted : QuotedText left)
    (rightQuoted : QuotedText right)
    (same : left ++ leftRest = right ++ rightRest) :
    left = right ∧ leftRest = rightRest := by
  have leftRead : skipped.run .finished (left ++ leftRest) = .ok ((), leftRest) :=
    run_skipped_eq_ok_iff.mpr ⟨left, leftQuoted, rfl⟩
  have rightRead : skipped.run .finished (right ++ rightRest) = .ok ((), rightRest) :=
    run_skipped_eq_ok_iff.mpr ⟨right, rightQuoted, rfl⟩
  rw [same, rightRead] at leftRead
  cases leftRead
  exact ⟨List.append_cancel_right same, rfl⟩

/-- A string writes one text only. -/
theorem stringText_inj
    {left right : String}
    {text : List UInt8}
    (leftWritten : StringText left.toList text)
    (rightWritten : StringText right.toList text) :
    left = right := by
  have leftRead : kept.run .finished text = .ok (left, []) :=
    run_kept_eq_ok_iff.mpr ⟨text, leftWritten, (List.append_nil text).symm⟩
  have rightRead : kept.run .finished text = .ok (right, []) :=
    run_kept_eq_ok_iff.mpr ⟨text, rightWritten, (List.append_nil text).symm⟩
  rw [rightRead] at leftRead
  cases leftRead
  rfl

end RegisterTrace.Json.Text
