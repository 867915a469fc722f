import RegisterTrace.Json.Number
import RegisterTrace.Proofs.Json.Grammar
import RegisterTrace.Proofs.Json.Reader

/-!
# Skipping numbers

The reader of numbers that are skipped takes the longest number in front.  What it takes is a
number, and it takes a number whole if something follows that no number goes on with.
-/

namespace RegisterTrace.Json.Number

open Reader

variable
    {ending : Ending}
    {bytes rest : List UInt8}

/-! ## Where digits stop -/

/-- Something follows, and it is no digit. -/
def NoDigit (rest : List UInt8) : Prop :=
  ∃ value more, rest = value :: more ∧ isDigit value = false

/-- Something follows that is no digit and starts no further part of a number. -/
def NoNumber (rest : List UInt8) : Prop :=
  ∃ value more,
    rest = value :: more ∧
      isDigit value = false ∧ value ≠ byte '.' ∧ value ≠ byte 'e' ∧ value ≠ byte 'E'

theorem NoNumber.noDigit
    (stops : NoNumber rest) :
    NoDigit rest := by
  rcases stops with ⟨value, more, rfl, noDigit, -⟩
  exact ⟨value, more, rfl, noDigit⟩

theorem noNumber_of_ends
    (ends : Ends rest) :
    NoNumber rest := by
  rcases ends with ⟨value, more, rfl, space | rfl | rfl | rfl⟩
  · refine ⟨value, more, rfl, ?_⟩
    simp only [isSpace, Bool.or_eq_true, beq_iff_eq] at space
    rcases space with ((rfl | rfl) | rfl) | rfl
    all_goals decide
  all_goals exact ⟨_, more, rfl, by decide⟩

theorem run_span_digits
    {digits : List UInt8}
    (accepted : ∀ digit ∈ digits, isDigit digit)
    (stops : NoDigit rest) :
    (span isDigit).run ending (digits ++ rest) = .ok (digits, rest) := by
  rcases stops with ⟨value, more, rfl, noDigit⟩
  have taken : (digits ++ value :: more).takeWhile isDigit = digits := by
    rw [List.takeWhile_append_of_pos accepted, List.takeWhile_cons_of_neg (by simp [noDigit]),
      List.append_nil]
  have left : (digits ++ value :: more).dropWhile isDigit = value :: more := by
    rw [List.dropWhile_append_of_pos accepted, List.dropWhile_cons_of_neg (by simp [noDigit])]
  change Except.ok (_, _) = _
  rw [taken, left]

theorem of_run_span_digits
    {digits : List UInt8}
    (read : (span isDigit).run ending bytes = .ok (digits, rest)) :
    bytes = digits ++ rest ∧ ∀ digit ∈ digits, isDigit digit := by
  cases read
  refine ⟨List.takeWhile_append_dropWhile.symm, ?_⟩
  intro digit member
  exact List.all_eq_true.mp List.all_takeWhile digit member

theorem run_digits
    {digits : List UInt8}
    (accepted : ∀ digit ∈ digits, isDigit digit)
    (stops : NoDigit rest) :
    Number.digits.run ending (digits ++ rest) = .ok (digits, rest) := by
  rw [Number.digits, run_bind_of_ok (run_span_digits accepted stops)]
  rcases stops with ⟨value, more, rfl, -⟩
  rfl

theorem of_run_digits
    {digits : List UInt8}
    (read : Number.digits.run ending bytes = .ok (digits, rest)) :
    bytes = digits ++ rest ∧ ∀ digit ∈ digits, isDigit digit := by
  rw [Number.digits] at read
  rcases run_bind_eq_ok_iff.mp read with ⟨taken, middle, spanned, looked⟩
  rcases run_bind_eq_ok_iff.mp looked with ⟨found, later, peeked, made⟩
  rcases run_pure_eq_ok_iff.mp made with ⟨rfl, rfl⟩
  rcases run_peek_eq_ok_iff.mp peeked with ⟨rfl, -⟩
  exact of_run_span_digits spanned

/-! ## The three parts -/

theorem run_whole
    {atEnd : Fault}
    {first : UInt8}
    {more : List UInt8}
    (written : WholeText (first :: more))
    (stops : NoDigit rest) :
    (whole atEnd (some first)).run ending (more ++ rest) = .ok (first :: more, rest) := by
  rcases written with ⟨⟨-, accepted⟩, alone⟩
  rcases List.forall_mem_cons.mp accepted with ⟨firstDigit, moreDigits⟩
  rw [whole]
  by_cases zero : first = byte '0'
  · have onlyZero : more = [] := by
      have same := alone (by rw [zero, List.head?_cons])
      rw [zero, List.cons.injEq] at same
      exact same.2
    rcases stops with ⟨value, others, rfl, noDigit⟩
    rw [if_pos zero, onlyZero, List.nil_append, run_bind_of_ok (run_peek_cons value others)]
    simp only [noDigit, Bool.false_eq_true, if_false]
    rfl
  · rw [if_neg zero, if_pos firstDigit, run_bind_of_ok (run_digits moreDigits stops)]
    rfl

theorem of_run_whole
    {atEnd : Fault}
    {first : Option UInt8}
    {digits : List UInt8}
    (read : (whole atEnd first).run ending bytes = .ok (digits, rest)) :
    ∃ value more, first = some value ∧ WholeText (value :: more) ∧ bytes = more ++ rest := by
  unfold whole at read
  split at read
  · cases read
  · next value =>
      split at read
      · next zero =>
          have isWhole : WholeText [value] := by
            refine ⟨⟨List.cons_ne_nil _ _, ?_⟩, fun _ => by rw [zero]⟩
            rw [List.forall_mem_singleton, zero]
            decide
          rcases run_bind_eq_ok_iff.mp read with ⟨found, middle, peeked, made⟩
          rcases run_peek_eq_ok_iff.mp peeked with ⟨rfl, -⟩
          split at made
          · split at made
            · cases made
            · rcases run_pure_eq_ok_iff.mp made with ⟨-, rfl⟩
              exact ⟨value, [], rfl, isWhole, rfl⟩
          · rcases run_pure_eq_ok_iff.mp made with ⟨-, rfl⟩
            exact ⟨value, [], rfl, isWhole, rfl⟩
      · next notZero =>
          split at read
          · next firstDigit =>
              rcases run_bind_eq_ok_iff.mp read with ⟨more, middle, taken, made⟩
              rcases run_pure_eq_ok_iff.mp made with ⟨-, rfl⟩
              rcases of_run_digits taken with ⟨rfl, accepted⟩
              refine ⟨value, more, rfl, ⟨⟨List.cons_ne_nil _ _, ?_⟩, ?_⟩, rfl⟩
              · exact List.forall_mem_cons.mpr ⟨firstDigit, accepted⟩
              · intro isZero
                exact absurd (Option.some.inj isZero) notZero
          · cases read

theorem run_fraction?
    {atEnd : Fault}
    {text : List UInt8}
    (written : FractionText text)
    (stops : NoDigit rest)
    (noPoint : rest.head? ≠ some (byte '.')) :
    ∃ digits, (fraction? atEnd).run ending (text ++ rest) = .ok (digits, rest) := by
  rcases written with rfl | ⟨digits, ⟨nonempty, accepted⟩, rfl⟩
  · rcases stops with ⟨value, more, rfl, -⟩
    have differs : ¬ some value = some (byte '.') := noPoint
    refine ⟨[], ?_⟩
    rw [fraction?, List.nil_append, run_bind_of_ok (run_peek_cons value more), if_neg differs]
    rfl
  · refine ⟨digits, ?_⟩
    rw [fraction?, List.cons_append, run_bind_of_ok (run_peek_cons _ _), if_pos rfl,
      run_bind_of_ok (run_next_cons _ _), fraction, run_bind_of_ok (run_digits accepted stops)]
    cases digits with
    | nil => exact absurd rfl nonempty
    | cons first more => rfl

theorem of_run_fraction?
    {atEnd : Fault}
    {digits : List UInt8}
    (read : (fraction? atEnd).run ending bytes = .ok (digits, rest)) :
    ∃ text, FractionText text ∧ bytes = text ++ rest := by
  rw [fraction?] at read
  rcases run_bind_eq_ok_iff.mp read with ⟨found, middle, peeked, later⟩
  rcases run_peek_eq_ok_iff.mp peeked with ⟨rfl, head, -⟩
  split at later
  · next point =>
      rcases run_bind_eq_ok_iff.mp later with ⟨taken, left, nextRead, fractionRead⟩
      rw [fraction] at fractionRead
      rcases run_bind_eq_ok_iff.mp fractionRead with ⟨run, last, digitsRead, made⟩
      rcases of_run_digits digitsRead with ⟨rfl, accepted⟩
      rcases run_next_eq_ok_iff.mp nextRead with ⟨value, rfl, rfl⟩ | ⟨-, rfl, -⟩
      · rw [point, List.head?_cons, Option.some.injEq] at head
        split at made
        · rcases run_bind_eq_ok_iff.mp made with ⟨other, final, -, impossible⟩
          unfold noDigit at impossible
          split at impossible
          · cases impossible
          · cases impossible
        · next first more =>
            rcases run_pure_eq_ok_iff.mp made with ⟨-, rfl⟩
            exact ⟨_, .inr ⟨_, ⟨List.cons_ne_nil _ _, accepted⟩, rfl⟩, by rw [head]; rfl⟩
      · rw [point] at head
        cases head
  · rcases run_pure_eq_ok_iff.mp later with ⟨-, rfl⟩
    exact ⟨[], .inl rfl, rfl⟩

/-- The signs that may stand before the digits of an exponent. -/
def IsSign (sign : List UInt8) : Prop :=
  sign = [] ∨ sign = [byte '+'] ∨ sign = [byte '-']

theorem run_sign
    {sign : List UInt8}
    (isSign : IsSign sign)
    {first : UInt8}
    (digit : isDigit first)
    (more : List UInt8) :
    ∃ negative, Number.sign.run ending (sign ++ first :: more) = .ok (negative, first :: more) := by
  rcases isSign with rfl | rfl | rfl
  · have noPlus : ¬ some first = some (byte '+') := by
      rintro same
      cases same
      exact absurd digit (by decide)
    have noMinus : ¬ some first = some (byte '-') := by
      rintro same
      cases same
      exact absurd digit (by decide)
    refine ⟨false, ?_⟩
    rw [Number.sign, List.nil_append, run_bind_of_ok (run_peek_cons _ _), if_neg noPlus,
      if_neg noMinus]
    rfl
  · exact ⟨false, rfl⟩
  · exact ⟨true, rfl⟩

theorem of_run_sign
    {negative : Bool}
    (read : Number.sign.run ending bytes = .ok (negative, rest)) :
    ∃ sign, IsSign sign ∧ bytes = sign ++ rest := by
  rw [Number.sign] at read
  rcases run_bind_eq_ok_iff.mp read with ⟨found, middle, peeked, later⟩
  rcases run_peek_eq_ok_iff.mp peeked with ⟨rfl, head, -⟩
  split at later
  · next plus =>
      rcases run_bind_eq_ok_iff.mp later with ⟨taken, left, nextRead, made⟩
      rcases run_pure_eq_ok_iff.mp made with ⟨-, rfl⟩
      rcases run_next_eq_ok_iff.mp nextRead with ⟨value, rfl, rfl⟩ | ⟨-, rfl, -⟩
      · rw [plus, List.head?_cons, Option.some.injEq] at head
        exact ⟨[byte '+'], .inr (.inl rfl), by rw [head]; rfl⟩
      · rw [plus] at head
        cases head
  · split at later
    · next minus =>
        rcases run_bind_eq_ok_iff.mp later with ⟨taken, left, nextRead, made⟩
        rcases run_pure_eq_ok_iff.mp made with ⟨-, rfl⟩
        rcases run_next_eq_ok_iff.mp nextRead with ⟨value, rfl, rfl⟩ | ⟨-, rfl, -⟩
        · rw [minus, List.head?_cons, Option.some.injEq] at head
          exact ⟨[byte '-'], .inr (.inr rfl), by rw [head]; rfl⟩
        · rw [minus] at head
          cases head
    · rcases run_pure_eq_ok_iff.mp later with ⟨-, rfl⟩
      exact ⟨[], .inl rfl, rfl⟩

theorem run_exponent?
    {atEnd : Fault}
    {text : List UInt8}
    (written : ExponentText text)
    (stops : NoNumber rest) :
    ∃ found, (exponent? atEnd).run ending (text ++ rest) = .ok (found, rest) := by
  rcases written with rfl | ⟨mark, sign, digits, isMark, isSign, ⟨nonempty, accepted⟩, rfl⟩
  · rcases stops with ⟨value, more, rfl, -, -, noSmall, noLarge⟩
    have noMark : ¬ startsExponent (some value) := by
      simp only [startsExponent, Bool.or_eq_true, beq_iff_eq, Option.some.injEq, not_or]
      exact ⟨noSmall, noLarge⟩
    refine ⟨none, ?_⟩
    rw [exponent?, List.nil_append, run_bind_of_ok (run_peek_cons _ _), if_neg noMark]
    rfl
  · cases digits with
    | nil => exact absurd rfl nonempty
    | cons first more =>
        rcases List.forall_mem_cons.mp accepted with ⟨firstDigit, moreDigits⟩
        have starts : startsExponent (some mark) := by
          rcases isMark with rfl | rfl
          all_goals decide
        rcases @run_sign ending sign isSign first firstDigit (more ++ rest) with
          ⟨negative, signRead⟩
        refine ⟨some (negative, first :: more), ?_⟩
        rw [exponent?, List.cons_append, run_bind_of_ok (run_peek_cons _ _), if_pos starts,
          run_bind_of_ok (run_next_cons _ _), exponent, List.append_assoc, List.cons_append,
          bind_assoc, run_bind_of_ok signRead, bind_assoc, run_bind_of_ok (run_next_cons _ _)]
        simp only [firstDigit, if_true]
        rw [bind_assoc, run_bind_of_ok (run_span_digits moreDigits stops.noDigit)]
        rfl

theorem of_run_exponent?
    {atEnd : Fault}
    {found : Option (Bool × List UInt8)}
    (read : (exponent? atEnd).run ending bytes = .ok (found, rest)) :
    ∃ text, ExponentText text ∧ bytes = text ++ rest := by
  rw [exponent?] at read
  rcases run_bind_eq_ok_iff.mp read with ⟨looked, middle, peeked, later⟩
  rcases run_peek_eq_ok_iff.mp peeked with ⟨rfl, head, -⟩
  split at later
  · next starts =>
      rcases run_bind_eq_ok_iff.mp later with ⟨taken, left, nextRead, behindMark⟩
      rcases run_bind_eq_ok_iff.mp behindMark with ⟨parts, last, exponentRead, madeSome⟩
      rcases run_pure_eq_ok_iff.mp madeSome with ⟨-, rfl⟩
      rw [exponent] at exponentRead
      rcases run_bind_eq_ok_iff.mp exponentRead with ⟨negative, behindSign, signRead, digitsRead⟩
      rcases run_bind_eq_ok_iff.mp digitsRead with ⟨digit, behindDigit, digitRead, moreRead⟩
      rcases of_run_sign signRead with ⟨sign, isSign, rfl⟩
      split at moreRead
      · next first =>
          split at moreRead
          · next firstDigit =>
              rcases run_bind_eq_ok_iff.mp moreRead with ⟨more, final, spanned, made⟩
              rcases run_pure_eq_ok_iff.mp made with ⟨-, rfl⟩
              rcases of_run_span_digits spanned with ⟨rfl, moreDigits⟩
              rcases run_next_eq_ok_iff.mp digitRead with ⟨value, same, rfl⟩ | ⟨impossible, -⟩
              · cases same
                rcases run_next_eq_ok_iff.mp nextRead with ⟨mark, -, rfl⟩ | ⟨-, -, impossible, -⟩
                · rw [List.head?_cons] at head
                  subst head
                  simp only [startsExponent, Bool.or_eq_true, beq_iff_eq, Option.some.injEq]
                    at starts
                  have digits : Digits (first :: more) :=
                    ⟨List.cons_ne_nil _ _, List.forall_mem_cons.mpr ⟨firstDigit, moreDigits⟩⟩
                  exact ⟨_, .inr ⟨mark, sign, _, starts, isSign, digits, rfl⟩, by simp⟩
                · simp at impossible
              · cases impossible
          · cases moreRead
      · cases moreRead
  · rcases run_pure_eq_ok_iff.mp later with ⟨-, rfl⟩
    exact ⟨[], .inl rfl, rfl⟩

/-! ## Whole numbers -/

/-- Behind the digits in front stands a part of the number, or what no number goes on with. -/
theorem noDigit_exponentText
    {exponent : List UInt8}
    (exponentWritten : ExponentText exponent)
    (stops : NoNumber rest) :
    NoDigit (exponent ++ rest) ∧ (exponent ++ rest).head? ≠ some (byte '.') := by
  rcases exponentWritten with rfl | ⟨mark, sign, digits, rfl | rfl, -, -, rfl⟩
  · rcases stops with ⟨value, more, rfl, noDigit, noPoint, -⟩
    refine ⟨⟨value, more, rfl, noDigit⟩, ?_⟩
    intro same
    exact noPoint (Option.some.inj same)
  all_goals exact ⟨⟨_, _, rfl, by decide⟩, by simp; decide⟩

theorem noDigit_fractionText
    {fraction : List UInt8}
    (fractionWritten : FractionText fraction)
    (stops : NoDigit rest) :
    NoDigit (fraction ++ rest) := by
  rcases fractionWritten with rfl | ⟨digits, -, rfl⟩
  · exact stops
  · exact ⟨_, _, rfl, by decide⟩

/-- Takes the byte that the digits of a number start with, given the first byte of the number. -/
def leading (first : UInt8) : Reader (Option UInt8) :=
  if first = byte '-' then next else pure (some first)

theorem parts_eq_bind
    (atEnd : Fault)
    (first : UInt8) :
    Number.parts atEnd first =
      leading first >>= fun digit => do
        let whole ← whole atEnd digit
        let fraction ← fraction? atEnd
        let exponent ← exponent? atEnd
        return { negative := first = byte '-', whole, fraction, exponent } := by
  rw [Number.parts, leading]
  by_cases minus : first = byte '-'
  · simp only [minus, decide_true, if_true]
  · simp only [minus, decide_false, Bool.false_eq_true, if_false]

/-- A number is taken whole if something follows that no number goes on with. -/
theorem run_parts
    {atEnd : Fault}
    {first : UInt8}
    {more : List UInt8}
    (written : NumberText (first :: more))
    (stops : NoNumber rest) :
    ∃ parts, (Number.parts atEnd first).run ending (more ++ rest) = .ok (parts, rest) := by
  rcases written with
    ⟨sign, digits, fraction, exponent, isSign, wholeWritten, fractionWritten, exponentWritten,
      split⟩
  rcases noDigit_exponentText exponentWritten stops with ⟨stopsFraction, noPoint⟩
  have stopsWhole := noDigit_fractionText fractionWritten stopsFraction
  cases digits with
  | nil => exact absurd rfl wholeWritten.1.1
  | cons digit others =>
      have isDigit := wholeWritten.1.2 digit List.mem_cons_self
      have leadingRead :
          (leading first).run ending (more ++ rest) =
            .ok (some digit, others ++ (fraction ++ (exponent ++ rest))) := by
        rw [leading]
        rcases isSign with rfl | rfl
        · rw [List.nil_append, List.cons_append, List.cons.injEq] at split
          rcases split with ⟨rfl, rfl⟩
          have noMinus : ¬ first = byte '-' := by
            rintro rfl
            exact absurd isDigit (by decide)
          rw [if_neg noMinus]
          simp
        · rw [List.singleton_append, List.cons.injEq] at split
          rcases split with ⟨rfl, rfl⟩
          rw [if_pos rfl]
          simp
      have wholeRead := @run_whole ending _ atEnd digit others wholeWritten stopsWhole
      rcases @run_fraction? ending _ atEnd fraction fractionWritten stopsFraction noPoint with
        ⟨found, fractionRead⟩
      rcases @run_exponent? ending rest atEnd exponent exponentWritten stops with
        ⟨power, exponentRead⟩
      refine ⟨⟨decide (first = byte '-'), digit :: others, found, power⟩, ?_⟩
      rw [parts_eq_bind, run_bind_of_ok leadingRead, run_bind_of_ok wholeRead,
        run_bind_of_ok fractionRead, run_bind_of_ok exponentRead]
      rfl

/-- What is taken as a number is one. -/
theorem of_run_parts
    {atEnd : Fault}
    {first : UInt8}
    {parts : Parts}
    (read : (Number.parts atEnd first).run ending bytes = .ok (parts, rest)) :
    ∃ more, NumberText (first :: more) ∧ bytes = more ++ rest := by
  rw [parts_eq_bind] at read
  rcases run_bind_eq_ok_iff.mp read with ⟨digit, behindSign, leadingRead, wholeMore⟩
  rcases run_bind_eq_ok_iff.mp wholeMore with ⟨digits, behindWhole, wholeRead, fractionMore⟩
  rcases run_bind_eq_ok_iff.mp fractionMore with ⟨found, behindFraction, fractionRead, exponentMore⟩
  rcases run_bind_eq_ok_iff.mp exponentMore with ⟨power, behindExponent, exponentRead, made⟩
  rcases run_pure_eq_ok_iff.mp made with ⟨-, rfl⟩
  rcases of_run_whole wholeRead with ⟨value, others, rfl, wholeWritten, rfl⟩
  rcases of_run_fraction? fractionRead with ⟨fraction, fractionWritten, rfl⟩
  rcases of_run_exponent? exponentRead with ⟨exponent, exponentWritten, rfl⟩
  rw [leading] at leadingRead
  split at leadingRead
  · next minus =>
      rcases run_next_eq_ok_iff.mp leadingRead with ⟨taken, same, rfl⟩ | ⟨impossible, -⟩
      · cases same
        refine ⟨value :: others ++ (fraction ++ exponent), ?_, by simp⟩
        exact ⟨[byte '-'], _, fraction, exponent, .inr rfl, wholeWritten, fractionWritten,
          exponentWritten, by rw [minus]; rfl⟩
      · cases impossible
  · rcases run_pure_eq_ok_iff.mp leadingRead with ⟨same, rfl⟩
    cases same
    refine ⟨others ++ (fraction ++ exponent), ?_, by simp⟩
    exact ⟨[], _, fraction, exponent, .inl rfl, wholeWritten, fractionWritten, exponentWritten, rfl⟩

theorem run_skipped
    {first : UInt8}
    {more : List UInt8}
    (written : NumberText (first :: more))
    (ends : Ends rest) :
    (skipped first).run ending (more ++ rest) = .ok ((), rest) := by
  rcases @run_parts ending rest (.malformed .invalidNumber) first more written
    (noNumber_of_ends ends) with ⟨parts, partsRead⟩
  rcases ends with ⟨value, others, rfl, -⟩
  rw [skipped, run_bind_of_ok partsRead, run_bind_of_ok (run_peek_cons _ _)]
  rfl

theorem of_run_skipped
    {first : UInt8}
    {result : Unit}
    (read : (skipped first).run ending bytes = .ok (result, rest)) :
    ∃ more, NumberText (first :: more) ∧ bytes = more ++ rest := by
  rw [skipped] at read
  rcases run_bind_eq_ok_iff.mp read with ⟨parts, middle, partsRead, later⟩
  rcases run_bind_eq_ok_iff.mp later with ⟨found, last, peeked, made⟩
  rcases run_pure_eq_ok_iff.mp made with ⟨-, rfl⟩
  rcases run_peek_eq_ok_iff.mp peeked with ⟨rfl, -⟩
  exact of_run_parts partsRead

end RegisterTrace.Json.Number
