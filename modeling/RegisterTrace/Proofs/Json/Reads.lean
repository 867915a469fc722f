import RegisterTrace.Json.Record
import RegisterTrace.Proofs.Json.Brackets
import RegisterTrace.Proofs.Json.Skip

/-!
# Readers of what is written

A reader reads what is written if it gives a value exactly for the texts that write this value,
behind spaces and whatever follows.  Readers of strings and of values that may be absent do, and
lists of what can be read can be read.
-/

namespace RegisterTrace.Json

open Reader

variable
    {Value : Type}
    {ending : Ending}
    {bytes rest : List UInt8}

/-- A reader gives a value exactly for the texts that write it, all of which are values. -/
structure Reads (reader : Reader Value) (written : Value → List UInt8 → Prop) : Prop where
  run_eq_ok_iff :
    ∀ {ending bytes value rest},
      reader.run ending bytes = .ok (value, rest) ↔
        ∃ gap text, Spaces gap ∧ written value text ∧ bytes = gap ++ (text ++ rest)
  valueText : ∀ {value text}, written value text → ValueText text

/-- How a text is written as a string. -/
def TextValue (text : String) (bytes : List UInt8) : Prop :=
  ∃ written, StringText text.toList written ∧ bytes = byte '"' :: written

/-- The word for the absence of a value. -/
def nullWord : List UInt8 :=
  "null".toList.map byte

/-- How a value that may be absent is written. -/
def OptionalValue (written : Value → List UInt8 → Prop) : Option Value → List UInt8 → Prop
  | none, bytes => bytes = nullWord
  | some value, bytes => written value bytes

/-- How a list of values is written. -/
def ListValue (written : Value → List UInt8 → Prop) (values : List Value) (bytes : List UInt8) :
    Prop :=
  ∃ items, ListText items bytes ∧ List.Forall₂ written values items

/-! ## Strings -/

/-- A value of another kind than the one wanted is never read. -/
theorem run_wrongKind_ne_ok
    (wanted : String)
    (first : UInt8)
    (result : Value × List UInt8) :
    (wrongKind wanted first : Reader Value).run ending bytes ≠ .ok result := by
  intro read
  unfold wrongKind at read
  rcases result with ⟨value, left⟩
  split at read
  · rcases run_bind_eq_ok_iff.mp read with ⟨_, _, -, impossible⟩
    cases impossible
  split at read
  · rcases run_bind_eq_ok_iff.mp read with ⟨_, _, -, impossible⟩
    cases impossible
  split at read
  · rcases run_bind_eq_ok_iff.mp read with ⟨_, _, -, impossible⟩
    cases impossible
  split at read
  · rcases run_bind_eq_ok_iff.mp read with ⟨_, _, -, impossible⟩
    cases impossible
  split at read
  · rcases run_bind_eq_ok_iff.mp read with ⟨_, _, -, impossible⟩
    cases impossible
  split at read
  · cases read
  split at read
  · cases read
  · cases read

theorem valueText_of_textValue
    {text : String}
    (written : TextValue text bytes) :
    ValueText bytes := by
  rcases written with ⟨quoted, isText, rfl⟩
  exact .text (Text.quotedText_of_stringText isText)

theorem reads_text : Reads Reader.text TextValue where
  valueText := valueText_of_textValue
  run_eq_ok_iff := by
    intro ending bytes text rest
    have quoteNoSpace : isSpace (byte '"') = false := by decide
    constructor
    · intro read
      rw [Reader.text] at read
      rcases run_bind_eq_ok_iff.mp read with ⟨found, middle, taken, later⟩
      cases found with
      | none => cases later
      | some first =>
          simp only at later
          split at later
          · next quote =>
              rw [quote] at taken
              rcases (run_nextToken_eq_some_iff.mp taken).2 with ⟨gap, spaces, rfl⟩
              rcases Text.run_kept_eq_ok_iff.mp later with ⟨written, isText, rfl⟩
              exact ⟨gap, byte '"' :: written, spaces, ⟨written, isText, rfl⟩, rfl⟩
          · exact absurd later (run_wrongKind_ne_ok _ _ _)
    · rintro ⟨gap, _, spaces, ⟨written, isText, rfl⟩, rfl⟩
      rw [Reader.text, List.cons_append,
        run_bind_of_ok (run_nextToken_of_gap spaces quoteNoSpace (written ++ rest))]
      simp only [if_true]
      exact Text.run_kept_eq_ok_iff.mpr ⟨written, isText, rfl⟩

/-! ## Values that may be absent -/

theorem valueText_nullWord : ValueText nullWord :=
  .word (by decide)

theorem Reads.optional
    {reader : Reader Value}
    {written : Value → List UInt8 → Prop}
    (reads : Reads reader written)
    (notNull : ∀ value text, written value text → text.head? ≠ some (byte 'n')) :
    Reads (Reader.optional reader) (OptionalValue written) where
  valueText := by
    intro value text isWritten
    cases value with
    | none =>
        rw [OptionalValue] at isWritten
        rw [isWritten]
        exact valueText_nullWord
    | some value => exact reads.valueText isWritten
  run_eq_ok_iff := by
    intro ending bytes value rest
    have noSpace : isSpace (byte 'n') = false := by decide
    have nullSplit : nullWord = byte 'n' :: "ull".toList.map byte := rfl
    constructor
    · intro read
      rw [Reader.optional] at read
      rcases run_bind_eq_ok_iff.mp read with ⟨found, middle, looked, later⟩
      rcases run_peekToken_eq_ok_iff.mp looked with ⟨gap, spaces, rfl, head, -, -⟩
      split at later
      · next isNull =>
          rcases run_bind_eq_ok_iff.mp later with ⟨taken, left, nextRead, wordMore⟩
          rcases run_bind_eq_ok_iff.mp wordMore with ⟨_, last, wordRead, made⟩
          rcases run_pure_eq_ok_iff.mp made with ⟨rfl, rfl⟩
          rw [run_word_eq_ok_iff] at wordRead
          rcases run_next_eq_ok_iff.mp nextRead with ⟨first, rfl, rfl⟩ | ⟨-, rfl, -⟩
          · rw [isNull, List.head?_cons, Option.some.injEq] at head
            refine ⟨gap, nullWord, spaces, rfl, ?_⟩
            rw [head, wordRead, nullSplit, List.cons_append]
          · rw [isNull] at head
            cases head
      · rcases run_bind_eq_ok_iff.mp later with ⟨present, last, presentRead, made⟩
        rcases run_pure_eq_ok_iff.mp made with ⟨rfl, rfl⟩
        rcases reads.run_eq_ok_iff.mp presentRead with ⟨gapMore, text, spacesMore, isWritten, rfl⟩
        refine ⟨gap ++ gapMore, text, ?_, isWritten, (List.append_assoc _ _ _).symm⟩
        exact List.forall_mem_append.mpr ⟨spaces, spacesMore⟩
    · rintro ⟨gap, text, spaces, isWritten, rfl⟩
      cases value with
      | none =>
          rw [OptionalValue] at isWritten
          have wordRead : (word ("ull".toList.map byte)).run ending
              ("ull".toList.map byte ++ rest) = .ok ((), rest) :=
            run_word_eq_ok_iff.mpr rfl
          rw [isWritten, nullSplit, List.cons_append, Reader.optional,
            run_bind_of_ok (run_peekToken_of_gap spaces noSpace _), if_pos rfl,
            run_bind_of_ok (run_next_cons _ _), run_bind_of_ok wordRead]
          rfl
      | some value =>
          rcases (reads.valueText isWritten).exists_head with ⟨first, more, rfl, starts⟩
          have notN : ¬ some first = some (byte 'n') := notNull value _ isWritten
          have presentRead : reader.run ending (first :: (more ++ rest)) = .ok (value, rest) :=
            reads.run_eq_ok_iff.mpr ⟨[], _, spaces_nil, isWritten, rfl⟩
          rw [Reader.optional, List.cons_append,
            run_bind_of_ok (run_peekToken_of_gap spaces (isSpace_of_startsValue starts) _),
            if_neg notN, run_bind_of_ok presentRead]
          rfl

/-! ## Lists -/

theorem isSpace_bracket : isSpace (byte ']') = false := by
  decide

theorem run_itemAfterComma_eq_ok_iff
    {result : Unit} :
    itemAfterComma.run ending bytes = .ok (result, rest) ↔
      ∃ gap value more,
        Spaces gap ∧
          isSpace value = false ∧
            value ≠ byte ']' ∧ rest = value :: more ∧ bytes = gap ++ value :: more := by
  rw [itemAfterComma, run_bind_eq_ok_iff]
  constructor
  · rintro ⟨found, middle, looked, later⟩
    rcases run_peekToken_eq_ok_iff.mp looked with ⟨gap, spaces, rfl, head, noSpace, -⟩
    cases found with
    | none => cases later
    | some value =>
        simp only at later
        split at later
        · cases later
        · next noBracket =>
            rcases run_pure_eq_ok_iff.mp later with ⟨-, rfl⟩
            rcases List.head?_eq_some_iff.mp head with ⟨more, rfl⟩
            exact ⟨gap, value, more, spaces, noSpace value rfl, noBracket, rfl, rfl⟩
  · rintro ⟨gap, value, more, spaces, noSpace, noBracket, rfl, rfl⟩
    refine ⟨some value, value :: more, run_peekToken_of_gap spaces noSpace more, ?_⟩
    simp only [if_neg noBracket]
    rfl

variable
    {item : Reader Value}
    {written : Value → List UInt8 → Prop}

/-- A text adds the value that it writes to the values before it, which stand last to first. -/
def TakesValue
    (written : Value → List UInt8 → Prop)
    (reversed : List Value)
    (text : List UInt8)
    (following : List Value) :
    Prop :=
  ∃ value, written value text ∧ following = value :: reversed

/-- The loop over the rest of a list takes values. -/
theorem Reads.takesItems_listStep
    (reads : Reads item written) :
    TakesItems ending (byte ']') (listStep item) (TakesValue written)
      fun reversed values => values = reversed.reverse where
  closes := .inl rfl
  space := by
    intro state value space
    rw [listStep, if_pos space]
  close := by
    intro reversed bytes turn rest
    rw [listStep, if_neg (by decide), if_pos rfl, run_pure_eq_ok_iff]
    simp [eq_comm]
  of_comma := by
    intro reversed bytes turn rest stepRead
    rw [listStep, if_neg (by decide), if_neg (by decide), if_pos rfl] at stepRead
    rcases run_bind_eq_ok_iff.mp stepRead with ⟨_, behindComma, commaRead, itemMore⟩
    rcases run_bind_eq_ok_iff.mp itemMore with ⟨value, behindItem, itemRead, made⟩
    rcases run_pure_eq_ok_iff.mp made with ⟨rfl, rfl⟩
    rcases run_itemAfterComma_eq_ok_iff.mp commaRead with
      ⟨gap, first, more, spaces, -, -, rfl, rfl⟩
    rcases reads.run_eq_ok_iff.mp itemRead with ⟨gapMore, text, spacesMore, isWritten, split⟩
    have spacesBoth : Spaces (gap ++ gapMore) := List.forall_mem_append.mpr ⟨spaces, spacesMore⟩
    exact
      ⟨gap ++ gapMore, text, _, spacesBoth, ⟨value, isWritten, rfl⟩, rfl, by rw [split]; simp⟩
  comma := by
    rintro reversed gap text _ rest spaces ⟨value, isWritten, rfl⟩ -
    rcases (reads.valueText isWritten).exists_head with ⟨first, more, split, starts⟩
    have commaRead : itemAfterComma.run ending (gap ++ (text ++ rest)) = .ok ((), text ++ rest) :=
      run_itemAfterComma_eq_ok_iff.mpr
        ⟨gap, first, more ++ rest, spaces, isSpace_of_startsValue starts,
          (ne_of_startsValue starts).2.1, by rw [split]; rfl, by rw [split]; rfl⟩
    have itemRead : item.run ending (text ++ rest) = .ok (value, rest) :=
      reads.run_eq_ok_iff.mpr ⟨[], text, spaces_nil, isWritten, rfl⟩
    rw [listStep, if_neg (by decide), if_neg (by decide), if_pos rfl, run_bind_of_ok commaRead,
      run_bind_of_ok itemRead]
    rfl
  other := by
    intro reversed value bytes turn rest noSpace noClosing noComma stepRead
    rw [listStep, if_neg (by simp [noSpace]), if_neg noClosing, if_neg noComma] at stepRead
    cases stepRead

theorem gives_takesValue_iff
    {reversed values : List Value}
    {texts : List (List UInt8)} :
    Gives (TakesValue written) (fun reversed values => values = reversed.reverse) reversed texts
        values ↔
      ∃ later, List.Forall₂ written later texts ∧ values = reversed.reverse ++ later := by
  constructor
  · intro gives
    induction gives with
    | finish finished => exact ⟨[], .nil, by rw [finished, List.append_nil]⟩
    | take taken _ inductionHypothesis =>
        rcases taken with ⟨value, isWritten, rfl⟩
        rcases inductionHypothesis with ⟨later, all, rfl⟩
        exact ⟨value :: later, .cons isWritten all, by simp⟩
  · rintro ⟨later, all, rfl⟩
    induction all generalizing reversed with
    | nil => exact .finish (List.append_nil _)
    | @cons value text later texts isWritten _ inductionHypothesis =>
        refine .take ⟨value, isWritten, rfl⟩ ?_
        have given := @inductionHypothesis (value :: reversed)
        rw [List.reverse_cons, List.append_assoc, List.singleton_append] at given
        exact given

/-- The rest of a list gives the items before it and those that it writes. -/
theorem Reads.run_listLoop_eq_ok_iff
    (reads : Reads item written)
    {reversed values : List Value} :
    (loop (listStep item) (fun _ => .ended .list) reversed).run ending bytes = .ok (values, rest) ↔
      ∃ texts text,
        Following (byte ']') texts text ∧
          (∃ later, List.Forall₂ written later texts ∧ values = reversed.reverse ++ later) ∧
            bytes = text ++ rest := by
  simp only [reads.takesItems_listStep.run_loop_eq_ok_iff, gives_takesValue_iff]

theorem run_hasFirstItem_eq_ok_iff
    {more : Bool} :
    hasFirstItem.run ending bytes = .ok (more, rest) ↔
      ∃ gap value tail,
        Spaces gap ∧
          isSpace value = false ∧
            more = (value != byte ']') ∧ rest = value :: tail ∧ bytes = gap ++ value :: tail := by
  rw [hasFirstItem, run_bind_eq_ok_iff]
  constructor
  · rintro ⟨found, middle, looked, later⟩
    rcases run_peekToken_eq_ok_iff.mp looked with ⟨gap, spaces, rfl, head, noSpace, -⟩
    cases found with
    | none => cases later
    | some value =>
        rcases run_pure_eq_ok_iff.mp later with ⟨rfl, rfl⟩
        rcases List.head?_eq_some_iff.mp head with ⟨tail, rfl⟩
        exact ⟨gap, value, tail, spaces, noSpace value rfl, rfl, rfl, rfl⟩
  · rintro ⟨gap, value, tail, spaces, noSpace, rfl, rfl, rfl⟩
    exact ⟨some value, value :: tail, run_peekToken_of_gap spaces noSpace tail, rfl⟩

/-- A list that closes before any comma has the items that were read. -/
theorem run_listLoop_close
    (reversed : List Value) :
    (loop (listStep item) (fun _ => .ended .list) reversed).run ending (byte ']' :: rest) =
      .ok (reversed.reverse, rest) := by
  rw [run_loop_cons]
  rfl

theorem items_eq_bind
    (item : Reader Value) :
    items item =
      hasFirstItem >>= fun more =>
        if more then
          item >>= fun first => loop (listStep item) (fun _ => .ended .list) [first]
        else
          loop (listStep item) (fun _ => .ended .list) [] := by
  rw [items]
  congr 1

theorem Reads.run_items_eq_ok_iff
    (reads : Reads item written)
    {values : List Value} :
    (items item).run ending bytes = .ok (values, rest) ↔
      ∃ texts text,
        Opened (byte ']') texts text ∧
          List.Forall₂ written values texts ∧ bytes = text ++ rest := by
  rw [items_eq_bind, run_bind_eq_ok_iff]
  constructor
  · rintro ⟨more, middle, looked, later⟩
    rcases run_hasFirstItem_eq_ok_iff.mp looked with
      ⟨gap, first, tail, spaces, noSpace, rfl, rfl, rfl⟩
    split at later
    · rcases run_bind_eq_ok_iff.mp later with ⟨value, behindItem, itemRead, loopRead⟩
      rcases reads.run_eq_ok_iff.mp itemRead with ⟨gapMore, itemText, spacesMore, isWritten, split⟩
      rcases reads.run_listLoop_eq_ok_iff.mp loopRead with
        ⟨texts, text, following, ⟨others, all, rfl⟩, rfl⟩
      have spacesBoth : Spaces (gap ++ gapMore) :=
        List.forall_mem_append.mpr ⟨spaces, spacesMore⟩
      refine ⟨itemText :: texts, _, .items spacesBoth following, .cons isWritten all, ?_⟩
      rw [split]
      simp
    · next closes =>
        have closing : first = byte ']' := by simpa using closes
        rw [closing] at later ⊢
        rw [run_listLoop_close] at later
        cases later
        exact ⟨[], gap ++ [byte ']'], .empty spaces, .nil, by simp⟩
  · rintro ⟨texts, text, opened, all, rfl⟩
    cases opened with
    | @empty gap spaces =>
        cases all
        refine ⟨false, byte ']' :: rest, ?_, ?_⟩
        · exact run_hasFirstItem_eq_ok_iff.mpr
            ⟨gap, byte ']', rest, spaces, isSpace_bracket, rfl, rfl, by simp⟩
        · rw [if_neg Bool.false_ne_true, run_listLoop_close]
          rfl
    | @items gap itemText others moreTexts spaces following =>
        cases all with
        | @cons value _ laterValues _ isWritten laterWritten =>
            rcases (reads.valueText isWritten).exists_head with ⟨first, more, rfl, starts⟩
            have itemRead :
                item.run ending (first :: more ++ (others ++ rest)) = .ok (value, others ++ rest) :=
              reads.run_eq_ok_iff.mpr ⟨[], first :: more, spaces_nil, isWritten, rfl⟩
            have noBracket : (first != byte ']') = true := by
              simpa using (ne_of_startsValue starts).2.1
            refine ⟨true, first :: more ++ (others ++ rest), ?_, ?_⟩
            · exact run_hasFirstItem_eq_ok_iff.mpr
                ⟨gap, first, more ++ (others ++ rest), spaces, isSpace_of_startsValue starts,
                  noBracket.symm, rfl, by simp⟩
            · rw [if_pos rfl, run_bind_of_ok itemRead]
              exact reads.run_listLoop_eq_ok_iff.mpr
                ⟨moreTexts, others, following, ⟨laterValues, laterWritten, rfl⟩, rfl⟩

/-- An item of a list has a partner in another list that is related to it item by item. -/
theorem exists_of_forall₂
    {Item Other : Type}
    {related : Item → Other → Prop}
    {given : List Item}
    {others : List Other}
    (itemwise : List.Forall₂ related given others) :
    ∀ item ∈ given, ∃ other ∈ others, related item other := by
  induction itemwise with
  | nil => exact nofun
  | @cons item other given others isRelated _ inductionHypothesis =>
      refine List.forall_mem_cons.mpr ⟨⟨other, List.mem_cons_self, isRelated⟩, ?_⟩
      intro later isLater
      rcases inductionHypothesis later isLater with ⟨partner, isPartner, laterRelated⟩
      exact ⟨partner, List.mem_cons_of_mem _ isPartner, laterRelated⟩

theorem Reads.forall_valueText
    (reads : Reads item written)
    {values : List Value}
    {texts : List (List UInt8)}
    (all : List.Forall₂ written values texts) :
    ∀ text ∈ texts, ValueText text := by
  intro text isText
  rcases exists_of_forall₂ all.flip text isText with ⟨value, -, isWritten⟩
  exact reads.valueText isWritten

/-- A list of what can be read can be read. -/
theorem Reads.list
    (reads : Reads item written) :
    Reads (Reader.list item) (ListValue written) where
  valueText := by
    rintro values text ⟨texts, isList, all⟩
    exact .list isList (reads.forall_valueText all)
  run_eq_ok_iff := by
    intro ending bytes values rest
    have noSpace : isSpace (byte '[') = false := by decide
    constructor
    · intro read
      rw [Reader.list] at read
      rcases run_bind_eq_ok_iff.mp read with ⟨found, middle, taken, later⟩
      cases found with
      | none => cases later
      | some first =>
          simp only at later
          split at later
          · next opening =>
              rw [opening] at taken
              rcases (run_nextToken_eq_some_iff.mp taken).2 with ⟨gap, spaces, rfl⟩
              rcases reads.run_items_eq_ok_iff.mp later with ⟨texts, text, opened, all, rfl⟩
              exact ⟨gap, _, spaces, ⟨texts, ⟨text, opened, rfl⟩, all⟩, rfl⟩
          · exact absurd later (run_wrongKind_ne_ok _ _ _)
    · rintro ⟨gap, _, spaces, ⟨texts, ⟨text, opened, rfl⟩, all⟩, rfl⟩
      rw [Reader.list, List.cons_append,
        run_bind_of_ok (run_nextToken_of_gap spaces noSpace (text ++ rest))]
      simp only [if_true]
      exact reads.run_items_eq_ok_iff.mpr ⟨texts, text, opened, all, rfl⟩

/-! ## Documents -/

/-- A document is one text and spaces around it, and it is whole only where the source ends. -/
theorem Reads.run_document_eq_ok_iff
    (reads : Reads item written)
    {value : Value} :
    (document item).run ending bytes = .ok (value, rest) ↔
      ending = .finished ∧
        rest = [] ∧
          ∃ before text after,
            Spaces before ∧
              written value text ∧ Spaces after ∧ bytes = before ++ (text ++ after) := by
  rw [document, run_bind_eq_ok_iff]
  constructor
  · rintro ⟨found, middle, contentRead, later⟩
    rcases run_bind_eq_ok_iff.mp later with ⟨token, last, looked, made⟩
    rcases run_peekToken_eq_ok_iff.mp looked with ⟨after, spacesAfter, rfl, head, -, atEnd⟩
    cases token with
    | some first => cases made
    | none =>
        rcases run_pure_eq_ok_iff.mp made with ⟨rfl, rfl⟩
        rw [List.head?_eq_none_iff] at head
        subst head
        rcases reads.run_eq_ok_iff.mp contentRead with
          ⟨before, text, spacesBefore, isWritten, split⟩
        rw [List.append_nil] at split
        exact ⟨atEnd rfl, rfl, before, text, after, spacesBefore, isWritten, spacesAfter, split⟩
  · rintro ⟨rfl, rfl, before, text, after, spacesBefore, isWritten, spacesAfter, rfl⟩
    refine ⟨value, after, reads.run_eq_ok_iff.mpr ⟨before, text, spacesBefore, isWritten, rfl⟩, ?_⟩
    have looked : peekToken.run .finished after = .ok (none, []) :=
      run_peekToken_eq_ok_iff.mpr
        ⟨after, spacesAfter, (List.append_nil after).symm, rfl, nofun, fun _ => rfl⟩
    rw [run_bind_of_ok looked]
    rfl

/-- Where the source breaks behind a document, the failure is the fault. -/
theorem Reads.run_document_of_broken
    (reads : Reads item written)
    {value : Value}
    {before text after : List UInt8}
    (spacesBefore : Spaces before)
    (isWritten : written value text)
    (spacesAfter : Spaces after)
    (reason : String) :
    (document item).run (.broken reason) (before ++ (text ++ after)) =
      .error (.unreadable reason) := by
  have contentRead :
      item.run (.broken reason) (before ++ (text ++ after)) = .ok (value, after) :=
    reads.run_eq_ok_iff.mpr ⟨before, text, spacesBefore, isWritten, rfl⟩
  rw [document, run_bind_of_ok contentRead, run_bind,
    run_peekToken_of_broken spacesAfter reason]

end RegisterTrace.Json
