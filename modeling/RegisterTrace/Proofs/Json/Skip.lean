import RegisterTrace.Json.Skip
import RegisterTrace.Proofs.Json.Number
import RegisterTrace.Proofs.Json.StringText

/-!
# Skipping values

The reader that skips a value keeps the brackets that are open and needs no other memory.  It gets
past any value of the grammar, however deeply that nests, and goes on with what the brackets outside
of it ask for.  Conversely, whatever it gets past is a value: at each place there is a text that
completes what is open, and every turn goes from a place to one that asks for the rest of that text.
-/

namespace RegisterTrace.Json.Skip

open Reader

variable
    {ending : Ending}
    {bytes rest : List UInt8}

/-! ## Places -/

/-- The loop of the reader from a place on. -/
def readFrom (place : Place) : Reader Unit :=
  loop stepOverSpaces Place.atEnd place

/-- What is done after a turn. -/
def resume : Turn Place Unit → Reader Unit
  | .again place => readFrom place
  | .done _ => pure ()

/-- The place where an item in brackets is taken. -/
def itemPlace : Bracket → List Bracket → Place
  | .list, outer => .value (.list :: outer)
  | .object, outer => .key outer

theorem step_opened
    (inner : Bracket)
    (outer : List Bracket)
    (found : UInt8) :
    step (.opened inner outer) found =
      if found = inner.closing then pure (afterValue outer)
      else step (itemPlace inner outer) found := by
  cases inner <;> rfl

theorem step_next
    (inner : Bracket)
    (outer : List Bracket)
    (found : UInt8) :
    step (.next inner outer) found =
      if found = inner.closing then pure (afterValue outer)
      else if found = byte ',' then pure (.again (itemPlace inner outer))
      else
        match inner with
        | .list => slip .noListNext
        | .object => slip .noObjectNext := by
  cases inner <;> rfl

theorem isSpace_closing
    (inner : Bracket) :
    isSpace inner.closing = false := by
  cases inner <;> decide

theorem run_readFrom_spaces
    (place : Place)
    {gap : List UInt8}
    (spaces : Spaces gap)
    (bytes : List UInt8) :
    (readFrom place).run ending (gap ++ bytes) = (readFrom place).run ending bytes := by
  apply run_loop_spaces _ spaces
  intro value space
  rw [stepOverSpaces, if_pos space]

/-- At a byte that is no space the reader goes on as the step says. -/
theorem run_readFrom_cons
    (place : Place)
    {found : UInt8}
    (noSpace : isSpace found = false)
    (tail : List UInt8) :
    (readFrom place).run ending (found :: tail) =
      (step place found >>= resume).run ending tail := by
  have notSpace : ¬ isSpace found := by simp [noSpace]
  rw [readFrom, run_loop_cons, stepOverSpaces, if_neg notSpace, run_bind]
  cases (step place found).run ending tail with
  | error fault => rfl
  | ok made =>
      rcases made with ⟨turn, middle⟩
      cases turn with
      | again following => rfl
      | done result => rfl

/-! ## Items -/

/-- What stands in brackets: a value in a list, and a key with a value in an object. -/
def IsItem : Bracket → List UInt8 → Prop
  | .list, text => ValueText text
  | .object, text => ∃ member : MemberText, text = member.bytes ∧ member.Sound

/-- An item starts with a byte that is neither a space nor the bracket that closes. -/
theorem IsItem.exists_head
    {inner : Bracket}
    {item : List UInt8}
    (isItem : IsItem inner item) :
    ∃ first more, item = first :: more ∧ isSpace first = false ∧ first ≠ inner.closing := by
  cases inner with
  | list =>
      rcases ValueText.exists_head isItem with ⟨first, more, rfl, starts⟩
      exact ⟨first, more, rfl, isSpace_of_startsValue starts, (ne_of_startsValue starts).2.1⟩
  | object =>
      rcases isItem with ⟨member, rfl, -⟩
      exact ⟨_, _, rfl, by decide, by decide⟩

/-- What follows an item in brackets ends it. -/
theorem ends_of_following
    {inner : Bracket}
    {items : List (List UInt8)}
    {text : List UInt8}
    (following : Following inner.closing items text)
    (rest : List UInt8) :
    Ends (text ++ rest) := by
  apply following.ends
  cases inner with
  | list => exact .inl rfl
  | object => exact .inr rfl

/-! ## Values are skipped -/

/-- An item is got past wherever it stands in brackets. -/
def PassesItem (ending : Ending) (inner : Bracket) (item : List UInt8) : Prop :=
  ∀ outer rest,
    Ends rest →
      (readFrom (itemPlace inner outer)).run ending (item ++ rest) =
        (readFrom (.next inner outer)).run ending rest

theorem run_next_of_following
    {inner : Bracket}
    {items : List (List UInt8)}
    {text : List UInt8}
    (following : Following inner.closing items text)
    (passes : ∀ item ∈ items, PassesItem ending inner item)
    (outer : List Bracket)
    (rest : List UInt8) :
    (readFrom (.next inner outer)).run ending (text ++ rest) =
      (resume (afterValue outer)).run ending rest := by
  induction following with
  | close spaces =>
      rw [List.append_assoc, run_readFrom_spaces _ spaces, List.singleton_append,
        run_readFrom_cons _ (isSpace_closing inner), step_next, if_pos rfl]
      rfl
  | @next beforeComma afterComma item others items spacesBefore spacesAfter later
      inductionHypothesis =>
      rcases List.forall_mem_cons.mp passes with ⟨passesItem, passesItems⟩
      have noClosing : ¬ byte ',' = inner.closing := by
        cases inner <;> decide
      rw [List.append_assoc, run_readFrom_spaces _ spacesBefore, List.cons_append,
        run_readFrom_cons _ (by decide), step_next, if_neg noClosing, if_pos rfl]
      change (readFrom (itemPlace inner outer)).run ending _ = _
      rw [List.append_assoc, run_readFrom_spaces _ spacesAfter, List.append_assoc,
        passesItem outer _ (ends_of_following later rest)]
      exact inductionHypothesis passesItems

theorem run_opened_of_opened
    {inner : Bracket}
    {items : List (List UInt8)}
    {text : List UInt8}
    (opened : Opened inner.closing items text)
    (passes : ∀ item ∈ items, PassesItem ending inner item)
    (areItems : ∀ item ∈ items, IsItem inner item)
    (outer : List Bracket)
    (rest : List UInt8) :
    (readFrom (.opened inner outer)).run ending (text ++ rest) =
      (resume (afterValue outer)).run ending rest := by
  cases opened with
  | empty spaces =>
      rw [List.append_assoc, run_readFrom_spaces _ spaces, List.singleton_append,
        run_readFrom_cons _ (isSpace_closing inner), step_opened, if_pos rfl]
      rfl
  | @items gap first following more spaces later =>
      rcases List.forall_mem_cons.mp passes with ⟨passesFirst, passesMore⟩
      rcases (areItems first List.mem_cons_self).exists_head with
        ⟨value, others, rfl, noSpace, noClosing⟩
      have asItem :
          (readFrom (.opened inner outer)).run ending (value :: (others ++ (following ++ rest))) =
            (readFrom (itemPlace inner outer)).run ending
              (value :: (others ++ (following ++ rest))) := by
        rw [run_readFrom_cons _ noSpace, run_readFrom_cons _ noSpace, step_opened, if_neg noClosing]
      rw [List.append_assoc, run_readFrom_spaces _ spaces, List.append_assoc, List.cons_append,
        asItem, ← List.cons_append, passesFirst outer _ (ends_of_following later rest)]
      exact run_next_of_following later passesMore outer rest

theorem startValue_of_word
    (outer : List Bracket)
    {first : UInt8}
    {more : List UInt8}
    (listed : first :: more ∈ words) :
    startValue outer first = word more >>= fun _ => pure (afterValue outer) := by
  simp only [words, List.map_cons, List.map_nil, List.mem_cons, List.not_mem_nil, or_false]
    at listed
  rcases listed with same | same | same
  all_goals
    cases same
    rfl

theorem startValue_of_number
    (outer : List Bracket)
    {first : UInt8}
    (starts : first = byte '-' ∨ isDigit first) :
    startValue outer first = Number.skipped first >>= fun _ => pure (afterValue outer) := by
  have noWord : first ≠ byte 'n' ∧ first ≠ byte 't' ∧ first ≠ byte 'f' := by
    refine ⟨?_, ?_, ?_⟩
    all_goals
      rintro rfl
      exact absurd starts (by decide)
  rw [startValue, if_neg noWord.1, if_neg noWord.2.1, if_neg noWord.2.2, if_pos starts]

theorem startValue_of_quote
    (outer : List Bracket) :
    startValue outer (byte '"') = Text.skipped >>= fun _ => pure (afterValue outer) := rfl

/-- A member is got past if its value is. -/
theorem passesItem_member
    {member : MemberText}
    (sound : member.Sound)
    (passes :
      ∀ outer rest,
        Ends rest →
          (readFrom (.value outer)).run ending (member.value ++ rest) =
            (resume (afterValue outer)).run ending rest) :
    PassesItem ending .object member.bytes := by
  intro outer rest ends
  rcases sound with ⟨⟨spacesBefore, spacesAfter⟩, quoted, -⟩
  have keyRead :
      Text.skipped.run ending
          (member.key ++ (member.beforeColon ++ byte ':' :: (member.afterColon ++
            (member.value ++ rest)))) =
        .ok ((), member.beforeColon ++ byte ':' :: (member.afterColon ++ (member.value ++ rest))) :=
    Text.run_skipped_eq_ok_iff.mpr ⟨member.key, quoted, rfl⟩
  have colonRead :
      colon.run ending
          (member.beforeColon ++ byte ':' :: (member.afterColon ++ (member.value ++ rest))) =
        .ok ((), member.afterColon ++ (member.value ++ rest)) :=
    run_colon_eq_ok_iff.mpr ⟨member.beforeColon, spacesBefore, rfl⟩
  have whole :
      member.bytes ++ rest =
        byte '"' :: (member.key ++ (member.beforeColon ++ byte ':' :: (member.afterColon ++
          (member.value ++ rest)))) := by
    simp [MemberText.bytes, MemberText.afterQuote]
  rw [whole, run_readFrom_cons _ (by decide), itemPlace, step, startKey, if_pos rfl, bind_assoc,
    run_bind_of_ok keyRead, bind_assoc, run_bind_of_ok colonRead]
  change (readFrom (.value (.object :: outer))).run ending _ = _
  rw [run_readFrom_spaces _ spacesAfter, passes (.object :: outer) rest ends]
  rfl

/-- A value is got past, and the reader goes on with what the brackets outside of it ask for. -/
theorem run_value_of_valueText
    {text : List UInt8}
    (written : ValueText text)
    (outer : List Bracket)
    {rest : List UInt8}
    (ends : Ends rest) :
    (readFrom (.value outer)).run ending (text ++ rest) =
      (resume (afterValue outer)).run ending rest := by
  induction written generalizing outer rest with
  | @word text listed =>
      rcases (ValueText.word listed).exists_head with ⟨first, more, rfl, starts⟩
      have wordRead : (Reader.word more).run ending (more ++ rest) = .ok ((), rest) :=
        run_word_eq_ok_iff.mpr rfl
      rw [List.cons_append, run_readFrom_cons _ (isSpace_of_startsValue starts), step,
        startValue_of_word outer listed, bind_assoc, run_bind_of_ok wordRead, pure_bind]
  | @number text isNumber =>
      rcases exists_head_of_numberText isNumber with ⟨first, more, rfl, isFirst⟩
      rcases (ValueText.number isNumber).exists_head with ⟨_, _, same, starts⟩
      cases same
      rw [List.cons_append, run_readFrom_cons _ (isSpace_of_startsValue starts), step,
        startValue_of_number outer isFirst, bind_assoc,
        run_bind_of_ok (Number.run_skipped isNumber ends), pure_bind]
  | @text text quoted =>
      have textRead : Text.skipped.run ending (text ++ rest) = .ok ((), rest) :=
        Text.run_skipped_eq_ok_iff.mpr ⟨text, quoted, rfl⟩
      rw [List.cons_append, run_readFrom_cons _ (by decide), step, startValue_of_quote, bind_assoc,
        run_bind_of_ok textRead, pure_bind]
  | @list items text isList values inductionHypothesis =>
      rcases isList with ⟨inside, opened, rfl⟩
      have passes : ∀ item ∈ items, PassesItem ending .list item := by
        intro item member outer rest ends
        exact inductionHypothesis item member (.list :: outer) ends
      rw [List.cons_append, run_readFrom_cons _ (by decide)]
      exact @run_opened_of_opened ending .list items inside opened passes values outer rest
  | @object members text isObject keys values inductionHypothesis =>
      rcases isObject with ⟨inside, opened, rfl, spaced⟩
      have sound : ∀ member ∈ members, member.Sound := fun member isMember =>
        ⟨spaced member isMember, keys member isMember, values member isMember⟩
      have areItems : ∀ item ∈ members.map MemberText.bytes, IsItem .object item := by
        rw [List.forall_mem_map]
        exact fun member isMember => ⟨member, rfl, sound member isMember⟩
      have passes : ∀ item ∈ members.map MemberText.bytes, PassesItem ending .object item := by
        rw [List.forall_mem_map]
        intro member isMember
        apply passesItem_member (sound member isMember)
        intro outer rest ends
        exact inductionHypothesis member isMember outer ends
      rw [List.cons_append, run_readFrom_cons _ (by decide)]
      exact @run_opened_of_opened ending .object _ inside opened passes areItems outer rest

/-- A list is got past whatever follows it. -/
theorem run_value_of_listText
    {gap text : List UInt8}
    {items : List (List UInt8)}
    (spaces : Spaces gap)
    (isList : ListText items text)
    (values : ∀ item ∈ items, ValueText item)
    (rest : List UInt8) :
    value.run ending (gap ++ (text ++ rest)) = .ok ((), rest) := by
  rcases isList with ⟨inside, opened, rfl⟩
  have passes : ∀ item ∈ items, PassesItem ending .list item := by
    intro item member outer rest ends
    exact run_value_of_valueText (values item member) (.list :: outer) ends
  change (readFrom (.value [])).run ending _ = _
  rw [run_readFrom_spaces _ spaces, List.cons_append, run_readFrom_cons _ (by decide)]
  exact @run_opened_of_opened ending .list items inside opened passes values [] rest

theorem run_value
    {gap text : List UInt8}
    (spaces : Spaces gap)
    (written : ValueText text)
    (ends : Ends rest) :
    value.run ending (gap ++ (text ++ rest)) = .ok ((), rest) := by
  change (readFrom (.value [])).run ending _ = _
  rw [run_readFrom_spaces _ spaces, run_value_of_valueText written [] ends]
  rfl

/-! ## Only values are skipped -/

/-- What completes the brackets that are open, after a value in the innermost one. -/
def Closes : List Bracket → List UInt8 → Prop
  | [], text => text = []
  | inner :: outer, text =>
      ∃ items inside after,
        Following inner.closing items inside ∧
          (∀ item ∈ items, IsItem inner item) ∧ Closes outer after ∧ text = inside ++ after

/-- What completes the value that is being skipped, from a place on. -/
def Completes : Place → List UInt8 → Prop
  | .value outer, text =>
      ∃ gap value after,
        Spaces gap ∧ ValueText value ∧ Closes outer after ∧ text = gap ++ (value ++ after)
  | .key outer, text =>
      ∃ gap item after,
        Spaces gap ∧
          IsItem .object item ∧ Closes (.object :: outer) after ∧ text = gap ++ (item ++ after)
  | .opened inner outer, text =>
      ∃ items inside after,
        Opened inner.closing items inside ∧
          (∀ item ∈ items, IsItem inner item) ∧ Closes outer after ∧ text = inside ++ after
  | .next inner outer, text => Closes (inner :: outer) text

/-- What completes the value that is being skipped, after a turn. -/
def CompletesTurn : Turn Place Unit → List UInt8 → Prop
  | .again place, text => Completes place text
  | .done _, text => text = []

theorem completesTurn_afterValue_iff
    {outer : List Bracket}
    {text : List UInt8} :
    CompletesTurn (afterValue outer) text ↔ Closes outer text := by
  cases outer with
  | nil => exact Iff.rfl
  | cons inner outer => exact Iff.rfl

theorem Completes.cons_space
    {place : Place}
    {text : List UInt8}
    (completes : Completes place text)
    {value : UInt8}
    (space : isSpace value) :
    Completes place (value :: text) := by
  cases place with
  | value outer =>
      rcases completes with ⟨gap, inside, after, spaces, written, closes, rfl⟩
      exact ⟨value :: gap, inside, after, spaces.cons space, written, closes, rfl⟩
  | key outer =>
      rcases completes with ⟨gap, item, after, spaces, isItem, closes, rfl⟩
      exact ⟨value :: gap, item, after, spaces.cons space, isItem, closes, rfl⟩
  | opened inner outer =>
      rcases completes with ⟨items, inside, after, opened, areItems, closes, rfl⟩
      exact ⟨items, value :: inside, after, opened.cons_space space, areItems, closes, rfl⟩
  | next inner outer =>
      rcases completes with ⟨items, inside, after, following, areItems, closes, rfl⟩
      exact ⟨items, value :: inside, after, following.cons_space space, areItems, closes, rfl⟩

/-- The byte that opens a bracket. -/
def Bracket.opening : Bracket → UInt8
  | list => byte '['
  | object => byte '\x7b'

/-- Items in brackets make a value. -/
theorem valueText_of_opened
    {inner : Bracket}
    {items : List (List UInt8)}
    {inside : List UInt8}
    (opened : Opened inner.closing items inside)
    (areItems : ∀ item ∈ items, IsItem inner item) :
    ValueText (inner.opening :: inside) := by
  cases inner with
  | list => exact .list ⟨inside, opened, rfl⟩ areItems
  | object =>
      have asMembers :
          ∃ members : List MemberText,
            items = members.map MemberText.bytes ∧
              ∀ member ∈ members, member.Sound := by
        clear opened
        induction items with
        | nil => exact ⟨[], rfl, nofun⟩
        | cons first more inductionHypothesis =>
            rcases List.forall_mem_cons.mp areItems with ⟨⟨member, rfl, isMember⟩, others⟩
            rcases inductionHypothesis others with ⟨members, rfl, areMembers⟩
            exact ⟨member :: members, rfl, List.forall_mem_cons.mpr ⟨isMember, areMembers⟩⟩
      rcases asMembers with ⟨members, rfl, areMembers⟩
      exact
        .object ⟨inside, opened, rfl, fun member isMember => (areMembers member isMember).spaced⟩
          (fun member isMember => (areMembers member isMember).quoted)
          (fun member isMember => (areMembers member isMember).value)

theorem completes_of_word
    {outer : List Bracket}
    {first : UInt8}
    {more : List UInt8}
    (listed : first :: more ∈ words)
    {turn : Turn Place Unit}
    {text : List UInt8}
    (read : (word more >>= fun _ => pure (afterValue outer)).run ending bytes = .ok (turn, rest))
    (completes : CompletesTurn turn text) :
    ∃ more value after,
      bytes = more ++ rest ∧
        ValueText value ∧ Closes outer after ∧ first :: (more ++ text) = value ++ after := by
  rcases run_bind_eq_ok_iff.mp read with ⟨_, middle, wordRead, made⟩
  rcases run_pure_eq_ok_iff.mp made with ⟨rfl, rfl⟩
  exact
    ⟨more, first :: more, text, run_word_eq_ok_iff.mp wordRead, .word listed,
      completesTurn_afterValue_iff.mp completes, rfl⟩

theorem completes_of_opened
    {inner : Bracket}
    {outer : List Bracket}
    {turn : Turn Place Unit}
    {text : List UInt8}
    (read :
      (pure (.again (.opened inner outer)) : Reader (Turn Place Unit)).run ending bytes =
        .ok (turn, rest))
    (completes : CompletesTurn turn text) :
    ∃ more value after,
      bytes = more ++ rest ∧
        ValueText value ∧
          Closes outer after ∧ inner.opening :: (more ++ text) = value ++ after := by
  rcases run_pure_eq_ok_iff.mp read with ⟨rfl, rfl⟩
  rcases completes with ⟨items, inside, after, opened, areItems, closes, rfl⟩
  exact ⟨[], _, after, rfl, valueText_of_opened opened areItems, closes, rfl⟩

/-- A value that is started is completed by what completes the brackets around it. -/
theorem completes_of_startValue
    {outer : List Bracket}
    {first : UInt8}
    {turn : Turn Place Unit}
    {text : List UInt8}
    (read : (startValue outer first).run ending bytes = .ok (turn, rest))
    (completes : CompletesTurn turn text) :
    ∃ more value after,
      bytes = more ++ rest ∧
        ValueText value ∧ Closes outer after ∧ first :: (more ++ text) = value ++ after := by
  rw [startValue] at read
  split at read
  · next isNull =>
      rw [isNull]
      exact completes_of_word (by decide) read completes
  split at read
  · next isTrue =>
      rw [isTrue]
      exact completes_of_word (by decide) read completes
  split at read
  · next isFalse =>
      rw [isFalse]
      exact completes_of_word (by decide) read completes
  split at read
  · rcases run_bind_eq_ok_iff.mp read with ⟨_, middle, numberRead, made⟩
    rcases run_pure_eq_ok_iff.mp made with ⟨rfl, rfl⟩
    rcases Number.of_run_skipped numberRead with ⟨more, isNumber, split⟩
    exact
      ⟨more, first :: more, text, split, .number isNumber,
        completesTurn_afterValue_iff.mp completes, rfl⟩
  split at read
  · next quote =>
      rcases run_bind_eq_ok_iff.mp read with ⟨_, middle, textRead, made⟩
      rcases run_pure_eq_ok_iff.mp made with ⟨rfl, rfl⟩
      rcases Text.run_skipped_eq_ok_iff.mp textRead with ⟨more, quoted, split⟩
      rw [quote]
      exact
        ⟨more, byte '"' :: more, text, split, .text quoted,
          completesTurn_afterValue_iff.mp completes, rfl⟩
  split at read
  · next opening =>
      rw [opening]
      exact @completes_of_opened _ _ _ .list outer _ _ read completes
  split at read
  · next opening =>
      rw [opening]
      exact @completes_of_opened _ _ _ .object outer _ _ read completes
  · cases read

/-- A key that is started is completed by its value and what completes the brackets around it. -/
theorem completes_of_startKey
    {outer : List Bracket}
    {first : UInt8}
    {turn : Turn Place Unit}
    {text : List UInt8}
    (read : (startKey outer first).run ending bytes = .ok (turn, rest))
    (completes : CompletesTurn turn text) :
    ∃ more item after,
      bytes = more ++ rest ∧
        IsItem .object item ∧
          Closes (.object :: outer) after ∧ first :: (more ++ text) = item ++ after := by
  rw [startKey] at read
  split at read
  · next quote =>
      rcases run_bind_eq_ok_iff.mp read with ⟨_, middle, textRead, later⟩
      rcases run_bind_eq_ok_iff.mp later with ⟨_, behindColon, colonRead, made⟩
      rcases run_pure_eq_ok_iff.mp made with ⟨rfl, rfl⟩
      rcases Text.run_skipped_eq_ok_iff.mp textRead with ⟨key, quoted, rfl⟩
      rcases run_colon_eq_ok_iff.mp colonRead with ⟨beforeColon, spacesBefore, rfl⟩
      rcases completes with ⟨afterColon, value, after, spacesAfter, isValue, closes, rfl⟩
      rw [quote]
      refine
        ⟨key ++ (beforeColon ++ [byte ':']), MemberText.bytes ⟨key, beforeColon, afterColon, value⟩,
          after, by simp, ⟨_, rfl, ⟨spacesBefore, spacesAfter⟩, quoted, isValue⟩, closes, ?_⟩
      simp [MemberText.bytes, MemberText.afterQuote]
  · cases read

/-- An item that is started is completed by what completes the brackets around it. -/
theorem completes_of_itemPlace
    {inner : Bracket}
    {outer : List Bracket}
    {first : UInt8}
    {turn : Turn Place Unit}
    {text : List UInt8}
    (read : (step (itemPlace inner outer) first).run ending bytes = .ok (turn, rest))
    (completes : CompletesTurn turn text) :
    ∃ more item after,
      bytes = more ++ rest ∧
        IsItem inner item ∧
          Closes (inner :: outer) after ∧ first :: (more ++ text) = item ++ after := by
  cases inner with
  | list => exact completes_of_startValue read completes
  | object => exact completes_of_startKey read completes

/-- What completes the place after a step completes the place before it, behind what was taken. -/
theorem completes_of_step
    {place : Place}
    {first : UInt8}
    {turn : Turn Place Unit}
    {text : List UInt8}
    (read : (step place first).run ending bytes = .ok (turn, rest))
    (completes : CompletesTurn turn text) :
    ∃ more, bytes = more ++ rest ∧ Completes place (first :: (more ++ text)) := by
  cases place with
  | value outer =>
      rcases completes_of_startValue read completes with
        ⟨more, written, after, split, isValue, closes, whole⟩
      exact ⟨more, split, [], written, after, spaces_nil, isValue, closes, whole⟩
  | key outer =>
      rcases completes_of_startKey read completes with
        ⟨more, item, after, split, isItem, closes, whole⟩
      exact ⟨more, split, [], item, after, spaces_nil, isItem, closes, whole⟩
  | opened inner outer =>
      rw [step_opened] at read
      split at read
      · next closing =>
          rcases run_pure_eq_ok_iff.mp read with ⟨rfl, rfl⟩
          refine ⟨[], rfl, [], [inner.closing], text, .empty spaces_nil, nofun,
            completesTurn_afterValue_iff.mp completes, ?_⟩
          rw [closing]
          rfl
      · rcases completes_of_itemPlace read completes with
          ⟨more, item, after, split, isItem,
            ⟨items, inside, last, following, areItems, closes, rfl⟩, whole⟩
        refine ⟨more, split, item :: items, item ++ inside, last, .items spaces_nil following,
          List.forall_mem_cons.mpr ⟨isItem, areItems⟩, closes, ?_⟩
        rw [whole, List.append_assoc]
  | next inner outer =>
      rw [step_next] at read
      split at read
      · next closing =>
          rcases run_pure_eq_ok_iff.mp read with ⟨rfl, rfl⟩
          refine ⟨[], rfl, [], [inner.closing], text, .close spaces_nil, nofun,
            completesTurn_afterValue_iff.mp completes, ?_⟩
          rw [closing]
          rfl
      · split at read
        · next comma =>
            rcases run_pure_eq_ok_iff.mp read with ⟨rfl, rfl⟩
            -- Behind the comma an item completes the place, in a list as in an object.
            have itemCompletes :
                ∃ gap item after,
                  Spaces gap ∧
                    IsItem inner item ∧
                      Closes (inner :: outer) after ∧ text = gap ++ (item ++ after) := by
              cases inner with
              | list => exact completes
              | object => exact completes
            rcases itemCompletes with
              ⟨gap, item, _, spaces, isItem,
                ⟨items, inside, last, following, areItems, closes, rfl⟩, rfl⟩
            refine ⟨[], rfl, item :: items, byte ',' :: (gap ++ (item ++ inside)), last,
              .next spaces_nil spaces following, List.forall_mem_cons.mpr ⟨isItem, areItems⟩,
              closes, ?_⟩
            rw [comma]
            simp
        · cases inner with
          | list => cases read
          | object => cases read

/-- What is skipped as a value is one, with the spaces in front of it. -/
theorem of_run_value
    {result : Unit}
    (read : value.run ending bytes = .ok (result, rest)) :
    ∃ gap text, Spaces gap ∧ ValueText text ∧ bytes = gap ++ (text ++ rest) := by
  have completed : ∃ text, Completes (.value []) text ∧ bytes = text ++ rest := by
    refine
      run_loop_induction
        (motive := fun place given => ∃ text, Completes place text ∧ given = text ++ rest)
        ?_ ?_ read
    · intro place found tail stepRead
      rw [stepOverSpaces] at stepRead
      split at stepRead
      · cases stepRead
      · rcases completes_of_step stepRead (rfl : CompletesTurn (.done result) []) with
          ⟨more, rfl, completes⟩
        rw [List.append_nil] at completes
        exact ⟨found :: more, completes, rfl⟩
    · rintro place found tail following middle stepRead ⟨text, completes, rfl⟩
      rw [stepOverSpaces] at stepRead
      split at stepRead
      · next space =>
          rcases run_pure_eq_ok_iff.mp stepRead with ⟨same, rfl⟩
          cases same
          exact ⟨found :: text, completes.cons_space space, rfl⟩
      · rcases @completes_of_step _ _ _ _ _ (.again following) text stepRead completes with
          ⟨more, rfl, completesFirst⟩
        exact ⟨found :: (more ++ text), completesFirst, by simp⟩
  rcases completed with ⟨text, ⟨gap, written, after, spaces, isValue, rfl, rfl⟩, rfl⟩
  exact ⟨gap, written, spaces, isValue, by simp⟩

end RegisterTrace.Json.Skip
