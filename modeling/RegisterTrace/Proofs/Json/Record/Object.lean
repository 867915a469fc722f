import RegisterTrace.Proofs.Json.Record.Fields

/-!
# Records read from objects

Every entry of an object either sets a part of the record that no entry before it has set, or is
skipped.  What the entries so far have set is said part by part: a part has its one entry, which
writes its value, or it has none and is still blank.  This holds through the whole object, so a
record is read from an object exactly if the object gives all fields of the record.
-/

namespace RegisterTrace.Json

open Reader

variable
    {Record : Type}
    {shape : Shape Record}
    {parts : List (RecordPart Record)}
    {ending : Ending}
    {bytes rest : List UInt8}

/-! ## Known keys -/

theorem Shape.Describes.member?_of_mem
    (describes : shape.Describes parts)
    {part : RecordPart Record}
    (member : part ∈ parts) :
    shape.member? part.key = some part.member := by
  rw [Shape.member?, describes.members, List.find?_map]
  cases found :
      parts.find? ((fun member : Member Record => member.key == part.key) ∘ RecordPart.member) with
  | none =>
      have noKey := List.find?_eq_none.mp found part member
      exact absurd (beq_self_eq_true part.key) noKey
  | some other =>
      have sameKey : other.key = part.key := by
        simpa [RecordPart.member] using List.find?_some found
      rw [describes.eq_of_key (List.mem_of_find?_eq_some found) member sameKey]
      rfl

theorem Shape.Describes.exists_part
    (describes : shape.Describes parts)
    {key : String}
    {member : Member Record}
    (found : shape.member? key = some member) :
    ∃ part ∈ parts, part.key = key ∧ part.member = member := by
  rw [Shape.member?, describes.members, List.find?_map, Option.map_eq_some_iff] at found
  rcases found with ⟨part, partFound, rfl⟩
  have sameKey : part.key = key := by
    simpa [RecordPart.member] using List.find?_some partFound
  exact ⟨part, List.mem_of_find?_eq_some partFound, sameKey, rfl⟩

theorem Shape.Describes.member?_eq_none_iff
    (describes : shape.Describes parts)
    {key : String} :
    shape.member? key = none ↔ ∀ part ∈ parts, part.key ≠ key := by
  rw [Shape.member?, describes.members, List.find?_map, Option.map_eq_none_iff, List.find?_eq_none]
  simp [RecordPart.member]

/-! ## Entries -/

/-- What an entry makes of a draft: it sets a part whose key was not read before, or is skipped. -/
inductive Takes (parts : List (RecordPart Record)) :
    Draft Record → Entry → Draft Record → Prop where
  | known
      {draft : Draft Record}
      {entry : Entry}
      {part : RecordPart Record}
      {value : part.Value}
      (member : part ∈ parts)
      (same : part.key = entry.key)
      (fresh : entry.key ∉ draft.keys)
      (written : part.written value entry.written.value) :
      Takes parts draft entry ⟨part.put value draft.record, entry.key :: draft.keys⟩
  | unknown
      {draft : Draft Record}
      {entry : Entry}
      (others : ∀ part ∈ parts, part.key ≠ entry.key)
      (value : ValueText entry.written.value) :
      Takes parts draft entry draft

/-- The draft sets all parts that must be there. -/
def Draft.Complete (parts : List (RecordPart Record)) (draft : Draft Record) : Prop :=
  ∀ part ∈ parts, part.absent = none → part.key ∈ draft.keys

/-- What the rest of an object makes of a draft. -/
inductive Builds (parts : List (RecordPart Record)) :
    Draft Record → List Entry → Record → Prop where
  | finish
      {draft : Draft Record}
      (complete : draft.Complete parts) :
      Builds parts draft [] draft.record
  | take
      {draft middle : Draft Record}
      {entry : Entry}
      {entries : List Entry}
      {record : Record}
      (takes : Takes parts draft entry middle)
      (later : Builds parts middle entries record) :
      Builds parts draft (entry :: entries) record

theorem Takes.valueText
    (describes : shape.Describes parts)
    {draft after : Draft Record}
    {entry : Entry}
    (takes : Takes parts draft entry after) :
    ValueText entry.written.value := by
  cases takes with
  | known member same fresh written => exact (describes.reads _ member).valueText written
  | unknown others value => exact value

theorem of_run_readMember
    (describes : shape.Describes parts)
    {draft after : Draft Record}
    (read : (shape.readMember draft).run ending bytes = .ok (after, rest)) :
    ∃ entry : Entry,
      entry.Spelled ∧ Takes parts draft entry after ∧ bytes = entry.written.afterQuote ++ rest := by
  rw [Shape.readMember] at read
  rcases run_bind_eq_ok_iff.mp read with ⟨key, behindKey, keyRead, later⟩
  rcases Text.run_kept_eq_ok_iff.mp keyRead with ⟨keyText, isText, rfl⟩
  cases found : shape.member? key with
  | some member =>
      rcases describes.exists_part found with ⟨part, partMember, same, rfl⟩
      simp only [found] at later
      split at later
      · cases later
      · next notTwice =>
          rcases run_bind_eq_ok_iff.mp later with ⟨_, behindColon, colonRead, valueMore⟩
          rcases run_bind_eq_ok_iff.mp valueMore with ⟨set, behindValue, valueRead, made⟩
          rcases run_pure_eq_ok_iff.mp made with ⟨rfl, rfl⟩
          rcases run_map_eq_ok_iff.mp valueRead with ⟨value, partRead, rfl⟩
          rcases run_colon_eq_ok_iff.mp colonRead with ⟨before, spacesBefore, rfl⟩
          rcases (describes.reads part partMember).run_eq_ok_iff.mp partRead with
            ⟨after, text, spacesAfter, isWritten, rfl⟩
          have fresh : key ∉ draft.keys := by simpa using notTwice
          exact
            ⟨⟨key, keyText, before, after, text⟩, ⟨isText, spacesBefore, spacesAfter⟩,
              .known partMember same fresh isWritten, by simp [MemberText.afterQuote]⟩
  | none =>
      simp only [found] at later
      rcases run_bind_eq_ok_iff.mp later with ⟨_, behindColon, colonRead, valueMore⟩
      rcases run_bind_eq_ok_iff.mp valueMore with ⟨_, behindValue, valueRead, made⟩
      rcases run_pure_eq_ok_iff.mp made with ⟨rfl, rfl⟩
      rcases run_colon_eq_ok_iff.mp colonRead with ⟨before, spacesBefore, rfl⟩
      rcases Skip.of_run_value valueRead with ⟨after, text, spacesAfter, isValue, rfl⟩
      have others := describes.member?_eq_none_iff.mp found
      exact
        ⟨⟨key, keyText, before, after, text⟩, ⟨isText, spacesBefore, spacesAfter⟩,
          .unknown others isValue, by simp [MemberText.afterQuote]⟩

theorem run_readMember
    (describes : shape.Describes parts)
    {draft after : Draft Record}
    {entry : Entry}
    (spelled : entry.Spelled)
    (takes : Takes parts draft entry after)
    (ends : Ends rest) :
    (shape.readMember draft).run ending (entry.written.afterQuote ++ rest) =
      .ok (after, rest) := by
  rcases entry with ⟨key, keyText, before, afterColon, text⟩
  rcases spelled with ⟨isText, spacesBefore, spacesAfter⟩
  have keyRead :
      Text.kept.run ending (keyText ++ (before ++ byte ':' :: (afterColon ++ (text ++ rest)))) =
        .ok (key, before ++ byte ':' :: (afterColon ++ (text ++ rest))) :=
    Text.run_kept_eq_ok_iff.mpr ⟨keyText, isText, rfl⟩
  have colonRead :
      colon.run ending (before ++ byte ':' :: (afterColon ++ (text ++ rest))) =
        .ok ((), afterColon ++ (text ++ rest)) :=
    run_colon_eq_ok_iff.mpr ⟨before, spacesBefore, rfl⟩
  simp only [MemberText.afterQuote, List.append_assoc, List.cons_append]
  rw [Shape.readMember, run_bind_of_ok keyRead]
  cases takes with
  | @known part value member same fresh written =>
      have found : shape.member? key = some part.member := by
        have sameKey : part.key = key := same
        rw [← sameKey]
        exact describes.member?_of_mem member
      have notTwice : ¬ draft.keys.contains key := by simpa using fresh
      have valueRead :
          (part.put <$> part.reader).run ending (afterColon ++ (text ++ rest)) =
            .ok (part.put value, rest) :=
        run_map_eq_ok_iff.mpr
          ⟨value, (describes.reads part member).run_eq_ok_iff.mpr
            ⟨afterColon, text, spacesAfter, written, rfl⟩, rfl⟩
      simp only [found, if_neg notTwice]
      rw [run_bind_of_ok colonRead, RecordPart.member, run_bind_of_ok valueRead]
      rfl
  | unknown others value =>
      have found := describes.member?_eq_none_iff.mpr others
      simp only [found]
      rw [run_bind_of_ok colonRead, run_bind_of_ok (Skip.run_value spacesAfter value ends)]
      rfl

/-! ## Objects -/

theorem run_finish_eq_ok_iff
    (describes : shape.Describes parts)
    {draft : Draft Record}
    {record : Record} :
    (shape.finish draft).run ending bytes = .ok (record, rest) ↔
      draft.Complete parts ∧ draft.record = record ∧ bytes = rest := by
  have complete :
      (shape.members.find? fun member => member.required && !draft.keys.contains member.key) =
          none ↔
        draft.Complete parts := by
    rw [describes.members, List.find?_eq_none, List.forall_mem_map, Draft.Complete]
    simp [RecordPart.member]
  rw [Shape.finish]
  cases found :
      shape.members.find? fun member => member.required && !draft.keys.contains member.key with
  | none =>
      rw [found] at complete
      rw [run_pure_eq_ok_iff, and_iff_right (complete.mp rfl)]
  | some missing =>
      rw [found] at complete
      constructor
      · intro impossible
        cases impossible
      · rintro ⟨isComplete, -, -⟩
        cases complete.mpr isComplete

theorem of_run_readMemberAfterComma
    (describes : shape.Describes parts)
    {draft after : Draft Record}
    (read : (shape.readMemberAfterComma draft).run ending bytes = .ok (after, rest)) :
    ∃ (gap : List UInt8) (entry : Entry),
      Spaces gap ∧
        entry.Spelled ∧
          Takes parts draft entry after ∧ bytes = gap ++ (entry.written.bytes ++ rest) := by
  rw [Shape.readMemberAfterComma] at read
  rcases run_bind_eq_ok_iff.mp read with ⟨found, middle, taken, later⟩
  cases found with
  | none => cases later
  | some first =>
      simp only at later
      split at later
      · next quote =>
          rw [quote] at taken
          rcases (run_nextToken_eq_some_iff.mp taken).2 with ⟨gap, spaces, rfl⟩
          rcases of_run_readMember describes later with ⟨entry, spelled, takes, rfl⟩
          exact ⟨gap, entry, spaces, spelled, takes, rfl⟩
      · split at later
        · cases later
        · cases later

/-- A text of an entry takes a draft to the next one. -/
def TakesEntry
    (parts : List (RecordPart Record))
    (draft : Draft Record)
    (text : List UInt8)
    (after : Draft Record) :
    Prop :=
  ∃ entry : Entry, text = entry.written.bytes ∧ entry.Spelled ∧ Takes parts draft entry after

/-- The loop over the rest of an object takes entries. -/
theorem Shape.Describes.takesItems_objectStep
    (describes : shape.Describes parts) :
    TakesItems ending (byte '\x7d') shape.objectStep (TakesEntry parts)
      fun draft record => draft.Complete parts ∧ draft.record = record where
  closes := .inr rfl
  space := by
    intro state value space
    rw [Shape.objectStep, if_pos space]
  close := by
    intro draft bytes turn rest
    rw [Shape.objectStep, if_neg (by decide), if_pos rfl, run_bind_eq_ok_iff]
    constructor
    · rintro ⟨record, middle, finishRead, made⟩
      rcases run_pure_eq_ok_iff.mp made with ⟨rfl, rfl⟩
      rcases (run_finish_eq_ok_iff describes).mp finishRead with ⟨complete, same, rfl⟩
      exact ⟨record, ⟨complete, same⟩, rfl, rfl⟩
    · rintro ⟨record, ⟨complete, same⟩, rfl, rfl⟩
      exact ⟨record, bytes, (run_finish_eq_ok_iff describes).mpr ⟨complete, same, rfl⟩, rfl⟩
  of_comma := by
    intro draft bytes turn rest stepRead
    rw [Shape.objectStep, if_neg (by decide), if_neg (by decide), if_pos rfl] at stepRead
    rcases run_bind_eq_ok_iff.mp stepRead with ⟨after, left, memberRead, made⟩
    rcases run_pure_eq_ok_iff.mp made with ⟨rfl, rfl⟩
    rcases of_run_readMemberAfterComma describes memberRead with
      ⟨gap, entry, spaces, spelled, takes, rfl⟩
    exact ⟨gap, _, after, spaces, ⟨entry, rfl, spelled, takes⟩, rfl, rfl⟩
  comma := by
    rintro draft gap _ after rest spaces ⟨entry, rfl, spelled, takes⟩ ends
    have quoteNoSpace : isSpace (byte '"') = false := by decide
    have memberRead :
        (shape.readMemberAfterComma draft).run ending (gap ++ (entry.written.bytes ++ rest)) =
          .ok (after, rest) := by
      rw [Shape.readMemberAfterComma, MemberText.bytes, List.cons_append,
        run_bind_of_ok (run_nextToken_of_gap spaces quoteNoSpace _)]
      simp only [if_true]
      exact run_readMember describes spelled takes ends
    rw [Shape.objectStep, if_neg (by decide), if_neg (by decide), if_pos rfl,
      run_bind_of_ok memberRead]
    rfl
  other := by
    intro draft value bytes turn rest noSpace noClosing noComma stepRead
    rw [Shape.objectStep, if_neg (by simp [noSpace]), if_neg noClosing, if_neg noComma] at stepRead
    cases stepRead

theorem gives_takesEntry_iff
    {draft : Draft Record}
    {items : List (List UInt8)}
    {record : Record} :
    Gives (TakesEntry parts) (fun draft record => draft.Complete parts ∧ draft.record = record)
        draft items record ↔
      ∃ entries : List Entry,
        items = entries.map (fun entry => entry.written.bytes) ∧
          (∀ entry ∈ entries, entry.Spelled) ∧ Builds parts draft entries record := by
  constructor
  · intro gives
    induction gives with
    | finish finished =>
        rcases finished with ⟨complete, rfl⟩
        exact ⟨[], rfl, nofun, .finish complete⟩
    | take taken _ inductionHypothesis =>
        rcases taken with ⟨entry, rfl, spelled, takes⟩
        rcases inductionHypothesis with ⟨entries, rfl, othersSpelled, builds⟩
        exact
          ⟨entry :: entries, rfl, List.forall_mem_cons.mpr ⟨spelled, othersSpelled⟩,
            .take takes builds⟩
  · rintro ⟨entries, rfl, spelled, builds⟩
    induction builds with
    | finish complete => exact .finish ⟨complete, rfl⟩
    | take takes _ inductionHypothesis =>
        rcases List.forall_mem_cons.mp spelled with ⟨entrySpelled, othersSpelled⟩
        exact .take ⟨_, rfl, entrySpelled, takes⟩ (inductionHypothesis othersSpelled)

/-- The entries that follow in an object build its record from the draft before them. -/
theorem run_restOfObject_eq_ok_iff
    (describes : shape.Describes parts)
    {draft : Draft Record}
    {record : Record} :
    (shape.restOfObject draft).run ending bytes = .ok (record, rest) ↔
      ∃ (entries : List Entry) (text : List UInt8),
        Following (byte '\x7d') (entries.map fun entry => entry.written.bytes) text ∧
          (∀ entry ∈ entries, entry.Spelled) ∧
            Builds parts draft entries record ∧ bytes = text ++ rest := by
  rw [Shape.restOfObject, describes.takesItems_objectStep.run_loop_eq_ok_iff]
  simp only [gives_takesEntry_iff]
  constructor
  · rintro ⟨_, text, following, ⟨entries, rfl, spelled, builds⟩, rfl⟩
    exact ⟨entries, text, following, spelled, builds, rfl⟩
  · rintro ⟨entries, text, following, spelled, builds, rfl⟩
    exact ⟨_, text, following, ⟨entries, rfl, spelled, builds⟩, rfl⟩

theorem run_object_eq_ok_iff
    (describes : shape.Describes parts)
    {record : Record} :
    shape.object.run ending bytes = .ok (record, rest) ↔
      ∃ (entries : List Entry) (text : List UInt8),
        Opened (byte '\x7d') (entries.map fun entry => entry.written.bytes) text ∧
          (∀ entry ∈ entries, entry.Spelled) ∧
            Builds parts ⟨shape.blank, []⟩ entries record ∧ bytes = text ++ rest := by
  have quoteNoSpace : isSpace (byte '"') = false := by decide
  have closingNoSpace : isSpace (byte '\x7d') = false := by decide
  constructor
  · intro read
    rw [Shape.object] at read
    rcases run_bind_eq_ok_iff.mp read with ⟨found, middle, taken, later⟩
    cases found with
    | none => cases later
    | some first =>
        rcases (run_nextToken_eq_some_iff.mp taken).2 with ⟨gap, spaces, rfl⟩
        simp only at later
        split at later
        · next closing =>
            rcases (run_finish_eq_ok_iff describes).mp later with ⟨complete, rfl, rfl⟩
            exact
              ⟨[], gap ++ [byte '\x7d'], .empty spaces, nofun, .finish complete,
                by rw [closing]; simp⟩
        · split at later
          · next quote =>
              rcases run_bind_eq_ok_iff.mp later with ⟨draft, behindMember, memberRead, restRead⟩
              rcases of_run_readMember describes memberRead with ⟨entry, spelled, takes, rfl⟩
              rcases (run_restOfObject_eq_ok_iff describes).mp restRead with
                ⟨entries, text, following, othersSpelled, builds, rfl⟩
              refine
                ⟨entry :: entries, _, .items spaces following,
                  List.forall_mem_cons.mpr ⟨spelled, othersSpelled⟩, .take takes builds, ?_⟩
              rw [quote]
              simp [MemberText.bytes]
          · cases later
  · rintro ⟨entries, text, opened, spelled, builds, rfl⟩
    rw [Shape.object]
    cases builds with
    | finish complete =>
        cases opened with
        | @empty gap spaces =>
            rw [List.append_assoc, List.singleton_append,
              run_bind_of_ok (run_nextToken_of_gap spaces closingNoSpace rest)]
            simp only [if_true]
            exact (run_finish_eq_ok_iff describes).mpr ⟨complete, rfl, rfl⟩
    | @take _ draft entry entries _ takes later =>
        cases opened with
        | @items gap _ others _ spaces following =>
            rcases List.forall_mem_cons.mp spelled with ⟨entrySpelled, othersSpelled⟩
            have memberRead :
                (shape.readMember ⟨shape.blank, []⟩).run ending
                    (entry.written.afterQuote ++ (others ++ rest)) =
                  .ok (draft, others ++ rest) :=
              run_readMember describes entrySpelled takes (following.ends (.inr rfl) rest)
            have noClosing : ¬ byte '"' = byte '\x7d' := by decide
            simp only [MemberText.bytes, List.append_assoc, List.cons_append]
            rw [run_bind_of_ok (run_nextToken_of_gap spaces quoteNoSpace _)]
            simp only [if_neg noClosing, if_true]
            rw [run_bind_of_ok memberRead]
            exact
              (run_restOfObject_eq_ok_iff describes).mpr
                ⟨entries, others, following, othersSpelled, later, rfl⟩

end RegisterTrace.Json
