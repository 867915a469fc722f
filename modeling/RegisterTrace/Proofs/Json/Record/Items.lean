import RegisterTrace.Proofs.Json.Record.Fields

/-!
# Records read from lists

The items of a list are put into the parts of a record in order.  Where the list ends early, the
parts that are left must be such as may be absent.  A record is read from a list exactly if the list
gives the fields of the record in order.
-/

namespace RegisterTrace.Json

open Reader

variable
    {Record : Type}
    {shape : Shape Record}
    {parts later : List (RecordPart Record)}
    {record result : Record}
    {count : Nat}
    {items : List (List UInt8)}
    {item text : List UInt8}
    {ending : Ending}
    {bytes rest : List UInt8}

/-! ## Bytes before an item -/

/-- What stands before an item of a list in which `count` items were read. -/
def Lead : Nat → List UInt8 → Prop
  | 0, lead => Spaces lead
  | _ + 1, lead =>
      ∃ before after, Spaces before ∧ Spaces after ∧ lead = before ++ byte ',' :: after

/-- What follows in a list in which `count` items were read. -/
def FollowingItems : Nat → List (List UInt8) → List UInt8 → Prop
  | 0, items, text => Opened (byte ']') items text
  | _ + 1, items, text => Following (byte ']') items text

theorem Lead.append_spaces
    {lead gap : List UInt8}
    (isLead : Lead count lead)
    (spaces : Spaces gap) :
    Lead count (lead ++ gap) := by
  cases count with
  | zero => exact List.forall_mem_append.mpr ⟨isLead, spaces⟩
  | succ count =>
      rcases isLead with ⟨before, after, spacesBefore, spacesAfter, rfl⟩
      have spacesBoth : Spaces (after ++ gap) := List.forall_mem_append.mpr ⟨spacesAfter, spaces⟩
      exact ⟨before, after ++ gap, spacesBefore, spacesBoth, by simp⟩

theorem followingItems_nil_iff :
    FollowingItems count [] text ↔ ∃ gap, Spaces gap ∧ text = gap ++ [byte ']'] := by
  cases count with
  | zero =>
      constructor
      · intro opened
        cases opened with
        | empty spaces => exact ⟨_, spaces, rfl⟩
      · rintro ⟨gap, spaces, rfl⟩
        exact .empty spaces
  | succ count =>
      constructor
      · intro following
        cases following with
        | close spaces => exact ⟨_, spaces, rfl⟩
      · rintro ⟨gap, spaces, rfl⟩
        exact .close spaces

theorem followingItems_cons_iff :
    FollowingItems count (item :: items) text ↔
      ∃ lead others,
        Lead count lead ∧ Following (byte ']') items others ∧ text = lead ++ (item ++ others) := by
  cases count with
  | zero =>
      constructor
      · intro opened
        cases opened with
        | items spaces following => exact ⟨_, _, spaces, following, rfl⟩
      · rintro ⟨lead, others, spaces, following, rfl⟩
        exact .items spaces following
  | succ count =>
      constructor
      · intro following
        cases following with
        | next spacesBefore spacesAfter following =>
            exact ⟨_, _, ⟨_, _, spacesBefore, spacesAfter, rfl⟩, following, by simp⟩
      · rintro ⟨_, others, ⟨before, after, spacesBefore, spacesAfter, rfl⟩, following, rfl⟩
        have next : FollowingItems (count + 1) (item :: items) _ :=
          .next spacesBefore spacesAfter following
        simpa using next

/-- Looks whether another item follows in a list in which `count` items were read. -/
def moreItems (count : Nat) : Reader Bool :=
  if count = 0 then hasFirstItem else hasNextItem

theorem run_hasNextItem_eq_ok_iff
    {more : Bool} :
    hasNextItem.run ending bytes = .ok (more, rest) ↔
      ∃ gap,
        Spaces gap ∧
          (more = false ∧ (∃ tail, rest = byte ']' :: tail) ∧ bytes = gap ++ rest ∨
            more = true ∧
              ∃ after value tail,
                Spaces after ∧
                  isSpace value = false ∧
                    value ≠ byte ']' ∧
                      rest = value :: tail ∧ bytes = gap ++ byte ',' :: (after ++ rest)) := by
  rw [hasNextItem, run_bind_eq_ok_iff]
  constructor
  · rintro ⟨found, middle, looked, later⟩
    rcases run_peekToken_eq_ok_iff.mp looked with ⟨gap, spaces, rfl, head, noSpace, -⟩
    refine ⟨gap, spaces, ?_⟩
    cases found with
    | none => cases later
    | some value =>
        rcases List.head?_eq_some_iff.mp head with ⟨tail, rfl⟩
        simp only at later
        split at later
        · next closing =>
            rcases run_pure_eq_ok_iff.mp later with ⟨rfl, rfl⟩
            exact .inl ⟨rfl, ⟨tail, by rw [closing]⟩, rfl⟩
        · split at later
          · next comma =>
              rcases run_bind_eq_ok_iff.mp later with ⟨_, behindComma, nextRead, lookMore⟩
              cases nextRead
              rcases run_bind_eq_ok_iff.mp lookMore with ⟨_, left, commaRead, made⟩
              rcases run_pure_eq_ok_iff.mp made with ⟨rfl, rfl⟩
              rcases run_itemAfterComma_eq_ok_iff.mp commaRead with
                ⟨after, first, others, spacesAfter, firstNoSpace, noBracket, rfl, rfl⟩
              exact
                .inr ⟨rfl, after, first, others, spacesAfter, firstNoSpace, noBracket, rfl,
                  by rw [comma]⟩
          · cases later
  · have closingNoSpace : isSpace (byte ']') = false := by decide
    have commaNoSpace : isSpace (byte ',') = false := by decide
    have noClosing : ¬ byte ',' = byte ']' := by decide
    rintro ⟨gap, spaces,
      ⟨rfl, ⟨tail, rfl⟩, rfl⟩ |
        ⟨rfl, after, first, others, spacesAfter, firstNoSpace, noBracket, rfl, rfl⟩⟩
    · exact ⟨_, _, run_peekToken_of_gap spaces closingNoSpace tail, rfl⟩
    · have commaRead :
          itemAfterComma.run ending (after ++ first :: others) = .ok ((), first :: others) :=
        run_itemAfterComma_eq_ok_iff.mpr
          ⟨after, first, others, spacesAfter, firstNoSpace, noBracket, rfl, rfl⟩
      refine ⟨_, _, run_peekToken_of_gap spaces commaNoSpace _, ?_⟩
      simp only [if_neg noClosing, if_true]
      rw [run_bind_of_ok (run_next_cons _ _), run_bind_of_ok commaRead]
      rfl

/-- No item follows where the list closes. -/
theorem run_moreItems_eq_false_iff :
    (moreItems count).run ending bytes = .ok (false, rest) ↔
      ∃ gap tail, Spaces gap ∧ rest = byte ']' :: tail ∧ bytes = gap ++ rest := by
  cases count with
  | zero =>
      rw [moreItems, if_pos rfl, run_hasFirstItem_eq_ok_iff]
      constructor
      · rintro ⟨gap, value, tail, spaces, -, closing, rfl, rfl⟩
        have closing : value = byte ']' := by simpa using closing.symm
        exact ⟨gap, tail, spaces, by rw [closing], rfl⟩
      · rintro ⟨gap, tail, spaces, rfl, rfl⟩
        exact ⟨gap, byte ']', tail, spaces, isSpace_bracket, rfl, rfl, rfl⟩
  | succ count =>
      rw [moreItems, if_neg (Nat.succ_ne_zero count), run_hasNextItem_eq_ok_iff]
      constructor
      · rintro ⟨gap, spaces, ⟨-, ⟨tail, rfl⟩, rfl⟩ | ⟨impossible, -⟩⟩
        · exact ⟨gap, tail, spaces, rfl, rfl⟩
        · cases impossible
      · rintro ⟨gap, tail, spaces, rfl, rfl⟩
        exact ⟨gap, spaces, .inl ⟨rfl, ⟨tail, rfl⟩, rfl⟩⟩

/-- An item follows behind what leads to it. -/
theorem run_moreItems_eq_true_iff :
    (moreItems count).run ending bytes = .ok (true, rest) ↔
      ∃ lead value tail,
        Lead count lead ∧
          isSpace value = false ∧
            value ≠ byte ']' ∧ rest = value :: tail ∧ bytes = lead ++ rest := by
  cases count with
  | zero =>
      rw [moreItems, if_pos rfl, run_hasFirstItem_eq_ok_iff]
      constructor
      · rintro ⟨gap, value, tail, spaces, noSpace, opens, rfl, rfl⟩
        have noBracket : value ≠ byte ']' := by simpa using opens.symm
        exact ⟨gap, value, tail, spaces, noSpace, noBracket, rfl, rfl⟩
      · rintro ⟨lead, value, tail, spaces, noSpace, noBracket, rfl, rfl⟩
        have opens : true = (value != byte ']') := by simpa using noBracket
        exact ⟨lead, value, tail, spaces, noSpace, opens, rfl, rfl⟩
  | succ count =>
      rw [moreItems, if_neg (Nat.succ_ne_zero count), run_hasNextItem_eq_ok_iff]
      constructor
      · rintro ⟨gap, spaces,
          ⟨impossible, -⟩ | ⟨-, after, value, tail, spacesAfter, noSpace, noBracket, rfl, rfl⟩⟩
        · cases impossible
        · exact
            ⟨gap ++ byte ',' :: after, value, tail, ⟨gap, after, spaces, spacesAfter, rfl⟩, noSpace,
              noBracket, rfl, by simp⟩
      · rintro ⟨_, value, tail, ⟨before, after, spacesBefore, spacesAfter, rfl⟩, noSpace, noBracket,
          rfl, rfl⟩
        exact
          ⟨before, spacesBefore,
            .inr ⟨rfl, after, value, tail, spacesAfter, noSpace, noBracket, rfl, by simp⟩⟩

theorem run_endOfList_eq_ok_iff
    {made : Unit} :
    Shape.endOfList.run ending bytes = .ok (made, rest) ↔
      ∃ gap, Spaces gap ∧ bytes = gap ++ byte ']' :: rest := by
  rw [Shape.endOfList, run_bind_eq_ok_iff]
  constructor
  · rintro ⟨found, middle, taken, later⟩
    cases found with
    | none => cases later
    | some value =>
        simp only at later
        split at later
        · next closing =>
            rcases run_pure_eq_ok_iff.mp later with ⟨-, rfl⟩
            rw [closing] at taken
            exact (run_nextToken_eq_some_iff.mp taken).2
        · split at later
          · rcases run_bind_eq_ok_iff.mp later with ⟨_, _, -, glanced⟩
            rcases run_bind_eq_ok_iff.mp glanced with ⟨_, _, -, stopped⟩
            split at stopped
            · cases stopped
            · cases stopped
          · cases later
  · rintro ⟨gap, spaces, rfl⟩
    exact ⟨_, _, run_nextToken_of_gap spaces isSpace_bracket rest, rfl⟩

/-! ## Items put into a record -/

/-- What the items of a list make of a record whose parts from some part on are left. -/
inductive Fills : List (RecordPart Record) → Record → List (List UInt8) → Record → Prop where
  | finish
      {later : List (RecordPart Record)}
      {record : Record}
      (absent : ∀ part ∈ later, part.absent ≠ none) :
      Fills later record [] record
  | put
      {part : RecordPart Record}
      {later : List (RecordPart Record)}
      {record result : Record}
      {value : part.Value}
      {item : List UInt8}
      {items : List (List UInt8)}
      (written : part.written value item)
      (others : Fills later (part.put value record) items result) :
      Fills (part :: later) record (item :: items) result

theorem Shape.values_cons
    (shape : Shape Record)
    (record : Record)
    (count : Nat)
    (member : Member Record)
    (members : List (Member Record)) :
    shape.values record count (member :: members) =
      moreItems count >>= fun more =>
        if more then
          member.value >>= fun set => shape.values (set record) (count + 1) members
        else if member.required then
          fail (.mismatched (.wrongLength count shape.name shape.members.length))
        else
          shape.values record count members := by
  rw [Shape.values, moreItems]
  split
  · rfl
  · rfl

/-- Takes the values of parts from a list, in which `count` items were read before, and its end. -/
def Shape.filled
    (shape : Shape Record)
    (record : Record)
    (count : Nat)
    (later : List (RecordPart Record)) :
    Reader Record := do
  let made ← shape.values record count (later.map RecordPart.member)
  Shape.endOfList
  return made

theorem Shape.filled_cons
    (shape : Shape Record)
    (record : Record)
    (count : Nat)
    (part : RecordPart Record)
    (later : List (RecordPart Record)) :
    shape.filled record count (part :: later) =
      moreItems count >>= fun more =>
        if more then
          part.reader >>= fun value => shape.filled (part.put value record) (count + 1) later
        else if part.absent = none then
          fail (.mismatched (.wrongLength count shape.name shape.members.length))
        else
          shape.filled record count later := by
  rw [Shape.filled, List.map_cons, Shape.values_cons, bind_assoc]
  apply congrArg (moreItems count >>= ·)
  funext more
  cases more with
  | true =>
      simp only [RecordPart.member, if_true, map_eq_pure_bind, bind_assoc, pure_bind]
      rfl
  | false =>
      cases absent : part.absent with
      | none => simp [RecordPart.member, absent]; rfl
      | some value => simp [RecordPart.member, absent, Shape.filled]

/-- Where the list closes, the parts that are left must be such as may be absent. -/
theorem run_filled_close_iff
    {gap : List UInt8}
    (spaces : Spaces gap) :
    (shape.filled record count later).run ending (gap ++ byte ']' :: bytes) = .ok (result, rest) ↔
      (∀ part ∈ later, part.absent ≠ none) ∧ record = result ∧ bytes = rest := by
  induction later generalizing gap with
  | nil =>
      have endRead : Shape.endOfList.run ending (gap ++ byte ']' :: bytes) = .ok ((), bytes) :=
        run_endOfList_eq_ok_iff.mpr ⟨gap, spaces, rfl⟩
      rw [Shape.filled, List.map_nil, Shape.values, pure_bind, run_bind_of_ok endRead,
        run_pure_eq_ok_iff]
      simp
  | cons part later inductionHypothesis =>
      have noMore :
          (moreItems count).run ending (gap ++ byte ']' :: bytes) =
            .ok (false, byte ']' :: bytes) :=
        run_moreItems_eq_false_iff.mpr ⟨gap, bytes, spaces, rfl, rfl⟩
      rw [Shape.filled_cons, run_bind_of_ok noMore, if_neg Bool.false_ne_true, List.forall_mem_cons]
      split
      · next absent => simp [absent]
      · next absent =>
          rw [and_iff_right absent]
          exact @inductionHypothesis [] spaces_nil

/-- The items of a list are put into the parts that are left, in order. -/
theorem run_filled_eq_ok_iff
    (reads : ∀ part ∈ later, Reads part.reader part.written) :
    (shape.filled record count later).run ending bytes = .ok (result, rest) ↔
      ∃ items text,
        FollowingItems count items text ∧
          Fills later record items result ∧ bytes = text ++ rest := by
  constructor
  · intro read
    induction later generalizing record count bytes with
    | nil =>
        rcases run_bind_eq_ok_iff.mp read with ⟨made, middle, valuesRead, endMore⟩
        rcases run_pure_eq_ok_iff.mp valuesRead with ⟨rfl, rfl⟩
        rcases run_bind_eq_ok_iff.mp endMore with ⟨_, left, endRead, done⟩
        rcases run_pure_eq_ok_iff.mp done with ⟨rfl, rfl⟩
        rcases run_endOfList_eq_ok_iff.mp endRead with ⟨gap, spaces, rfl⟩
        exact
          ⟨[], gap ++ [byte ']'], followingItems_nil_iff.mpr ⟨gap, spaces, rfl⟩, .finish nofun,
            by simp⟩
    | cons part later inductionHypothesis =>
        rcases List.forall_mem_cons.mp reads with ⟨readsPart, readsLater⟩
        have unfolded := read
        rw [Shape.filled_cons] at unfolded
        rcases run_bind_eq_ok_iff.mp unfolded with ⟨more, middle, moreRead, afterMore⟩
        cases more with
        | false =>
            rcases run_moreItems_eq_false_iff.mp moreRead with ⟨gap, tail, spaces, rfl, rfl⟩
            rcases (run_filled_close_iff spaces).mp read with ⟨absent, rfl, rfl⟩
            exact
              ⟨[], gap ++ [byte ']'], followingItems_nil_iff.mpr ⟨gap, spaces, rfl⟩,
                .finish absent, by simp⟩
        | true =>
            rw [if_pos rfl] at afterMore
            rcases run_moreItems_eq_true_iff.mp moreRead with
              ⟨lead, first, tail, isLead, -, -, -, rfl⟩
            rcases run_bind_eq_ok_iff.mp afterMore with ⟨value, left, valueRead, othersRead⟩
            rcases readsPart.run_eq_ok_iff.mp valueRead with ⟨gap, item, spaces, written, rfl⟩
            rcases inductionHypothesis readsLater othersRead with
              ⟨items, others, following, fills, rfl⟩
            have cons : FollowingItems count (item :: items) (lead ++ gap ++ (item ++ others)) :=
              followingItems_cons_iff.mpr ⟨_, _, isLead.append_spaces spaces, following, rfl⟩
            exact ⟨item :: items, _, cons, .put written fills, by simp⟩
  · rintro ⟨items, text, following, fills, rfl⟩
    induction fills generalizing count text with
    | finish absent =>
        rcases followingItems_nil_iff.mp following with ⟨gap, spaces, rfl⟩
        rw [List.append_assoc]
        exact (run_filled_close_iff spaces).mpr ⟨absent, rfl, rfl⟩
    | @put part later record result value item items written others inductionHypothesis =>
        rcases List.forall_mem_cons.mp reads with ⟨readsPart, readsLater⟩
        rcases followingItems_cons_iff.mp following with ⟨lead, left, isLead, followingLeft, rfl⟩
        rcases (readsPart.valueText written).exists_head with ⟨first, more, split, starts⟩
        have moreRead :
            (moreItems count).run ending (lead ++ (item ++ left) ++ rest) =
              .ok (true, item ++ (left ++ rest)) :=
          run_moreItems_eq_true_iff.mpr
            ⟨lead, first, more ++ (left ++ rest), isLead, isSpace_of_startsValue starts,
              (ne_of_startsValue starts).2.1, by rw [split]; rfl, by simp⟩
        have valueRead :
            part.reader.run ending (item ++ (left ++ rest)) = .ok (value, left ++ rest) :=
          readsPart.run_eq_ok_iff.mpr ⟨[], item, spaces_nil, written, rfl⟩
        rw [Shape.filled_cons, run_bind_of_ok moreRead, if_pos rfl, run_bind_of_ok valueRead]
        exact @inductionHypothesis (count + 1) readsLater left followingLeft

/-! ## Fields in order -/

theorem inOrder_nil_iff
    {fields : List FieldText} :
    InOrder fields [] ↔ ∀ field ∈ fields, field.omissible := by
  induction fields with
  | nil => simp [InOrder]
  | cons field fields inductionHypothesis => simp [InOrder, inductionHypothesis]

theorem fills_nil_iff :
    Fills later record [] result ↔ (∀ part ∈ later, part.absent ≠ none) ∧ record = result := by
  constructor
  · intro fills
    cases fills with
    | finish absent => exact ⟨absent, rfl⟩
  · rintro ⟨absent, rfl⟩
    exact .finish absent

theorem fills_cons_iff
    {part : RecordPart Record} :
    Fills (part :: later) record (item :: items) result ↔
      ∃ value, part.written value item ∧ Fills later (part.put value record) items result := by
  constructor
  · intro fills
    cases fills with
    | put written others => exact ⟨_, written, others⟩
  · rintro ⟨value, written, others⟩
    exact .put written others

/-- Parts that are left blank where a list ends are written by leaving them out. -/
theorem fills_nil_iff_inOrder
    (describes : shape.Describes parts)
    (known : ∀ part ∈ later, part ∈ parts)
    (blank : ∀ part ∈ later, part.view record = part.view shape.blank) :
    Fills later record [] result ↔
      InOrder (later.map (·.field result)) [] ∧
        ∀ part ∈ parts, part ∉ later → part.view result = part.view record := by
  rw [fills_nil_iff, inOrder_nil_iff, List.forall_mem_map]
  constructor
  · rintro ⟨absent, rfl⟩
    refine ⟨?_, fun _ _ _ => rfl⟩
    intro part member
    rcases Option.ne_none_iff_exists'.mp (absent part member) with ⟨value, isAbsent⟩
    have isBlank := describes.blank part (known part member) value isAbsent
    exact isAbsent.trans (congrArg some ((blank part member).trans isBlank).symm)
  · rintro ⟨omissible, untouched⟩
    have omitted : ∀ part ∈ later, part.absent = some (part.view result) := omissible
    constructor
    · intro part member isNone
      cases isNone.symm.trans (omitted part member)
    · apply describes.ext
      intro part member
      by_cases left : part ∈ later
      · exact (blank part left).trans (describes.blank part member _ (omitted part left))
      · exact (untouched part member left).symm

/-- Items are put into the parts of a record exactly if they write its fields in order. -/
theorem fills_iff_inOrder
    (describes : shape.Describes parts)
    (known : ∀ part ∈ later, part ∈ parts)
    (keys : (later.map RecordPart.key).Nodup)
    (blank : ∀ part ∈ later, part.view record = part.view shape.blank) :
    Fills later record items result ↔
      InOrder (later.map (·.field result)) items ∧
        ∀ part ∈ parts, part ∉ later → part.view result = part.view record := by
  induction later generalizing record items with
  | nil =>
      cases items with
      | nil => exact fills_nil_iff_inOrder describes known blank
      | cons item items =>
          constructor
          · intro impossible
            cases impossible
          · rintro ⟨impossible, -⟩
            cases impossible
  | cons part later inductionHypothesis =>
      cases items with
      | nil => exact fills_nil_iff_inOrder describes known blank
      | cons item items =>
          rcases List.forall_mem_cons.mp known with ⟨isPart, knownLater⟩
          rcases List.nodup_cons.mp keys with ⟨fresh, keysLater⟩
          have notLater : part ∉ later := fun member => fresh (List.mem_map_of_mem member)
          -- Putting this part leaves those behind it blank.
          have untouched : ∀ other ∈ parts, other ≠ part → ∀ value : part.Value,
              other.view (part.put value record) = other.view record := by
            intro other member different value
            apply describes.view_put_of_ne part isPart other member
            intro sameKey
            exact different (describes.eq_of_key isPart member sameKey).symm
          have blankLater : ∀ value : part.Value, ∀ other ∈ later,
              other.view (part.put value record) = other.view shape.blank := by
            intro value other member
            have different : other ≠ part := fun same => notLater (same ▸ member)
            exact
              (untouched other (knownLater other member) different value).trans
                (blank other (List.mem_cons_of_mem _ member))
          rw [fills_cons_iff]
          constructor
          · rintro ⟨value, written, fills⟩
            rcases (inductionHypothesis knownLater keysLater (blankLater value)).mp fills with
              ⟨inOrder, others⟩
            have isValue : part.view result = value :=
              (others part isPart notLater).trans (describes.view_put part isPart value record)
            subst isValue
            refine ⟨⟨written, inOrder⟩, ?_⟩
            intro other member notIn
            rcases List.ne_and_not_mem_of_not_mem_cons notIn with ⟨different, notLaterOther⟩
            exact (others other member notLaterOther).trans (untouched other member different _)
          · rintro ⟨⟨written, inOrder⟩, others⟩
            refine ⟨part.view result, written, ?_⟩
            apply (inductionHypothesis knownLater keysLater (blankLater _)).mpr
            refine ⟨inOrder, ?_⟩
            intro other member notIn
            by_cases same : other = part
            · subst same
              exact (describes.view_put other member _ record).symm
            · exact
                (others other member (List.not_mem_cons_of_ne_of_not_mem same notIn)).trans
                  (untouched other member same _).symm

end RegisterTrace.Json
