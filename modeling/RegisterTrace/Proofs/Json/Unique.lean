import RegisterTrace.Proofs.Json.Skip

/-!
# One text, one reading

A value is told from what follows it, so bytes are a list of items in one way only, and an object of
members in one way only.
-/

namespace RegisterTrace.Json

variable {text leftRest rightRest : List UInt8}

/-- Spaces in front end at the first byte that is none. -/
theorem spaces_append_inj
    {left right : List UInt8}
    {leftFirst rightFirst : UInt8}
    (leftSpaces : Spaces left)
    (rightSpaces : Spaces right)
    (leftStops : isSpace leftFirst = false)
    (rightStops : isSpace rightFirst = false)
    (same : left ++ leftFirst :: leftRest = right ++ rightFirst :: rightRest) :
    left = right ∧ leftFirst = rightFirst ∧ leftRest = rightRest := by
  have taken : ∀ (gap : List UInt8) (first : UInt8) (more : List UInt8),
      Spaces gap → isSpace first = false → (gap ++ first :: more).takeWhile isSpace = gap := by
    intro gap first more spaces stops
    rw [List.takeWhile_append_of_pos spaces, List.takeWhile_cons_of_neg (by simp [stops]),
      List.append_nil]
  have sameGap := congrArg (List.takeWhile isSpace) same
  rw [taken left leftFirst leftRest leftSpaces leftStops,
    taken right rightFirst rightRest rightSpaces rightStops] at sameGap
  subst sameGap
  have rests := List.append_cancel_left same
  rw [List.cons.injEq] at rests
  exact ⟨rfl, rests⟩

/-- Two values that bytes start with are one, if both end there. -/
theorem valueText_append_inj
    {left right : List UInt8}
    (leftValue : ValueText left)
    (rightValue : ValueText right)
    (leftEnds : Ends leftRest)
    (rightEnds : Ends rightRest)
    (same : left ++ leftRest = right ++ rightRest) :
    left = right ∧ leftRest = rightRest := by
  have leftRead := @Skip.run_value .finished leftRest [] left spaces_nil leftValue leftEnds
  have rightRead := @Skip.run_value .finished rightRest [] right spaces_nil rightValue rightEnds
  rw [same, rightRead] at leftRead
  cases leftRead
  exact ⟨List.append_cancel_right same, rfl⟩

/-- Behind spaces bytes start with one list of values only, whatever follows it. -/
theorem gap_listText_append_inj
    {leftGap rightGap left right : List UInt8}
    {items others : List (List UInt8)}
    (leftSpaces : Spaces leftGap)
    (rightSpaces : Spaces rightGap)
    (leftList : ListText items left)
    (areItems : ∀ item ∈ items, ValueText item)
    (rightList : ListText others right)
    (areOthers : ∀ item ∈ others, ValueText item)
    (same : leftGap ++ (left ++ leftRest) = rightGap ++ (right ++ rightRest)) :
    leftGap = rightGap ∧ left = right ∧ leftRest = rightRest := by
  have leftRead :=
    @Skip.run_value_of_listText .finished leftGap left items leftSpaces leftList areItems leftRest
  have rightRead :=
    @Skip.run_value_of_listText .finished rightGap right others rightSpaces rightList areOthers
      rightRest
  rw [same, rightRead] at leftRead
  cases leftRead
  have bracketNoSpace : isSpace (byte '[') = false := by decide
  rcases leftList with ⟨inside, -, rfl⟩
  rcases rightList with ⟨otherInside, -, rfl⟩
  rcases spaces_append_inj leftSpaces rightSpaces bracketNoSpace bracketNoSpace same with
    ⟨sameGap, -, sameRest⟩
  exact ⟨sameGap, congrArg (List.cons _) (List.append_cancel_right sameRest), rfl⟩

/-- The parts of a member are told from each other. -/
theorem member_append_inj
    {left right : MemberText}
    (leftQuoted : QuotedText left.key)
    (rightQuoted : QuotedText right.key)
    (leftSpaced : left.Spaced)
    (rightSpaced : right.Spaced)
    (leftValue : ValueText left.value)
    (rightValue : ValueText right.value)
    (leftEnds : Ends leftRest)
    (rightEnds : Ends rightRest)
    (same : left.bytes ++ leftRest = right.bytes ++ rightRest) :
    left = right ∧ leftRest = rightRest := by
  have noSpace : isSpace (byte ':') = false := by decide
  rcases left with ⟨leftKey, leftBefore, leftAfter, leftText⟩
  rcases right with ⟨rightKey, rightBefore, rightAfter, rightText⟩
  simp only [MemberText.bytes, MemberText.afterQuote, List.cons_append, List.append_assoc,
    List.cons.injEq, true_and] at same
  rcases Text.quotedText_append_inj leftQuoted rightQuoted same with ⟨rfl, behindKey⟩
  rcases spaces_append_inj leftSpaced.1 rightSpaced.1 noSpace noSpace behindKey with
    ⟨rfl, -, behindColon⟩
  rcases leftValue.exists_head with ⟨leftFirst, leftMore, rfl, leftStarts⟩
  rcases rightValue.exists_head with ⟨rightFirst, rightMore, rfl, rightStarts⟩
  rcases spaces_append_inj leftSpaced.2 rightSpaced.2 (isSpace_of_startsValue leftStarts)
    (isSpace_of_startsValue rightStarts) behindColon with ⟨rfl, rfl, behindFirst⟩
  have values : leftFirst :: leftMore ++ leftRest = leftFirst :: rightMore ++ rightRest :=
    congrArg (List.cons leftFirst) behindFirst
  rcases valueText_append_inj leftValue rightValue leftEnds rightEnds values with ⟨sameValue, rest⟩
  cases sameValue
  exact ⟨rfl, rest⟩

/-! ## Items in brackets -/

open Skip

variable {inner : Bracket}

theorem isItem_append_inj
    {left right : List UInt8}
    (leftItem : IsItem inner left)
    (rightItem : IsItem inner right)
    (leftEnds : Ends leftRest)
    (rightEnds : Ends rightRest)
    (same : left ++ leftRest = right ++ rightRest) :
    left = right ∧ leftRest = rightRest := by
  cases inner with
  | list => exact valueText_append_inj leftItem rightItem leftEnds rightEnds same
  | object =>
      rcases leftItem with ⟨leftMember, rfl, leftSpaced, leftQuoted, leftValue⟩
      rcases rightItem with ⟨rightMember, rfl, rightSpaced, rightQuoted, rightValue⟩
      rcases member_append_inj leftQuoted rightQuoted leftSpaced rightSpaced leftValue rightValue
        leftEnds rightEnds same with ⟨rfl, rest⟩
      exact ⟨rfl, rest⟩

theorem Following.ends_of_bracket
    {items : List (List UInt8)}
    (following : Following inner.closing items text) :
    Ends text := by
  have ends := ends_of_following following []
  rw [List.append_nil] at ends
  exact ends

/-- Behind spaces bytes start with one item only. -/
theorem gap_item_append_inj
    {leftGap rightGap left right leftLater rightLater : List UInt8}
    {leftItems rightItems : List (List UInt8)}
    (leftSpaces : Spaces leftGap)
    (rightSpaces : Spaces rightGap)
    (leftItem : IsItem inner left)
    (rightItem : IsItem inner right)
    (leftFollowing : Following inner.closing leftItems leftLater)
    (rightFollowing : Following inner.closing rightItems rightLater)
    (same : leftGap ++ (left ++ leftLater) = rightGap ++ (right ++ rightLater)) :
    left = right ∧ leftLater = rightLater := by
  rcases leftItem.exists_head with ⟨leftFirst, leftMore, leftSplit, leftStops, -⟩
  rcases rightItem.exists_head with ⟨rightFirst, rightMore, rightSplit, rightStops, -⟩
  rw [leftSplit, rightSplit] at same
  rcases spaces_append_inj leftSpaces rightSpaces leftStops rightStops same with
    ⟨-, sameFirst, behindFirst⟩
  have sameItems : left ++ leftLater = right ++ rightLater := by
    rw [leftSplit, rightSplit, sameFirst]
    exact congrArg (List.cons rightFirst) behindFirst
  exact
    isItem_append_inj leftItem rightItem leftFollowing.ends_of_bracket
      rightFollowing.ends_of_bracket sameItems

/-- What follows an item is read in one way. -/
theorem following_inj
    {items others : List (List UInt8)}
    (left : Following inner.closing items text)
    (areItems : ∀ item ∈ items, IsItem inner item)
    (right : Following inner.closing others text)
    (areOthers : ∀ item ∈ others, IsItem inner item) :
    items = others := by
  have closingNoSpace := isSpace_closing inner
  have commaNoSpace : isSpace (byte ',') = false := by decide
  have differs : inner.closing ≠ byte ',' := by
    cases inner <;> decide
  induction left generalizing others with
  | @close leftGap leftSpaces =>
      generalize whole : leftGap ++ [inner.closing] = given at right
      cases right with
      | close rightSpaces => rfl
      | next rightSpaces _ _ =>
          have heads := spaces_append_inj leftSpaces rightSpaces closingNoSpace commaNoSpace whole
          exact absurd heads.2.1 differs
  | @next leftGap leftAfter leftItem leftLater items leftSpaces leftSpacesAfter leftFollowing
      inductionHypothesis =>
      generalize whole :
        leftGap ++ byte ',' :: (leftAfter ++ (leftItem ++ leftLater)) = given at right
      cases right with
      | close rightSpaces =>
          have heads := spaces_append_inj leftSpaces rightSpaces commaNoSpace closingNoSpace whole
          exact absurd heads.2.1.symm differs
      | next rightSpaces rightSpacesAfter rightFollowing =>
          rcases List.forall_mem_cons.mp areItems with ⟨isLeft, areLeft⟩
          rcases List.forall_mem_cons.mp areOthers with ⟨isRight, areRight⟩
          have commas := spaces_append_inj leftSpaces rightSpaces commaNoSpace commaNoSpace whole
          rcases gap_item_append_inj leftSpacesAfter rightSpacesAfter isLeft isRight leftFollowing
            rightFollowing commas.2.2 with ⟨rfl, rfl⟩
          rw [inductionHypothesis areLeft rightFollowing areRight]

theorem opened_inj
    {items others : List (List UInt8)}
    (left : Opened inner.closing items text)
    (areItems : ∀ item ∈ items, IsItem inner item)
    (right : Opened inner.closing others text)
    (areOthers : ∀ item ∈ others, IsItem inner item) :
    items = others := by
  have noItem : ∀ (gap otherGap item later : List UInt8),
      Spaces gap → Spaces otherGap → IsItem inner item →
        gap ++ [inner.closing] ≠ otherGap ++ (item ++ later) := by
    intro gap otherGap item later spaces otherSpaces isItem same
    rcases isItem.exists_head with ⟨first, more, rfl, stops, noClosing⟩
    have heads := spaces_append_inj spaces otherSpaces (isSpace_closing inner) stops same
    exact noClosing heads.2.1.symm
  cases left with
  | @empty leftGap leftSpaces =>
      generalize whole : leftGap ++ [inner.closing] = given at right
      cases right with
      | empty rightSpaces => rfl
      | items rightSpaces rightFollowing =>
          have isRight := areOthers _ List.mem_cons_self
          exact absurd whole (noItem _ _ _ _ leftSpaces rightSpaces isRight)
  | @items leftGap leftFirst leftLater leftMore leftSpaces leftFollowing =>
      generalize whole : leftGap ++ (leftFirst ++ leftLater) = given at right
      rcases List.forall_mem_cons.mp areItems with ⟨isLeft, areLeft⟩
      cases right with
      | empty rightSpaces => exact absurd whole.symm (noItem _ _ _ _ rightSpaces leftSpaces isLeft)
      | items rightSpaces rightFollowing =>
          rcases List.forall_mem_cons.mp areOthers with ⟨isRight, areRight⟩
          rcases gap_item_append_inj leftSpaces rightSpaces isLeft isRight leftFollowing
            rightFollowing whole with ⟨rfl, rfl⟩
          rw [following_inj leftFollowing areLeft rightFollowing areRight]

/-- Bytes are a list of values in one way. -/
theorem listText_inj
    {items others : List (List UInt8)}
    (left : ListText items text)
    (areItems : ∀ item ∈ items, ValueText item)
    (right : ListText others text)
    (areOthers : ∀ item ∈ others, ValueText item) :
    items = others := by
  rcases left with ⟨inside, leftOpened, rfl⟩
  rcases right with ⟨_, rightOpened, ⟨⟩⟩
  exact @opened_inj _ .list _ _ leftOpened areItems rightOpened areOthers

theorem bytes_inj
    {left right : MemberText}
    (leftSound : left.Sound)
    (rightSound : right.Sound)
    (same : left.bytes = right.bytes) :
    left = right := by
  rcases leftSound with ⟨leftSpaced, leftQuoted, leftValue⟩
  rcases rightSound with ⟨rightSpaced, rightQuoted, rightValue⟩
  have ends : Ends [byte ','] := ⟨byte ',', [], rfl, .inr (.inl rfl)⟩
  have longer : left.bytes ++ [byte ','] = right.bytes ++ [byte ','] := by rw [same]
  exact
    (member_append_inj leftQuoted rightQuoted leftSpaced rightSpaced leftValue rightValue ends ends
      longer).1

/-- Lists with the same images are the same, if their items are told from each other by these. -/
theorem eq_of_map_eq
    {Item Image : Type}
    {image : Item → Image}
    {items others : List Item}
    (told : ∀ item ∈ items, ∀ other ∈ others, image item = image other → item = other)
    (same : items.map image = others.map image) :
    items = others := by
  induction items generalizing others with
  | nil => exact (List.map_eq_nil_iff.mp same.symm).symm
  | cons first more inductionHypothesis =>
      cases others with
      | nil => cases same
      | cons other rest =>
          rw [List.map_cons, List.map_cons, List.cons.injEq] at same
          have sameFirst := told first List.mem_cons_self other List.mem_cons_self same.1
          have sameMore : more = rest := by
            apply inductionHypothesis _ same.2
            intro item itemMember otherItem otherMember
            exact
              told item (List.mem_cons_of_mem _ itemMember) otherItem
                (List.mem_cons_of_mem _ otherMember)
          rw [sameFirst, sameMore]

/-- Bytes are an object of members in one way. -/
theorem objectText_inj
    {members others : List MemberText}
    (left : ObjectText members text)
    (areMembers : ∀ member ∈ members, member.Sound)
    (right : ObjectText others text)
    (areOthers : ∀ member ∈ others, member.Sound) :
    members = others := by
  rcases left with ⟨inside, leftOpened, rfl, -⟩
  rcases right with ⟨_, rightOpened, ⟨⟩, -⟩
  have areItems : ∀ (given : List MemberText), (∀ member ∈ given, member.Sound) →
      ∀ item ∈ given.map MemberText.bytes, IsItem .object item := by
    intro given areGiven item itemMember
    rcases List.mem_map.mp itemMember with ⟨member, isMember, rfl⟩
    exact ⟨member, rfl, areGiven member isMember⟩
  apply eq_of_map_eq fun member isMember other isOther =>
    bytes_inj (areMembers member isMember) (areOthers other isOther)
  exact
    @opened_inj _ .object _ _ leftOpened (areItems members areMembers) rightOpened
      (areItems others areOthers)

end RegisterTrace.Json
