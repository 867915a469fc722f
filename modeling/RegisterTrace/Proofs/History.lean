import Mathlib.Data.List.Induction

/-!
# Items and what came before them

What is right for an item of a list may depend on the items before it: a packet is sound after some
packets, a transaction shows a change from earlier ones.  `Throughout` says that every item is right
after those before it, and the latest item with a property is found in the list as it grows.
-/

namespace RegisterTrace

variable {Item : Type}

/-- Every item of a list is as it should be after the items before it. -/
def Throughout (holds : List Item → Item → Prop) (items : List Item) : Prop :=
  ∀ before item after, items = before ++ item :: after → holds before item

theorem throughout_nil
    (holds : List Item → Item → Prop) :
    Throughout holds [] := by
  intro before item after split
  simp at split

/-- A split of a list with one more item is one at that item, or a split of the list. -/
theorem append_singleton_eq_append_cons_iff
    {items before after : List Item}
    {last item : Item} :
    items ++ [last] = before ++ item :: after ↔
      (items = before ∧ last = item ∧ after = []) ∨
        ∃ most, after = most ++ [last] ∧ items = before ++ item :: most := by
  constructor
  · intro split
    rcases List.eq_nil_or_concat after with rfl | ⟨most, final, rfl⟩
    · rcases List.append_inj' split rfl with ⟨front, same⟩
      exact .inl ⟨front, List.singleton_inj.mp same, rfl⟩
    · rw [List.concat_eq_append, ← List.cons_append, ← List.append_assoc] at split
      rcases List.append_inj' split rfl with ⟨front, same⟩
      rw [List.concat_eq_append, List.singleton_inj.mp same]
      exact .inr ⟨most, rfl, front⟩
  · rintro (⟨rfl, rfl, rfl⟩ | ⟨most, rfl, rfl⟩)
    · rfl
    · rw [List.append_assoc, List.cons_append]

/-- One more item is right if it is right after all others. -/
theorem Throughout.concat
    {holds : List Item → Item → Prop}
    {items : List Item}
    {last : Item}
    (throughout : Throughout holds items)
    (right : holds items last) :
    Throughout holds (items ++ [last]) := by
  intro before item after split
  rcases append_singleton_eq_append_cons_iff.mp split with ⟨rfl, rfl, -⟩ | ⟨most, -, front⟩
  · exact right
  · exact throughout before item most front

/-- The latest item with a property is the last one, or the one that was latest before it. -/
theorem findRev?_concat
    (test : Item → Bool)
    (items : List Item)
    (last : Item) :
    (items ++ [last]).findRev? test = if test last then some last else items.findRev? test := by
  rw [List.findRev?_eq_find?_reverse, List.findRev?_eq_find?_reverse, List.reverse_append,
    List.reverse_singleton, List.singleton_append, List.find?_cons]
  cases test last with
  | false => rfl
  | true => rfl

/-- If some items are not all right, there is a first one that is not. -/
theorem exists_first_of_not_throughout
    {holds : List Item → Item → Prop}
    {items : List Item}
    (wrong : ¬ Throughout holds items) :
    ∃ before item after,
      items = before ++ item :: after ∧ Throughout holds before ∧ ¬ holds before item := by
  induction items using List.reverseRecOn with
  | nil => exact absurd (throughout_nil holds) wrong
  | append_singleton items last inductionHypothesis =>
      by_cases throughout : Throughout holds items
      · refine ⟨items, last, [], rfl, throughout, ?_⟩
        intro right
        exact wrong (throughout.concat right)
      · rcases inductionHypothesis throughout with ⟨before, item, after, split, sound, unsound⟩
        refine ⟨before, item, after ++ [last], ?_, sound, unsound⟩
        rw [split, List.append_assoc, List.cons_append]

/-- If some items are not all right, there is a last one that is not. -/
theorem exists_last_of_not_throughout
    {holds : List Item → Item → Prop}
    {items : List Item}
    (wrong : ¬ Throughout holds items) :
    ∃ before item after,
      items = before ++ item :: after ∧
        ¬ holds before item ∧
          Throughout (fun between later => holds (before ++ item :: between) later) after := by
  induction items using List.reverseRecOn with
  | nil => exact absurd (throughout_nil holds) wrong
  | append_singleton items last inductionHypothesis =>
      by_cases right : holds items last
      · have wrongBefore : ¬ Throughout holds items := fun throughout =>
          wrong (throughout.concat right)
        rcases inductionHypothesis wrongBefore with ⟨before, item, after, rfl, unsound, sound⟩
        refine ⟨before, item, after ++ [last], ?_, unsound, sound.concat right⟩
        rw [List.append_assoc, List.cons_append]
      · exact ⟨items, last, [], rfl, right, throughout_nil _⟩

end RegisterTrace
