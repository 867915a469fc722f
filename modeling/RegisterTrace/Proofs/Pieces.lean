import Mathlib.Data.List.Basic

/-!
# Pieces between marks

What is split at a mark falls into pieces without the mark.  Pieces that are ended by a mark and a
rest behind them are found again by splitting.
-/

namespace RegisterTrace

variable
    {Item : Type}
    [DecidableEq Item]
    {mark : Item}

/-- The mark is in none of the pieces between marks. -/
theorem notMem_of_mem_splitOn
    (items : List Item) :
    ∀ piece ∈ items.splitOn mark, mark ∉ piece := by
  induction items with
  | nil => simp
  | cons first rest inductionHypothesis =>
      rw [List.splitOn_cons_eq_if_modifyHead]
      split
      · exact List.forall_mem_cons.mpr ⟨List.not_mem_nil, inductionHypothesis⟩
      · next differs =>
          cases split : rest.splitOn mark with
          | nil => exact absurd split (List.splitOn_ne_nil mark rest)
          | cons piece others =>
              rw [split, List.forall_mem_cons] at inductionHypothesis
              rcases inductionHypothesis with ⟨noMark, noMarkLater⟩
              refine List.forall_mem_cons.mpr ⟨?_, noMarkLater⟩
              rw [List.mem_cons, not_or]
              exact ⟨fun same => differs (beq_iff_eq.mpr same.symm), noMark⟩

/-- Pieces that are ended by a mark, and what is left behind them, are told from each other. -/
theorem splitOn_flatMap_append
    {ended : List (List Item)}
    {rest : List Item}
    (noMark : ∀ piece ∈ ended, mark ∉ piece)
    (noMarkBehind : mark ∉ rest) :
    (ended.flatMap (· ++ [mark]) ++ rest).splitOn mark = ended ++ [rest] := by
  induction ended with
  | nil => exact List.splitOn_eq_singleton noMarkBehind
  | cons piece others inductionHypothesis =>
      rcases List.forall_mem_cons.mp noMark with ⟨noMarkHere, noMarkLater⟩
      rw [List.flatMap_cons, List.append_assoc, List.append_assoc, List.singleton_append,
        List.splitOn_append_cons_self_of_not_mem noMarkHere, inductionHypothesis noMarkLater,
        List.cons_append]

end RegisterTrace
