import RegisterTrace.Proofs.Pieces
import RegisterTrace.Proofs.Utf8
import RegisterTrace.Source

/-!
# The lines of a source

Bytes fall into the lines that line feeds end and the bytes after the last line feed, in one way
only.  So a text whose lines are joined by line feeds is read as these lines.  A carriage return at
the end of a line that a line feed follows is taken off, and an empty last line is none.
-/

namespace RegisterTrace

namespace Source

/-! ## Bytes as lines -/

/-- The bytes of lines that line feeds end. -/
def joined (ended : List (List UInt8)) : List UInt8 :=
  ended.flatMap (· ++ [lineFeed])

/-- Bytes are the lines that line feeds end and what is left after the last line feed. -/
structure Cut (bytes : List UInt8) (ended : List (List UInt8)) (rest : List UInt8) : Prop where
  whole : bytes = joined ended ++ rest
  noFeed : ∀ piece ∈ ended, lineFeed ∉ piece
  noFeedBehind : lineFeed ∉ rest

theorem exists_cut
    (bytes : List UInt8) :
    ∃ ended rest, Cut bytes ended rest := by
  induction bytes with
  | nil => exact ⟨[], [], rfl, nofun, nofun⟩
  | cons byte more inductionHypothesis =>
      rcases inductionHypothesis with ⟨ended, rest, rfl, noFeed, noFeedBehind⟩
      by_cases feed : byte = lineFeed
      · refine ⟨[] :: ended, rest, by simp [joined, feed], ?_, noFeedBehind⟩
        exact List.forall_mem_cons.mpr ⟨nofun, noFeed⟩
      · have noFeedFirst : ¬ lineFeed = byte := fun same => feed same.symm
        cases ended with
        | nil =>
            refine ⟨[], byte :: rest, rfl, nofun, ?_⟩
            rw [List.mem_cons, not_or]
            exact ⟨noFeedFirst, noFeedBehind⟩
        | cons piece others =>
            rcases List.forall_mem_cons.mp noFeed with ⟨noFeedHere, noFeedLater⟩
            refine ⟨(byte :: piece) :: others, rest, by simp [joined], ?_, noFeedBehind⟩
            refine List.forall_mem_cons.mpr ⟨?_, noFeedLater⟩
            rw [List.mem_cons, not_or]
            exact ⟨noFeedFirst, noFeedHere⟩

theorem Cut.splitOn_eq
    {bytes rest : List UInt8}
    {ended : List (List UInt8)}
    (cut : Cut bytes ended rest) :
    bytes.splitOn lineFeed = ended ++ [rest] := by
  rw [cut.whole]
  exact splitOn_flatMap_append cut.noFeed cut.noFeedBehind

/-- Bytes can be cut in one way only. -/
theorem Cut.unique
    {bytes rest otherRest : List UInt8}
    {ended otherEnded : List (List UInt8)}
    (cut : Cut bytes ended rest)
    (otherCut : Cut bytes otherEnded otherRest) :
    ended = otherEnded ∧ rest = otherRest := by
  have same := cut.splitOn_eq
  rw [otherCut.splitOn_eq] at same
  rcases List.append_inj' same rfl with ⟨sameEnded, sameRest⟩
  exact ⟨sameEnded.symm, (List.singleton_inj.mp sameRest).symm⟩

/-- The lines of a source are those that line feeds end, and what its ending makes of the rest. -/
theorem Cut.lines_eq
    {bytes rest : List UInt8}
    {ended : List (List UInt8)}
    (cut : Cut bytes ended rest)
    (ending : Ending) :
    (Source.mk bytes ending).lines =
      (ended.map dropReturn).map line ++ remainder rest ending := by
  rw [lines]
  simp only [cut.splitOn_eq, List.dropLast_concat, List.getLast?_concat, Option.getD_some,
    List.map_map, Function.comp_def]

/-- Bytes behind a line feed do not change the lines before it. -/
theorem Cut.joined_append
    {bytes more rest : List UInt8}
    {ended later : List (List UInt8)}
    {unfinished : List UInt8}
    (cut : Cut bytes ended unfinished)
    (cutMore : Cut more later rest) :
    Cut (joined ended ++ more) (ended ++ later) rest where
  whole := by
    rw [cutMore.whole, joined, joined, joined, List.flatMap_append, List.append_assoc]
  noFeed := by
    intro piece member
    rcases List.mem_append.mp member with early | late
    · exact cut.noFeed piece early
    · exact cutMore.noFeed piece late
  noFeedBehind := cutMore.noFeedBehind

/-! ## Texts as lines -/

/-- A line of text without a carriage return at its end. -/
def withoutReturn (line : String) : String :=
  if line.toList.getLast? = some '\r' then String.ofList line.toList.dropLast else line

theorem line_encode
    (text : String) :
    line (Utf8.encode text) = .ok text := by
  rw [line, Utf8.decode?_encode]

theorem dropReturn_encode
    (text : String) :
    dropReturn (Utf8.encode text) = Utf8.encode (withoutReturn text) := by
  have small : '\r'.toNat < Utf8.asciiCount := by decide
  rw [dropReturn, withoutReturn]
  rcases List.eq_nil_or_concat text.toList with empty | ⟨front, last, split⟩
  · simp [empty, Utf8.encode]
  · have whole : text = String.ofList (front ++ [last]) := by
      rw [← List.concat_eq_append, ← split, String.ofList_toList]
    subst whole
    rw [String.toList_ofList, Utf8.encode_ofList_concat, List.getLast?_append,
      List.getLast?_concat, List.dropLast_concat]
    by_cases ends : last = '\r'
    · subst ends
      rw [Utf8.utf8EncodeChar_of_lt small]
      simp [carriageReturn]
    · have differs : some last ≠ some '\r' := fun same => ends (Option.some.inj same)
      rw [if_neg differs, if_neg, Utf8.encode_ofList_concat]
      intro found
      have nonempty : String.utf8EncodeChar last ≠ [] := String.utf8EncodeChar_ne_nil
      rw [List.getLast?_eq_getLast_of_ne_nil nonempty, Option.some_or, Option.some.injEq] at found
      have member := List.getLast_mem nonempty
      rw [found] at member
      exact ends (Utf8.eq_of_mem_utf8EncodeChar small member)

theorem encode_intercalate
    (lines : List String) :
    Utf8.encode (String.intercalate "\n" lines) =
      [lineFeed].intercalate (lines.map Utf8.encode) := by
  induction lines with
  | nil => rfl
  | cons first rest inductionHypothesis =>
      cases rest with
      | nil => simp
      | cons second more =>
          have feed : Utf8.encode "\n" = [lineFeed] := by decide
          rw [String.intercalate_cons_cons, Utf8.encode_append, Utf8.encode_append,
            inductionHypothesis, feed, List.map_cons, List.map_cons, List.map_cons,
            List.intercalate_cons_cons]

/-- A text that joins lines by line feeds has these lines. -/
theorem lines_ofText_intercalate
    {front : List String}
    {last : String}
    (noFeed : ∀ line ∈ front ++ [last], '\n' ∉ line.toList) :
    (ofText (String.intercalate "\n" (front ++ [last]))).lines =
      (front.map withoutReturn ++ if last = "" then [] else [last]).map .ok := by
  have small : '\n'.toNat < Utf8.asciiCount := by decide
  have pieces :
      (Utf8.encode (String.intercalate "\n" (front ++ [last]))).splitOn lineFeed =
        (front ++ [last]).map Utf8.encode := by
    rw [encode_intercalate]
    apply List.splitOn_intercalate
    · intro piece member
      rcases List.mem_map.mp member with ⟨line, lineMember, rfl⟩
      exact fun inside => noFeed line lineMember ((Utf8.mem_encode_iff small).mp inside)
    · simp
  have notLast :
      (front.map Utf8.encode).map (fun piece => line (dropReturn piece)) =
        (front.map withoutReturn).map Except.ok := by
    rw [List.map_map, List.map_map]
    apply List.map_congr_left
    intro text member
    simp only [Function.comp_apply, dropReturn_encode, line_encode]
  have atEnd :
      remainder (Utf8.encode last) .finished =
        (if last = "" then [] else [last]).map Except.ok := by
    rw [remainder, line_encode]
    by_cases empty : last = ""
    · subst empty
      rfl
    · have nonempty : Utf8.encode last ≠ [] := by
        intro nothing
        exact empty (Utf8.encode_injective nothing)
      simp [empty, nonempty]
  rw [lines, ofText]
  simp only [pieces]
  rw [List.map_append, List.map_singleton, List.dropLast_concat, List.getLast?_concat,
    Option.getD_some, notLast, atEnd, List.map_append]

/-! ## The lines that a text is made of -/

/-- What stands between the line feeds of a text; an empty last line is among it. -/
def textLines (text : String) : List String :=
  (text.toList.splitOn '\n').map String.ofList

theorem textLines_ne_nil
    (text : String) :
    textLines text ≠ [] :=
  mt List.map_eq_nil_iff.mp (List.splitOn_ne_nil '\n' text.toList)

theorem feed_notMem_of_mem_textLines
    {text line : String}
    (member : line ∈ textLines text) :
    '\n' ∉ line.toList := by
  rcases List.mem_map.mp member with ⟨piece, isPiece, rfl⟩
  rw [String.toList_ofList]
  exact notMem_of_mem_splitOn text.toList piece isPiece

/-- A text is its lines with line feeds between them. -/
theorem intercalate_textLines
    (text : String) :
    String.intercalate "\n" (textLines text) = text := by
  have same : String.toList ∘ String.ofList = id := funext fun _ => String.toList_ofList
  rw [← String.toList_inj, String.toList_intercalate, textLines, List.map_map, same, List.map_id]
  exact List.intercalate_splitOn '\n'

/-- The lines of a text that joins lines are these. -/
theorem textLines_intercalate
    {lines : List String}
    (nonempty : lines ≠ [])
    (noFeed : ∀ line ∈ lines, '\n' ∉ line.toList) :
    textLines (String.intercalate "\n" lines) = lines := by
  have pieces : ∀ piece ∈ lines.map String.toList, '\n' ∉ piece := by
    intro piece member
    rcases List.mem_map.mp member with ⟨line, isLine, rfl⟩
    exact noFeed line isLine
  have same : String.ofList ∘ String.toList = id := funext fun _ => String.ofList_toList
  have feed : ("\n" : String).toList = ['\n'] := rfl
  rw [textLines, String.toList_intercalate, feed,
    List.splitOn_intercalate '\n' pieces (mt List.map_eq_nil_iff.mp nonempty), List.map_map, same,
    List.map_id]

theorem textLines_append
    (first second : String) :
    textLines (first ++ "\n" ++ second) = textLines first ++ textLines second := by
  have feed : ("\n" : String).toList = ['\n'] := rfl
  rw [textLines, String.toList_append, String.toList_append, feed, List.append_assoc,
    List.singleton_append, List.splitOn_append_cons_self, List.map_append]
  rfl

/-- What is put in front of a text stands in front of its first line. -/
theorem exists_textLines_append_left
    {gap : String}
    (noFeed : '\n' ∉ gap.toList)
    (text : String) :
    ∃ first rest,
      textLines text = first :: rest ∧ textLines (gap ++ text) = (gap ++ first) :: rest := by
  rcases List.exists_cons_of_ne_nil (textLines_ne_nil text) with ⟨first, rest, lines⟩
  refine ⟨first, rest, lines, ?_⟩
  have noFeedText : ∀ line ∈ first :: rest, '\n' ∉ line.toList := by
    rw [← lines]
    exact fun line => feed_notMem_of_mem_textLines
  rcases List.forall_mem_cons.mp noFeedText with ⟨noFeedFirst, noFeedRest⟩
  have joined : gap ++ text = String.intercalate "\n" ((gap ++ first) :: rest) := by
    rw [String.intercalate_cons_append, ← lines, intercalate_textLines]
  rw [joined]
  apply textLines_intercalate (List.cons_ne_nil _ _)
  refine List.forall_mem_cons.mpr ⟨?_, noFeedRest⟩
  rw [String.toList_append, List.mem_append, not_or]
  exact ⟨noFeed, noFeedFirst⟩

/-- What is put behind a text stands behind its last line. -/
theorem exists_textLines_append_right
    {gap : String}
    (noFeed : '\n' ∉ gap.toList)
    (text : String) :
    ∃ front last,
      textLines text = front ++ [last] ∧ textLines (text ++ gap) = front ++ [last ++ gap] := by
  rcases List.eq_nil_or_concat (textLines text) with none | ⟨front, last, lines⟩
  · exact absurd none (textLines_ne_nil text)
  rw [List.concat_eq_append] at lines
  refine ⟨front, last, lines, ?_⟩
  have noFeedText : ∀ line ∈ front ++ [last], '\n' ∉ line.toList := by
    rw [← lines]
    exact fun line => feed_notMem_of_mem_textLines
  rcases List.forall_mem_append.mp noFeedText with ⟨noFeedFront, noFeedLast⟩
  have joined : text ++ gap = String.intercalate "\n" (front ++ [last ++ gap]) := by
    rw [← intercalate_textLines text, lines]
    cases front with
    | nil => simp
    | cons first rest =>
        rw [String.intercalate_append_of_ne_nil (List.cons_ne_nil _ _) (List.cons_ne_nil _ _),
          String.intercalate_append_of_ne_nil (List.cons_ne_nil _ _) (List.cons_ne_nil _ _),
          String.intercalate_singleton, String.intercalate_singleton, String.append_assoc]
  rw [joined]
  apply textLines_intercalate (by simp)
  refine List.forall_mem_append.mpr ⟨noFeedFront, List.forall_mem_singleton.mpr ?_⟩
  rw [String.toList_append, List.mem_append, not_or]
  exact ⟨noFeedLast last (List.mem_singleton_self last), noFeed⟩

end Source

end RegisterTrace
