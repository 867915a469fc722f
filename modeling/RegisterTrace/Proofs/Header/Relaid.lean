import Mathlib.Logic.Relation
import RegisterTrace.Proofs.Header.Sayings

/-!
# Headers in another layout

How lines end and which blanks stand at their ends does not matter for what a header defines, and it
does not move an error to another line.  A line that says nothing may be put in anywhere: it leaves
the registers as they are, and an error behind it is found one line further down.
-/

namespace RegisterTrace.Header

variable {text other gap : String}

/-! ## Blanks at the ends of lines -/

/-- Blanks that stay within a line. -/
structure InLine (gap : String) : Prop where
  blanks : Blanks gap.toList
  noFeed : '\n' ∉ gap.toList

theorem ofText_append_left
    (blanks : Blanks gap.toList)
    (line : String) :
    Line.ofText (gap ++ line) = Line.ofText line := by
  rw [Line.ofText, Line.ofText, String.toList_append, blanks.trimBlanks_append_left]

theorem ofText_append_right
    (blanks : Blanks gap.toList)
    (line : String) :
    Line.ofText (line ++ gap) = Line.ofText line := by
  rw [Line.ofText, Line.ofText, String.toList_append, blanks.trimBlanks_append_right]

/-- Blanks in front of a text change nothing of what its lines say. -/
theorem sayings_append_left
    (inLine : InLine gap)
    (text : String) :
    sayings (gap ++ text) = sayings text := by
  rcases Source.exists_textLines_append_left inLine.noFeed text with
    ⟨first, rest, lines, linesBehind⟩
  rw [sayings, sayings, lines, linesBehind, List.map_cons, List.map_cons,
    ofText_append_left inLine.blanks]

theorem sayings_append_right
    (inLine : InLine gap)
    (text : String) :
    sayings (text ++ gap) = sayings text := by
  rcases Source.exists_textLines_append_right inLine.noFeed text with
    ⟨front, last, lines, linesBefore⟩
  rw [sayings, sayings, lines, linesBefore, List.map_append, List.map_append, List.map_singleton,
    List.map_singleton, ofText_append_right inLine.blanks]

theorem sayings_append
    (first second : String) :
    sayings (first ++ "\n" ++ second) = sayings first ++ sayings second := by
  rw [sayings, Source.textLines_append, List.map_append]
  rfl

/-! ## Changes of the layout -/

/-- One change of a text that concerns its layout only. -/
inductive Relaid : String → String → Prop where
  | withReturn
      (before after : String) :
      Relaid (before ++ "\n" ++ after) (before ++ "\r\n" ++ after)
  | startOfLine
      {before gap : String}
      (atStart : before = "" ∨ ∃ earlier, before = earlier ++ "\n")
      (inLine : InLine gap)
      (after : String) :
      Relaid (before ++ after) (before ++ gap ++ after)
  | endOfLine
      {gap after : String}
      (before : String)
      (inLine : InLine gap)
      (atEnd : after = "" ∨ ∃ later, after = "\n" ++ later) :
      Relaid (before ++ after) (before ++ gap ++ after)
  | lastFeed
      (text : String) :
      Relaid text (text ++ "\n")

theorem inLine_return : InLine "\r" :=
  ⟨by decide, by decide⟩

/-- A text in another layout says the same, or a last line is added that says nothing. -/
theorem Relaid.sayings_eq
    (relaid : Relaid text other) :
    sayings other = sayings text ∨ sayings other = sayings text ++ [.other] := by
  cases relaid with
  | withReturn before after =>
      have ends : "\r\n" = "\r" ++ "\n" := rfl
      rw [ends, ← String.append_assoc, sayings_append, sayings_append,
        sayings_append_right inLine_return]
      exact .inl rfl
  | @startOfLine before gap atStart inLine after =>
      left
      rcases atStart with rfl | ⟨earlier, rfl⟩
      · rw [String.empty_append, String.empty_append, sayings_append_left inLine]
      · have behind : earlier ++ "\n" ++ gap ++ after = earlier ++ "\n" ++ (gap ++ after) :=
          String.append_assoc
        rw [behind, sayings_append, sayings_append, sayings_append_left inLine]
  | @endOfLine gap after before inLine atEnd =>
      left
      rcases atEnd with rfl | ⟨later, rfl⟩
      · rw [String.append_empty, String.append_empty, sayings_append_right inLine]
      · rw [← String.append_assoc, ← String.append_assoc, sayings_append, sayings_append,
          sayings_append_right inLine]
  | lastFeed =>
      right
      have split : text ++ "\n" = text ++ "\n" ++ "" := (String.append_empty).symm
      have nothing : sayings "" = [.other] := by
        rw [sayings, ← ofText_empty]
        rfl
      rw [split, sayings_append, nothing]

theorem Relaid.registers_eq
    (relaid : Relaid text other) :
    registers (Source.ofText text) = registers (Source.ofText other) := by
  rw [registers_ofText, registers_ofText]
  rcases relaid.sayings_eq with same | more
  · rw [same]
  · rw [more, registersOfSaid_concat_other]

/--
Any combination of changes of the layout, done or undone, leaves the registers of a header as they
are, and its error on the same line.  A line that says nothing may be put in behind any lines: the
registers are the same, and so is an error, except that it is found one line further down if it is
behind the new line.
-/
theorem layout_does_not_matter :
    (∀ text other,
      Relation.EqvGen Relaid text other →
        registers (Source.ofText text) = registers (Source.ofText other)) ∧
      ∀ text before line after,
        Source.textLines text = before ++ after →
          Line.ofText line = .other →
            '\n' ∉ line.toList →
              let longer := String.intercalate "\n" (before ++ line :: after)
              (∀ map,
                registers (Source.ofText text) = .ok map →
                  registers (Source.ofText longer) = .ok map) ∧
                ∀ error,
                  registers (Source.ofText text) = .error error →
                    ∃ number,
                      error.line? = some number ∧
                        registers (Source.ofText longer) =
                          .error (if before.length + 1 ≤ number then error.later else error) := by
  constructor
  · intro text other relaid
    induction relaid with
    | rel text other relaid => exact relaid.registers_eq
    | refl text => rfl
    | symm text other _ inductionHypothesis => exact inductionHypothesis.symm
    | trans text middle other _ _ first second => exact first.trans second
  · intro text before line after lines saysNothing sameLine longer
    have noFeed : ∀ other ∈ before ++ line :: after, '\n' ∉ other.toList := by
      intro other member
      have cases : other = line ∨ other ∈ before ++ after := by
        simp only [List.mem_append, List.mem_cons] at member ⊢
        tauto
      rcases cases with rfl | old
      · exact sameLine
      · rw [← lines] at old
        exact Source.feed_notMem_of_mem_textLines old
    have said : sayings text = before.map Line.ofText ++ after.map Line.ofText := by
      rw [sayings, lines, List.map_append]
    have saidLonger :
        sayings longer = before.map Line.ofText ++ .other :: after.map Line.ofText := by
      rw [sayings, Source.textLines_intercalate (by simp) noFeed, List.map_append, List.map_cons,
        saysNothing]
    have inserted :=
      registersOfSaid_insert_other (before.map Line.ofText) (after.map Line.ofText)
    rw [List.length_map] at inserted
    rw [registers_ofText, registers_ofText, said, saidLonger]
    exact inserted

/--
A header whose second line comes too early, with a return, a wide blank and a last feed added, and
with a comment between its lines.
-/
theorem refused_in_any_layout :
    let text := "#define BASE 0x10\nu32 early : 1;"
    registers (Source.ofText text) = .error (.fieldWithoutRegister 2) ∧
      registers (Source.ofText "#define BASE 0x10\r\n\u3000u32 early : 1;\n") =
        .error (.fieldWithoutRegister 2) ∧
        registers (Source.ofText "#define BASE 0x10\n// note\nu32 early : 1;") =
          .error (.fieldWithoutRegister 3) := by
  intro text
  have refused : registers (Source.ofText text) = .error (.fieldWithoutRegister 2) := by
    decide +kernel
  have indented : Relaid text "#define BASE 0x10\n\u3000u32 early : 1;" :=
    @Relaid.startOfLine "#define BASE 0x10\n" "\u3000" (.inr ⟨"#define BASE 0x10", rfl⟩)
      ⟨by decide, by decide⟩ "u32 early : 1;"
  have returned :
      Relaid "#define BASE 0x10\n\u3000u32 early : 1;"
        "#define BASE 0x10\r\n\u3000u32 early : 1;" :=
    .withReturn "#define BASE 0x10" "\u3000u32 early : 1;"
  have ended :
      Relaid "#define BASE 0x10\r\n\u3000u32 early : 1;"
        "#define BASE 0x10\r\n\u3000u32 early : 1;\n" :=
    .lastFeed _
  have relaid :
      Relation.EqvGen Relaid text "#define BASE 0x10\r\n\u3000u32 early : 1;\n" :=
    .trans _ _ _ (.rel _ _ indented) (.trans _ _ _ (.rel _ _ returned) (.rel _ _ ended))
  have same := layout_does_not_matter.1 text _ relaid
  have inserted :=
    (layout_does_not_matter.2 text ["#define BASE 0x10"] "// note" ["u32 early : 1;"] (by decide)
      (by decide +kernel) (by decide)).2 _ refused
  refine ⟨refused, same.symm.trans refused, ?_⟩
  rcases inserted with ⟨number, named, moved⟩
  cases named
  exact moved

end RegisterTrace.Header
