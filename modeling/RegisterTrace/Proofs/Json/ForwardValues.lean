import RegisterTrace.Proofs.Json.Forward
import RegisterTrace.Proofs.Json.Record.Items

/-!
# Values are read forward

Strings, numbers, values that are skipped, lists and records are read forward.  Two readers look
less far ahead than the others.  An exponent is taken without asking for the byte behind it, and a
number that is too large because of its exponent is refused then: more digits would only make it
larger.  And behind a comma after the last value of a record that is written as a list, only the
bytes delivered so far are looked at.
-/

namespace RegisterTrace.Json

open Reader

variable
    {Result : Type}

/-! ## Strings -/

namespace Text

theorem forward_nextInside : nextInside.Forward :=
  forward_next.bind fun
    | some found => forward_pure found
    | none => forward_fail _

theorem forward_fourDigits : fourDigits.Forward := by
  refine forward_nextInside.bind fun first => ?_
  refine forward_nextInside.bind fun second => ?_
  refine forward_nextInside.bind fun third => ?_
  refine forward_nextInside.bind fun fourth => ?_
  split
  · exact forward_pure _
  · exact forward_slip _

theorem forward_pairByte
    (expected : UInt8) :
    (pairByte expected).Forward :=
  forward_nextInside.bind fun _ => forward_ite (forward_pure ()) (forward_slip _)

theorem forward_numberedEscape : numberedEscape.Forward := by
  refine forward_fourDigits.bind fun unit => ?_
  refine forward_ite (forward_slip _) (forward_ite ?_ (forward_pure _))
  refine (forward_pairByte _).bind fun _ => (forward_pairByte _).bind fun _ => ?_
  exact forward_fourDigits.bind fun trailing => forward_ite (forward_pure _) (forward_slip _)

theorem forward_escape : escape.Forward := by
  refine forward_nextInside.bind fun first => ?_
  split
  · exact forward_pure _
  · exact forward_ite forward_numberedEscape (forward_slip _)

theorem forward_skippedEscape : skippedEscape.Forward := by
  refine forward_nextInside.bind fun first => ?_
  split
  · exact forward_pure _
  · exact forward_ite (forward_fourDigits.bind fun _ => forward_pure ()) (forward_slip _)

theorem forward_finish
    (reversed : List UInt8) :
    (finish reversed).Forward := by
  unfold finish
  split
  · exact forward_pure _
  · exact forward_slip _

theorem forward_kept : kept.Forward := by
  refine forward_loop (fun reversed value => ?_) []
  refine forward_ite ((forward_finish reversed).bind fun _ => forward_pure _) ?_
  refine forward_ite (forward_escape.bind fun _ => forward_pure _) ?_
  exact forward_ite (forward_slip _) (forward_pure _)

theorem forward_skipped : skipped.Forward := by
  refine forward_loop (fun _ value => ?_) ()
  refine forward_ite (forward_pure _) ?_
  refine forward_ite (forward_skippedEscape.bind fun _ => forward_pure _) ?_
  exact forward_ite (forward_slip _) (forward_pure _)

end Text

/-! ## Numbers -/

namespace Number

theorem forward_leading
    (first : UInt8) :
    (leading first).Forward :=
  forward_ite forward_next (forward_pure _)

theorem forward_digits : digits.Forward :=
  (endsWithRun_span isDigit).bind
    (fun _ => forward_peek.bind fun _ => forward_pure _)
    fun _ => .inl (asks_peek.bind _)

theorem forward_noDigit
    (atEnd : Fault)
    (found : Option UInt8) :
    (noDigit atEnd found : Reader Result).Forward := by
  cases found with
  | some value => exact forward_slip _
  | none => exact forward_fail atEnd

theorem forward_whole
    (atEnd : Fault)
    (first : Option UInt8) :
    (whole atEnd first).Forward := by
  cases first with
  | none => exact forward_fail atEnd
  | some found =>
      refine forward_ite (forward_peek.bind fun following => ?_) ?_
      · cases following with
        | none => exact forward_pure _
        | some value => exact forward_ite (forward_slip _) (forward_pure _)
      · exact forward_ite (forward_digits.bind fun _ => forward_pure _) (forward_slip _)

theorem forward_fraction
    (atEnd : Fault) :
    (fraction atEnd).Forward :=
  forward_digits.bind fun
    | [] => forward_peek.bind fun found => forward_noDigit atEnd found
    | _ :: _ => forward_pure _

theorem forward_fraction?
    (atEnd : Fault) :
    (fraction? atEnd).Forward := by
  refine forward_peek.bind fun found => forward_ite ?_ (forward_pure _)
  exact forward_next.bind fun _ => forward_fraction atEnd

theorem forward_sign : sign.Forward := by
  refine forward_peek.bind fun found => ?_
  refine forward_ite (forward_next.bind fun _ => forward_pure _) ?_
  exact forward_ite (forward_next.bind fun _ => forward_pure _) (forward_pure _)

/-- The exponent of which more digits were read. -/
def lengthenExponent (exponent : Bool × List UInt8) (more : List UInt8) : Bool × List UInt8 :=
  (exponent.1, exponent.2 ++ more)

/-- The number of whose exponent more digits were read. -/
def Parts.lengthen (parts : Parts) (more : List UInt8) : Parts :=
  { parts with exponent := parts.exponent.map (lengthenExponent · more) }

theorem endsWithRun_exponent
    (atEnd : Fault) :
    (exponent atEnd).EndsWithRun isDigit lengthenExponent := by
  refine forward_sign.bind_endsWithRun fun negative => ?_
  refine forward_next.bind_endsWithRun fun found => ?_
  cases found with
  | none => exact (forward_fail atEnd).endsWithRun _ _
  | some first =>
      change (if isDigit first then _ else _ : Reader (Bool × List UInt8)).EndsWithRun _ _
      split
      · exact (endsWithRun_span isDigit).map (fun run => (negative, first :: run)) fun _ _ => rfl
      · exact (forward_slip _).endsWithRun _ _

theorem endsWithRun_exponent?
    (atEnd : Fault) :
    (exponent? atEnd).EndsWithRun isDigit fun exponent more =>
      exponent.map (lengthenExponent · more) := by
  refine forward_peek.bind_endsWithRun fun found => ?_
  split
  · refine forward_next.bind_endsWithRun fun _ => ?_
    exact (endsWithRun_exponent atEnd).map some fun _ _ => rfl
  · exact (forward_pure none).endsWithRun _ _

/-- A number reads forward up to the digits of its exponent. -/
theorem endsWithRun_parts
    (atEnd : Fault)
    (first : UInt8) :
    (parts atEnd first).EndsWithRun isDigit Parts.lengthen := by
  rw [parts_eq_bind]
  refine (forward_leading first).bind_endsWithRun fun found => ?_
  refine (forward_whole atEnd found).bind_endsWithRun fun whole => ?_
  refine (forward_fraction? atEnd).bind_endsWithRun fun fraction => ?_
  exact (endsWithRun_exponent? atEnd).map _ fun _ _ => rfl

theorem forward_skipped
    (first : UInt8) :
    (skipped first).Forward :=
  (endsWithRun_parts _ first).bind
    (fun _ => forward_peek.bind fun _ => forward_pure ())
    fun _ => .inl (asks_peek.bind _)

theorem value_le_value_append
    (digits more : List UInt8) :
    value digits ≤ value (digits ++ more) := by
  rw [value, value, List.foldl_append]
  generalize digits.foldl (fun total digit => total * 10 + digitValue digit) 0 = total
  induction more generalizing total with
  | nil => exact Nat.le_refl total
  | cons digit rest inductionHypothesis =>
      exact Nat.le_trans (by omega) (inductionHypothesis (total * 10 + digitValue digit))

/-- An exponent that is too large stays so when more digits are read. -/
theorem Parts.exponentTooLarge_lengthen
    {parts : Parts}
    (tooLarge : parts.exponentTooLarge)
    (more : List UInt8) :
    (parts.lengthen more).exponentTooLarge := by
  rcases parts with ⟨negative, whole, fraction, none | ⟨exponentNegative, digits⟩⟩
  · cases tooLarge
  · have large : exponentLimit ≤ value digits := of_decide_eq_true tooLarge
    exact decide_eq_true (Nat.le_trans large (value_le_value_append digits more))

/-- A number whose exponent is too large is zero or refused, whatever the exponent is. -/
theorem Parts.found?_of_exponentTooLarge
    {parts : Parts}
    (tooLarge : parts.exponentTooLarge) :
    parts.found? =
      if parts.significand.1 = 0 ∨ parts.exponentNegative then
        some (.fraction parts.negative Binary64.zero)
      else
        none := by
  have written : parts.exponent.isSome := by
    cases exponent : parts.exponent with
    | none =>
        rw [exponentTooLarge, exponent] at tooLarge
        cases tooLarge
    | some digits => rfl
  rw [found?, integer?, if_pos (.inr written)]
  exact if_pos tooLarge

theorem Parts.found?_lengthen
    {parts : Parts}
    (tooLarge : parts.exponentTooLarge)
    (more : List UInt8) :
    (parts.lengthen more).found? = parts.found? := by
  rw [found?_of_exponentTooLarge tooLarge,
    found?_of_exponentTooLarge (exponentTooLarge_lengthen tooLarge more)]
  rcases parts with ⟨negative, whole, fraction, none | exponent⟩
  · cases tooLarge
  · rfl

theorem forward_evaluated
    (first : UInt8) :
    (evaluated first).Forward := by
  refine (endsWithRun_parts _ first).bind (fun parts => ?_) fun parts => ?_
  · refine forward_ite (forward_slip _) (forward_peek.bind fun _ => ?_)
    split
    · exact forward_pure _
    · exact forward_slip _
  · -- A number that is refused before the next byte is asked for is refused with more digits too.
    by_cases refused : parts.exponentTooLarge ∧ parts.found? = none
    · refine .inr ⟨.malformed .numberOutOfRange, if_pos refused, fun run => if_pos ?_⟩
      rw [Parts.found?_lengthen refused.1]
      exact ⟨Parts.exponentTooLarge_lengthen refused.1 run, refused.2⟩
    · left
      rw [if_neg refused]
      exact asks_peek.bind _

end Number

/-! ## Values that are skipped -/

namespace Skip

theorem forward_startValue
    (outer : List Bracket)
    (first : UInt8) :
    (startValue outer first).Forward := by
  unfold startValue
  refine forward_ite ((forward_word _).bind fun _ => forward_pure _) ?_
  refine forward_ite ((forward_word _).bind fun _ => forward_pure _) ?_
  refine forward_ite ((forward_word _).bind fun _ => forward_pure _) ?_
  refine forward_ite ((Number.forward_skipped first).bind fun _ => forward_pure _) ?_
  refine forward_ite (Text.forward_skipped.bind fun _ => forward_pure _) ?_
  refine forward_ite (forward_pure _) ?_
  exact forward_ite (forward_pure _) (forward_slip _)

theorem forward_startKey
    (outer : List Bracket)
    (first : UInt8) :
    (startKey outer first).Forward := by
  refine forward_ite (Text.forward_skipped.bind fun _ => ?_) (forward_slip _)
  exact forward_colon.bind fun _ => forward_pure _

theorem forward_step
    (place : Place)
    (found : UInt8) :
    (step place found).Forward := by
  cases place with
  | value outer => exact forward_startValue outer found
  | key outer => exact forward_startKey outer found
  | opened inner outer =>
      refine forward_ite (forward_pure _) ?_
      cases inner with
      | list => exact forward_startValue _ found
      | object => exact forward_startKey _ found
  | next inner outer =>
      refine forward_ite (forward_pure _) ?_
      cases inner with
      | list => exact forward_ite (forward_pure _) (forward_slip _)
      | object => exact forward_ite (forward_pure _) (forward_slip _)

theorem forward_value : Skip.value.Forward :=
  forward_loop (fun place found => forward_ite (forward_pure _) (forward_step place found)) _

end Skip

/-! ## What is asked for -/

namespace Reader

theorem forward_wrongKind
    (wanted : String)
    (first : UInt8) :
    (wrongKind wanted first : Reader Result).Forward := by
  unfold wrongKind
  refine forward_ite ((forward_word _).bind fun _ => forward_fail _) ?_
  refine forward_ite ((forward_word _).bind fun _ => forward_fail _) ?_
  refine forward_ite ((forward_word _).bind fun _ => forward_fail _) ?_
  refine forward_ite ((Number.forward_evaluated first).bind fun _ => forward_fail _) ?_
  refine forward_ite (Text.forward_kept.bind fun _ => forward_fail _) ?_
  refine forward_ite (forward_fail _) ?_
  exact forward_ite (forward_fail _) (forward_slip _)

theorem forward_text : text.Forward :=
  forward_nextToken.bind fun
    | none => forward_fail _
    | some first => forward_ite Text.forward_kept (forward_wrongKind _ first)

theorem Forward.optional
    {present : Reader Result}
    (forward : present.Forward) :
    (optional present).Forward := by
  refine forward_peekToken.bind fun found => forward_ite ?_ ?_
  · exact forward_next.bind fun _ => (forward_word _).bind fun _ => forward_pure _
  · exact forward.bind fun _ => forward_pure _

theorem forward_hasFirstItem : hasFirstItem.Forward :=
  forward_peekToken.bind fun
    | none => forward_fail _
    | some _ => forward_pure _

theorem forward_itemAfterComma : itemAfterComma.Forward :=
  forward_peekToken.bind fun
    | none => forward_fail _
    | some _ => forward_ite (forward_slip _) (forward_pure ())

theorem forward_hasNextItem : hasNextItem.Forward := by
  refine forward_peekToken.bind fun found => ?_
  cases found with
  | none => exact forward_fail _
  | some value =>
      refine forward_ite (forward_pure _) (forward_ite ?_ (forward_slip _))
      exact forward_next.bind fun _ => forward_itemAfterComma.bind fun _ => forward_pure _

theorem Forward.listStep
    {item : Reader Result}
    (forward : item.Forward)
    (reversed : List Result)
    (found : UInt8) :
    (Reader.listStep item reversed found).Forward := by
  refine forward_ite (forward_pure _) (forward_ite (forward_pure _) ?_)
  refine forward_ite (forward_itemAfterComma.bind fun _ => ?_) (forward_slip _)
  exact forward.bind fun _ => forward_pure _

theorem Forward.items
    {item : Reader Result}
    (forward : item.Forward) :
    (items item).Forward := by
  have rest : ∀ first, (loop (Reader.listStep item) (fun _ => .ended .list) first).Forward :=
    forward_loop forward.listStep
  refine forward_hasFirstItem.bind fun more => forward_ite ?_ ?_
  · exact forward.bind fun value => (forward_pure [value]).bind rest
  · exact (forward_pure []).bind rest

theorem Forward.list
    {item : Reader Result}
    (forward : item.Forward) :
    (list item).Forward :=
  forward_nextToken.bind fun
    | none => forward_fail _
    | some first => forward_ite forward.items (forward_wrongKind _ first)

theorem Forward.document
    {content : Reader Result}
    (forward : content.Forward) :
    (document content).Forward := by
  refine forward.bind fun result => forward_peekToken.bind fun found => ?_
  cases found with
  | none => exact forward_pure result
  | some value => exact forward_slip _

end Reader

/-! ## Records -/

namespace Shape

variable {Record : Type}

/-- The values of all members of a record are read forward. -/
def MembersForward (shape : Shape Record) : Prop :=
  ∀ member ∈ shape.members, member.value.Forward

theorem forward_finish
    (shape : Shape Record)
    (draft : Draft Record) :
    (shape.finish draft).Forward := by
  unfold finish
  split
  · exact forward_fail _
  · exact forward_pure _

theorem MembersForward.readMember
    {shape : Shape Record}
    (members : shape.MembersForward)
    (draft : Draft Record) :
    (shape.readMember draft).Forward := by
  refine Text.forward_kept.bind fun key => ?_
  split
  · next member known =>
      refine forward_ite (forward_fail _) (forward_colon.bind fun _ => ?_)
      exact (members member (List.mem_of_find?_eq_some known)).bind fun _ => forward_pure _
  · exact forward_colon.bind fun _ => Skip.forward_value.bind fun _ => forward_pure draft

theorem MembersForward.readMemberAfterComma
    {shape : Shape Record}
    (members : shape.MembersForward)
    (draft : Draft Record) :
    (shape.readMemberAfterComma draft).Forward := by
  refine forward_nextToken.bind fun found => ?_
  cases found with
  | none => exact forward_fail _
  | some value =>
      refine forward_ite (members.readMember draft) ?_
      exact forward_ite (forward_slip _) (forward_slip _)

theorem MembersForward.objectStep
    {shape : Shape Record}
    (members : shape.MembersForward)
    (draft : Draft Record)
    (found : UInt8) :
    (shape.objectStep draft found).Forward := by
  refine forward_ite (forward_pure _) ?_
  refine forward_ite ((shape.forward_finish draft).bind fun _ => forward_pure _) ?_
  refine forward_ite ?_ (forward_slip _)
  exact (members.readMemberAfterComma draft).bind fun _ => forward_pure _

theorem MembersForward.object
    {shape : Shape Record}
    (members : shape.MembersForward) :
    shape.object.Forward := by
  refine forward_nextToken.bind fun found => ?_
  cases found with
  | none => exact forward_fail _
  | some value =>
      refine forward_ite (shape.forward_finish _) (forward_ite ?_ (forward_slip _))
      exact (members.readMember _).bind (forward_loop members.objectStep)

theorem forward_values
    {members : List (Member Record)}
    (forward : ∀ member ∈ members, member.value.Forward)
    (shape : Shape Record)
    (record : Record)
    (count : Nat) :
    (shape.values record count members).Forward := by
  induction members generalizing record count with
  | nil => exact forward_pure record
  | cons member rest inductionHypothesis =>
      rcases List.forall_mem_cons.mp forward with ⟨memberForward, restForward⟩
      have asked : (moreItems count).Forward := forward_ite forward_hasFirstItem forward_hasNextItem
      rw [values_cons]
      refine asked.bind fun more => forward_ite ?_ (forward_ite (forward_fail _) ?_)
      · exact memberForward.bind fun set => inductionHypothesis restForward (set record) (count + 1)
      · exact inductionHypothesis restForward record count

/-- Takes what stands behind a comma that must not be there. -/
def behindComma : Reader Unit := do
  spaces
  if (← glance) = some (byte ']') then slip .trailingComma else slip .trailingCharacters

theorem run_behindComma
    (ending : Ending)
    (bytes : List UInt8) :
    behindComma.run ending bytes = .error (.malformed (afterComma bytes)) := by
  rw [behindComma, run_bind_of_ok (run_spaces ending bytes), afterComma]
  change (if _ then _ else _ : Reader Unit).run ending _ = _
  split
  · rfl
  · rfl

/-- Behind a comma, what follows matters only if nothing but spaces was delivered. -/
theorem exists_lasting_afterComma
    (front rest : List UInt8) :
    ∃ later,
      Lasting (front ++ byte ',' :: rest) (.malformed (afterComma rest)) later ∧
        ∀ more, .malformed (afterComma (rest ++ more)) = later more := by
  cases left : rest.dropWhile isSpace with
  | nil =>
      have spaces : Spaces rest := List.dropWhile_eq_nil_iff.mp left
      have fault : afterComma rest = .trailingCharacters := by
        rw [afterComma, left]
        rfl
      rw [fault]
      refine ⟨_, .behindComma ⟨front, rest, spaces, rfl⟩, fun more => ?_⟩
      rw [afterComma, List.dropWhile_append_of_pos spaces, afterComma]
  | cons value tail =>
      refine ⟨_, .always _, fun more => ?_⟩
      rw [afterComma, List.dropWhile_append, left, afterComma, left]
      rfl

/-- The end of a list reads forward, but behind an extra comma at the end of what is delivered. -/
theorem forward_endOfList : endOfList.Forward where
  taken := by
    intro reason bytes result rest read ending more
    rcases run_endOfList_eq_ok_iff.mp read with ⟨gap, spaces, rfl⟩
    exact run_endOfList_eq_ok_iff.mpr ⟨gap, spaces, List.append_assoc gap _ more⟩
  settled := by
    intro reason bytes fault failed
    rcases run_bind_eq_error_iff.mp failed with early | ⟨found, rest, read, late⟩
    · exact (forward_nextToken.settled early).bind _
    · have extended := forward_nextToken.taken read
      -- Only what stands behind a comma is looked at without asking for more.
      by_cases comma : found = some (byte ',')
      · rw [comma] at read late extended
        rcases (run_nextToken_eq_some_iff.mp read).2 with ⟨gap, -, rfl⟩
        cases (run_behindComma _ rest).symm.trans late
        rcases exists_lasting_afterComma gap rest with ⟨later, lasting, same⟩
        refine .inr ⟨later, lasting, fun ending more => ?_⟩
        rw [← same more, ← run_behindComma ending (rest ++ more)]
        exact extended.run_bind ending more
      · refine Settled.bind_of_extends ?_ (nextToken.isSuffix_of_run read) extended
        cases found with
        | none => exact (forward_fail _).settled late
        | some value =>
            have noComma : ¬ value = byte ',' := fun same => comma (congrArg some same)
            have refused :
                (if value = byte ',' then behindComma else slip .trailingCharacters).Forward := by
              rw [if_neg noComma]
              exact forward_slip _
            exact (forward_ite (forward_pure ()) refused).settled late

/-- A record reads forward in both of its forms if the values of its members do. -/
theorem MembersForward.read
    {shape : Shape Record}
    (members : shape.MembersForward) :
    shape.read.Forward := by
  refine forward_nextToken.bind fun found => ?_
  cases found with
  | none => exact forward_fail _
  | some first =>
      refine forward_ite ?_ (forward_ite members.object (forward_wrongKind _ first))
      refine (forward_values members shape shape.blank 0).bind fun record => ?_
      exact forward_endOfList.bind fun _ => forward_pure record

end Shape

end RegisterTrace.Json
