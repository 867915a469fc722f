import RegisterTrace.Proofs.Json.Record.Object

/-!
# What the entries of an object say

While an object is read, a part of its record has the one entry that was read for it, which writes
its value, or it has none and is still blank.  Every entry keeps this, so an object builds a record
exactly if it gives all fields of that record.
-/

namespace RegisterTrace.Json

variable
    {Record : Type}
    {shape : Shape Record}
    {parts : List (RecordPart Record)}
    {done entries : List Entry}
    {draft : Draft Record}
    {record : Record}

/-- How a part stands after some entries: it is blank without an entry, or set by its only one. -/
inductive RecordPart.Stands
    (blank : Record)
    (done : List Entry)
    (draft : Draft Record)
    (part : RecordPart Record) :
    Prop where
  | blank
      (fresh : part.key ∉ draft.keys)
      (none : underKey part.key done = [])
      (still : part.view draft.record = part.view blank) :
      RecordPart.Stands blank done draft part
  | set
      {entry : Entry}
      (known : part.key ∈ draft.keys)
      (only : underKey part.key done = [entry])
      (written : part.written (part.view draft.record) entry.written.value) :
      RecordPart.Stands blank done draft part

/-- An entry that is taken sets one part or none, and all others stand as before. -/
theorem RecordPart.Stands.takes
    (describes : shape.Describes parts)
    (stands : ∀ part ∈ parts, part.Stands shape.blank done draft)
    {entry : Entry}
    {after : Draft Record}
    (takes : Takes parts draft entry after) :
    ∀ part ∈ parts, part.Stands shape.blank (done ++ [entry]) after := by
  intro part member
  cases takes with
  | @known other value otherMember same fresh written =>
      by_cases sameKey : entry.key = part.key
      · -- The entry is the first of this part, or its key would not be fresh.
        have isPart := describes.eq_of_key otherMember member (same.trans sameKey)
        subst isPart
        have first : underKey other.key done = [] := by
          cases stands other member with
          | blank fresh none still => exact none
          | set known only written => exact absurd (same ▸ known) fresh
        have only : underKey other.key (done ++ [entry]) = [entry] := by
          rw [underKey_concat, first, if_pos same.symm, List.nil_append]
        refine .set (same ▸ List.mem_cons_self) only ?_
        rw [describes.view_put other member]
        exact written
      · have otherKey : other.key ≠ part.key := fun equal => sameKey (same.symm.trans equal)
        have sameView := describes.view_put_of_ne other otherMember part member otherKey value
        have sameEntries : underKey part.key (done ++ [entry]) = underKey part.key done := by
          rw [underKey_concat, if_neg sameKey, List.append_nil]
        cases stands part member with
        | blank fresh none still =>
            have stillFresh : part.key ∉ entry.key :: draft.keys :=
              List.not_mem_cons_of_ne_of_not_mem (Ne.symm sameKey) fresh
            exact
              .blank stillFresh (sameEntries.trans none) ((sameView draft.record).trans still)
        | set known only written =>
            refine .set (List.mem_cons_of_mem _ known) (sameEntries.trans only) ?_
            rw [sameView draft.record]
            exact written
  | unknown others value =>
      have otherKey : entry.key ≠ part.key := (others part member).symm
      have sameEntries : underKey part.key (done ++ [entry]) = underKey part.key done := by
        rw [underKey_concat, if_neg otherKey, List.append_nil]
      cases stands part member with
      | blank fresh none still => exact .blank fresh (sameEntries.trans none) still
      | set known only written => exact .set known (sameEntries.trans only) written

/-- A record that is built has all its fields in the entries. -/
theorem Builds.given
    (describes : shape.Describes parts)
    (builds : Builds parts draft entries record)
    (stands : ∀ part ∈ parts, part.Stands shape.blank done draft) :
    ∀ part ∈ parts, (part.field record).Given (done ++ entries) := by
  induction builds generalizing done with
  | @finish draft complete =>
      intro part member
      rw [List.append_nil]
      cases stands part member with
      | set known only written => exact .inl ⟨_, only, written⟩
      | blank fresh none still =>
          refine .inr ⟨none, ?_⟩
          cases absent : part.absent with
          | none => exact absurd (complete part member absent) fresh
          | some value =>
              have isBlank := describes.blank part member value absent
              exact absent.trans (congrArg some (still.trans isBlank).symm)
  | @take draft middle entry entries record takes later inductionHypothesis =>
      have given := inductionHypothesis (RecordPart.Stands.takes describes stands takes)
      rw [List.append_assoc, List.singleton_append] at given
      exact given

/-- Where all fields are given, the draft after the last entry is the record. -/
theorem finished_of_given
    (describes : shape.Describes parts)
    (stands : ∀ part ∈ parts, part.Stands shape.blank done draft)
    (given : ∀ part ∈ parts, (part.field record).Given done) :
    draft.Complete parts ∧ draft.record = record := by
  constructor
  · intro part member absent
    cases stands part member with
    | set known only written => exact known
    | blank fresh none still =>
        rcases given part member with ⟨entry, only, -⟩ | ⟨-, omissible⟩
        · cases none.symm.trans only
        · cases absent.symm.trans omissible
  · apply describes.ext
    intro part member
    rcases given part member with ⟨entry, only, written⟩ | ⟨nothing, omissible⟩
    · cases stands part member with
      | blank fresh none still => cases none.symm.trans only
      | set known onlyRead writtenRead =>
          cases onlyRead.symm.trans only
          exact (describes.reads part member).value_inj writtenRead written
    · cases stands part member with
      | blank fresh none still => exact still.trans (describes.blank part member _ omissible)
      | set known onlyRead writtenRead => cases nothing.symm.trans onlyRead

/-- The only entry under a key is the one that has it, and none before that does. -/
theorem eq_of_underKey_append_eq_singleton
    {entry only : Entry}
    (single : underKey entry.key (done ++ entry :: entries) = [only]) :
    underKey entry.key done = [] ∧ only = entry := by
  rw [underKey_append, underKey_cons_of_eq rfl, List.append_eq_singleton_iff] at single
  rcases single with ⟨none, same⟩ | ⟨-, impossible⟩
  · rw [List.cons.injEq] at same
    exact ⟨none, same.1.symm⟩
  · cases impossible

/-- An object that gives all fields of a record builds it. -/
theorem builds_of_given
    (describes : shape.Describes parts)
    (stands : ∀ part ∈ parts, part.Stands shape.blank done draft)
    (given : ∀ part ∈ parts, (part.field record).Given (done ++ entries))
    (values :
      ∀ entry ∈ entries, (∀ part ∈ parts, part.key ≠ entry.key) → ValueText entry.written.value) :
    Builds parts draft entries record := by
  induction entries generalizing done draft with
  | nil =>
      rw [List.append_nil] at given
      rcases finished_of_given describes stands given with ⟨complete, rfl⟩
      exact .finish complete
  | cons entry entries inductionHypothesis =>
      rcases List.forall_mem_cons.mp values with ⟨firstValue, laterValues⟩
      have taken : ∃ middle, Takes parts draft entry middle := by
        by_cases unknown : ∀ part ∈ parts, part.key ≠ entry.key
        · exact ⟨draft, .unknown unknown (firstValue unknown)⟩
        · push Not at unknown
          rcases unknown with ⟨part, member, sameKey⟩
          have givenPart : (part.field record).Given (done ++ entry :: entries) := given part member
          rcases givenPart with ⟨only, single, written⟩ | ⟨nothing, -⟩
          · have single : underKey part.key (done ++ entry :: entries) = [only] := single
            rw [sameKey] at single
            rcases eq_of_underKey_append_eq_singleton single with ⟨first, rfl⟩
            refine ⟨_, .known member sameKey ?_ written⟩
            cases stands part member with
            | blank fresh none still => exact sameKey ▸ fresh
            | set known onlyRead writtenRead =>
                rw [sameKey, first] at onlyRead
                cases onlyRead
          · have isMember : entry ∈ underKey part.key (done ++ entry :: entries) := by
              simp [underKey, sameKey]
            have nothing : underKey part.key (done ++ entry :: entries) = [] := nothing
            rw [nothing] at isMember
            cases isMember
      rcases taken with ⟨middle, takes⟩
      apply Builds.take takes
      apply inductionHypothesis (RecordPart.Stands.takes describes stands takes) _ laterValues
      rw [List.append_assoc, List.singleton_append]
      exact given

theorem Builds.valueText
    (describes : shape.Describes parts)
    (builds : Builds parts draft entries record) :
    ∀ entry ∈ entries, ValueText entry.written.value := by
  induction builds with
  | finish complete => exact nofun
  | take takes later inductionHypothesis =>
      exact List.forall_mem_cons.mpr ⟨takes.valueText describes, inductionHypothesis⟩

/-- An object gives the fields of a record exactly if its entries build that record. -/
theorem objectForm_iff
    (describes : shape.Describes parts)
    {text : List UInt8} :
    ObjectForm (parts.map (·.field record)) text ↔
      ∃ entries, EntriesText entries text ∧ Builds parts ⟨shape.blank, []⟩ entries record := by
  have stands : ∀ part ∈ parts, part.Stands shape.blank [] ⟨shape.blank, []⟩ := by
    intro part member
    exact .blank List.not_mem_nil rfl rfl
  simp only [ObjectForm, List.forall_mem_map]
  constructor
  · rintro ⟨entries, written, given, values⟩
    exact ⟨entries, written, builds_of_given describes stands given values⟩
  · rintro ⟨entries, written, builds⟩
    refine ⟨entries, written, builds.given describes stands, ?_⟩
    intro entry member _
    exact builds.valueText describes entry member

end RegisterTrace.Json
