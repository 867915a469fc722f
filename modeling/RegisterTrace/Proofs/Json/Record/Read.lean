import RegisterTrace.Proofs.Json.Record.Gathering
import RegisterTrace.Proofs.Json.Record.Items

/-!
# Records that are read

The reader of a shape reads the records that its parts make up, in both forms in which they are
written.
-/

namespace RegisterTrace.Json

open Reader

variable
    {Record : Type}
    {shape : Shape Record}
    {parts later : List (RecordPart Record)}
    {record result : Record}
    {text : List UInt8}

theorem entriesText_iff
    {entries : List Entry} :
    EntriesText entries text ↔
      ∃ inside,
        Opened (byte '\x7d') (entries.map fun entry => entry.written.bytes) inside ∧
          text = byte '\x7b' :: inside ∧ ∀ entry ∈ entries, entry.Spelled := by
  constructor
  · rintro ⟨⟨inside, opened, rfl, -⟩, spelled⟩
    rw [List.map_map] at opened
    exact ⟨inside, opened, rfl, spelled⟩
  · rintro ⟨inside, opened, rfl, spelled⟩
    refine ⟨⟨inside, ?_, rfl, ?_⟩, spelled⟩
    · rw [List.map_map]
      exact opened
    · rw [List.forall_mem_map]
      intro entry member
      exact (spelled entry member).2

theorem Fills.valueText
    {items : List (List UInt8)}
    (fills : Fills later record items result)
    (reads : ∀ part ∈ later, Reads part.reader part.written) :
    ∀ item ∈ items, ValueText item := by
  induction fills with
  | finish absent => exact nofun
  | put written others inductionHypothesis =>
      rcases List.forall_mem_cons.mp reads with ⟨readsPart, readsLater⟩
      exact
        List.forall_mem_cons.mpr ⟨readsPart.valueText written, inductionHypothesis readsLater⟩

/-- A list gives the fields of a record in order exactly if its items fill the blank record so. -/
theorem listForm_iff
    (describes : shape.Describes parts) :
    ListForm (parts.map (·.field record)) text ↔
      ∃ items, ListText items text ∧ Fills parts shape.blank items record := by
  have sameFills : ∀ items,
      Fills parts shape.blank items record ↔ InOrder (parts.map (·.field record)) items := by
    intro items
    rw [fills_iff_inOrder describes (fun _ member => member) describes.keys fun _ _ => rfl]
    exact and_iff_left fun part member notIn => absurd member notIn
  simp only [ListForm, sameFills]

/-- How a record is written is always a value. -/
theorem valueText_of_recordText
    (describes : shape.Describes parts)
    (written : RecordText (parts.map (·.field record)) text) :
    ValueText text := by
  rcases written with object | list
  · rcases (objectForm_iff describes).mp object with ⟨entries, isObject, builds⟩
    exact ValuesText.valueText ⟨isObject, builds.valueText describes⟩
  · rcases (listForm_iff describes).mp list with ⟨items, isList, fills⟩
    exact .list isList (fills.valueText describes.reads)

/-- The reader of a shape reads the records that its parts make up. -/
theorem Shape.Describes.reads_read
    (describes : shape.Describes parts) :
    Reads shape.read fun record => RecordText (parts.map (·.field record)) where
  valueText := valueText_of_recordText describes
  run_eq_ok_iff := by
    intro ending bytes record rest
    have bracketNoSpace : isSpace (byte '[') = false := by decide
    have braceNoSpace : isSpace (byte '\x7b') = false := by decide
    have noBracket : ¬ byte '\x7b' = byte '[' := by decide
    constructor
    · intro read
      rw [Shape.read] at read
      rcases run_bind_eq_ok_iff.mp read with ⟨found, middle, taken, later⟩
      cases found with
      | none => cases later
      | some first =>
          rcases (run_nextToken_eq_some_iff.mp taken).2 with ⟨gap, spaces, rfl⟩
          simp only at later
          split at later
          · next opening =>
              rw [describes.members] at later
              rcases (run_filled_eq_ok_iff describes.reads).mp later with
                ⟨items, inside, opened, fills, rfl⟩
              have written : RecordText (parts.map (·.field record)) (byte '[' :: inside) :=
                .inr ((listForm_iff describes).mpr ⟨items, ⟨inside, opened, rfl⟩, fills⟩)
              exact ⟨gap, _, spaces, written, by rw [opening]; rfl⟩
          · split at later
            · next opening =>
                rcases (run_object_eq_ok_iff describes).mp later with
                  ⟨entries, inside, opened, spelled, builds, rfl⟩
                have entriesWritten : EntriesText entries (byte '\x7b' :: inside) :=
                  entriesText_iff.mpr ⟨inside, opened, rfl, spelled⟩
                have written : RecordText (parts.map (·.field record)) (byte '\x7b' :: inside) :=
                  .inl ((objectForm_iff describes).mpr ⟨entries, entriesWritten, builds⟩)
                exact ⟨gap, _, spaces, written, by rw [opening]; rfl⟩
            · exact absurd later (run_wrongKind_ne_ok _ _ _)
    · rintro ⟨gap, text, spaces, object | list, rfl⟩
      · rcases (objectForm_iff describes).mp object with ⟨entries, entriesWritten, builds⟩
        rcases entriesText_iff.mp entriesWritten with ⟨inside, opened, rfl, spelled⟩
        rw [Shape.read, List.cons_append,
          run_bind_of_ok (run_nextToken_of_gap spaces braceNoSpace _)]
        simp only [if_neg noBracket, if_true]
        exact (run_object_eq_ok_iff describes).mpr ⟨entries, inside, opened, spelled, builds, rfl⟩
      · rcases (listForm_iff describes).mp list with ⟨items, ⟨inside, opened, rfl⟩, fills⟩
        rw [Shape.read, List.cons_append,
          run_bind_of_ok (run_nextToken_of_gap spaces bracketNoSpace _)]
        simp only [if_true]
        rw [describes.members]
        exact (run_filled_eq_ok_iff describes.reads).mpr ⟨items, inside, opened, fills, rfl⟩

end RegisterTrace.Json
