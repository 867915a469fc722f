import RegisterTrace.Proofs.Header.LineText
import RegisterTrace.Proofs.Header.Reading
import RegisterTrace.Proofs.RegisterMap.Distinct

/-!
# Headers that are laid out

Registers at offsets from one base are laid out in a header as the constant of the base and then one
register after another, each with its fields on the lines after it.  Lines that say nothing may
stand anywhere between.  The main statement of this module says that such a header is accepted and
defines the registers that were laid out.
-/

namespace RegisterTrace.Header

/-! ## Lines that are taken one after another -/

/-- What lines that are taken one after another make of a builder. -/
inductive Builder.TakesAll : Builder → List Line → Builder → Prop where
  | nil (builder : Builder) : TakesAll builder [] builder
  | cons
      {builder next last : Builder}
      {line : Line}
      {rest : List Line}
      (first : builder.Takes line next)
      (later : TakesAll next rest last) :
      TakesAll builder (line :: rest) last

theorem Builder.TakesAll.append
    {builder next last : Builder}
    {first second : List Line}
    (takesFirst : builder.TakesAll first next)
    (takesSecond : next.TakesAll second last) :
    builder.TakesAll (first ++ second) last := by
  induction takesFirst with
  | nil builder => exact takesSecond
  | cons line later inductionHypothesis => exact .cons line (inductionHypothesis takesSecond)

/-- The builder with another count of its lines. -/
def Builder.withCount (builder : Builder) (count : Nat) : Builder :=
  { builder with lineCount := count }

/-- What a line makes of a builder does not depend on how many lines were counted. -/
theorem Builder.Takes.withCount
    {builder next : Builder}
    {line : Line}
    (takes : builder.Takes line next)
    (count : Nat) :
    (builder.withCount count).Takes line (next.withCount count) := by
  cases takes with
  | constant name value => exact .constant name value
  | offset known fits => exact .offset known fits
  | field current => exact .field current
  | other => exact .other

/--
Lines are accepted if what they say is taken one after another, and those that say nothing make no
difference.
-/
theorem run_addLine_of_takesAll
    {lines : List String}
    {builder last : Builder}
    (takes : builder.TakesAll (significant (lines.map Line.ofText)) last)
    (count : Nat) :
    let outcome := Outcome.run Builder.addLine (builder.withCount count) lines
    outcome.result = .ok () ∧ ∃ total, outcome.state = last.withCount total := by
  induction lines generalizing builder count with
  | nil =>
      cases takes with
      | nil => exact ⟨rfl, count, rfl⟩
  | cons line rest inductionHypothesis =>
      rw [List.map_cons, significant] at takes
      by_cases saysNothing : Line.ofText line = .other
      · rw [List.filter_cons_of_neg (by simp [saysNothing])] at takes
        have taken : (builder.withCount count).countLine.Takes (Line.ofText line)
            (builder.withCount (count + 1)) := by
          rw [saysNothing]
          exact .other
        rcases Builder.addLine_of_takes taken with ⟨accepted, reached⟩
        rw [Outcome.run_cons_of_accepted accepted, reached]
        exact inductionHypothesis takes (count + 1)
      · rw [List.filter_cons_of_pos (by simp [saysNothing])] at takes
        cases takes with
        | @cons _ next _ _ _ first later =>
            have taken := first.withCount (count + 1)
            rcases @Builder.addLine_of_takes (builder.withCount count) _ _ taken with
              ⟨accepted, reached⟩
            rw [Outcome.run_cons_of_accepted accepted, reached]
            exact inductionHypothesis later (count + 1)

/-! ## Layouts -/

/-- A register as it is laid out: its name, its distance from the base, and its fields. -/
structure Block where
  name : String
  distance : Word
  fields : List Field
  deriving DecidableEq, Repr

/-- The constant that registers are laid out from, and these registers in order. -/
structure Layout where
  base : String
  value : Word
  blocks : List Block
  deriving DecidableEq, Repr

namespace Layout

/-- The register that a block of a layout stands for, not seen yet. -/
def register (layout : Layout) (block : Block) : Register where
  name := block.name
  address := layout.value + block.distance
  fields := block.fields

/-- The lines of one register. -/
def blockLines (layout : Layout) (block : Block) : List Line :=
  .offset block.name layout.base block.distance ::
    block.fields.map fun field => .field field.name field.width

/-- The lines of a layout. -/
def lines (layout : Layout) : List Line :=
  .constant layout.base layout.value :: layout.blocks.flatMap layout.blockLines

/-- No two registers share a name or a distance, and all addresses are words. -/
structure Sound (layout : Layout) : Prop where
  names : (layout.blocks.map Block.name).Nodup
  distances : (layout.blocks.map Block.distance).Nodup
  fits : ∀ block ∈ layout.blocks, layout.value.toNat + block.distance.toNat < Word.count

theorem Sound.distinct
    {layout : Layout}
    (sound : layout.Sound) :
    RegisterMap.Distinct (layout.blocks.map layout.register) where
  names := by
    rw [List.pairwise_map]
    exact List.pairwise_map.mp sound.names
  addresses := by
    rw [List.pairwise_map]
    apply (List.pairwise_map.mp sound.distances).imp
    intro first second differs same
    exact differs ((BitVec.add_right_inj layout.value).mp same)
  unseen := by
    intro register member
    rcases List.mem_map.mp member with ⟨block, -, rfl⟩
    rfl

end Layout

/-! ## Taking a layout -/

/-- A builder to which the changes of a register map were made. -/
def Builder.withChanges
    (builder : Builder)
    (changes : List RegisterMap.Change)
    (current : Option Word) :
    Builder :=
  { builder with
    registers := changes.foldl RegisterMap.change builder.registers
    current }

/-- Fields go to the current register. -/
theorem Builder.takesAll_fields
    {builder : Builder}
    {address : Word}
    (current : builder.currentRegister? = some address)
    (fields : List Field) :
    builder.TakesAll (fields.map fun field => .field field.name field.width)
      (builder.withChanges (fields.map (.addField address)) builder.current) := by
  induction fields generalizing builder with
  | nil => exact .nil builder
  | cons field rest inductionHypothesis =>
      refine .cons (.field current) (inductionHypothesis ?_)
      rw [currentRegister?, Option.filter_eq_some_iff] at current ⊢
      rcases current with ⟨isCurrent, present⟩
      refine ⟨isCurrent, ?_⟩
      rw [RegisterMap.get?_addField, Option.isSome_map]
      exact present

theorem Builder.takesAll_block
    {builder : Builder}
    {layout : Layout}
    {block : Block}
    (known : builder.constants.lookup layout.base = some layout.value)
    (fits : layout.value.toNat + block.distance.toNat < Word.count) :
    builder.TakesAll (layout.blockLines block)
      (builder.withChanges (RegisterMap.Change.ofRegister (layout.register block))
        (some (layout.register block).address)) := by
  have sum : layout.value.add? block.distance = some (layout.register block).address := by
    rw [Word.add?_eq_some_iff, Layout.register, BitVec.toNat_add]
    exact Nat.mod_eq_of_lt fits
  refine .cons (.offset known sum) (Builder.takesAll_fields ?_ block.fields)
  rw [currentRegister?, Option.filter_eq_some_iff]
  refine ⟨rfl, ?_⟩
  rw [openRegister, RegisterMap.get?_insert, if_pos rfl]
  rfl

theorem Builder.takesAll_blocks
    {builder : Builder}
    {layout : Layout}
    (known : builder.constants.lookup layout.base = some layout.value)
    (blocks : List Block)
    (fits : ∀ block ∈ blocks, layout.value.toNat + block.distance.toNat < Word.count) :
    ∃ current,
      builder.TakesAll (blocks.flatMap layout.blockLines)
        (builder.withChanges
          ((blocks.map layout.register).flatMap RegisterMap.Change.ofRegister) current) := by
  induction blocks generalizing builder with
  | nil => exact ⟨builder.current, .nil builder⟩
  | cons block rest inductionHypothesis =>
      have first := Builder.takesAll_block known (fits block List.mem_cons_self)
      have fitsRest : ∀ other ∈ rest, layout.value.toNat + other.distance.toNat < Word.count := by
        intro other member
        exact fits other (List.mem_cons_of_mem block member)
      rcases @inductionHypothesis
          (builder.withChanges (RegisterMap.Change.ofRegister (layout.register block))
            (some (layout.register block).address)) known fitsRest with ⟨current, later⟩
      refine ⟨current, ?_⟩
      have whole := first.append later
      rw [List.map_cons, List.flatMap_cons, List.flatMap_cons]
      rw [Builder.withChanges, List.foldl_append]
      exact whole

/--
A header that lays out registers under distinct names at distinct distances from a base is accepted,
however its numbers and indents are written and whatever lines between them say nothing.  It defines
exactly the registers that were laid out, with their fields in order, and each of them is found at
its address and by its name.
-/
theorem registers_of_layout
    {layout : Layout}
    (sound : layout.Sound)
    {said : List Line}
    {texts : List String}
    (written : List.Forall₂ LineText said texts)
    (laidOut : significant said = layout.lines) :
    ∃ map,
      registers (Source.ofText (String.intercalate "\n" texts)) = .ok map ∧
        map.registers.Perm (layout.blocks.map layout.register) ∧
          ∀ block ∈ layout.blocks,
            map.get? (layout.value + block.distance) = some (layout.register block) ∧
              map.find? block.name = some (layout.register block) := by
  rcases exists_lines_of_lineText written with ⟨lines, sourceLines, sameSaid⟩
  have known :
      (({} : Builder).define layout.base layout.value).constants.lookup layout.base =
        some layout.value := by
    rw [Builder.define, RegisterMap.lookup_cons_eq_ite, if_pos rfl]
  rcases Builder.takesAll_blocks known layout.blocks sound.fits with ⟨current, takesBlocks⟩
  have takes := Builder.TakesAll.cons (.constant layout.base layout.value) takesBlocks
  rw [← Layout.lines, ← laidOut, ← sameSaid] at takes
  rcases run_addLine_of_takesAll takes 0 with ⟨accepted, total, reached⟩
  have holds := RegisterMap.holds_built_of_distinct sound.distinct
  have sameRegisters :
      (after lines).registers =
        RegisterMap.built
          ((layout.blocks.map layout.register).flatMap RegisterMap.Change.ofRegister) :=
    congrArg Builder.registers reached
  refine ⟨_, registers_eq_ok_iff.mpr ⟨lines, sourceLines, accepted, sameRegisters⟩, ?_, ?_⟩
  · exact holds.perm (RegisterMap.ordered_built _) sound.distinct
  · intro block member
    have registerMember := List.mem_map_of_mem (f := layout.register) member
    exact ⟨holds.found _ registerMember, holds.find?_eq registerMember⟩

/--
A header with a comment, an enclosing line, numbers in either case and with leading zeros, and the
second register below the first.
-/
theorem registers_of_unionHeader :
    let layout : Layout :=
      { base := "BASE", value := 0xAB00,
        blocks := [⟨"CTRL", 0x1C, [⟨"lo", 4⟩, ⟨"hi", 28⟩]⟩, ⟨"STATUS", 0x8, []⟩] }
    let texts :=
      ["// registers", "#define BASE 0xaB00", "#define CTRL (BASE + 0x1c)", "union x \x7b",
        "  u32 lo : 04;", "  u32 hi : 28;", "\x7d;\r", "#define STATUS (BASE + 0x08)", ""]
    layout.Sound ∧
      ∃ map,
        registers (Source.ofText (String.intercalate "\n" texts)) = .ok map ∧
          map.registers.Perm (layout.blocks.map layout.register) ∧
            map.find? "STATUS" = some (layout.register ⟨"STATUS", 0x8, []⟩) := by
  intro layout texts
  have sound : layout.Sound := ⟨by decide, by decide, by decide⟩
  have comment : LineText .other "// registers" := .other (by decide +kernel) (by decide)
  have base : LineText (.constant "BASE" 0xAB00) "#define BASE 0xaB00" :=
    @LineText.constant "BASE" "aB00" 0xAB00 (by decide +kernel) (by decide)
  have ctrl : LineText (.offset "CTRL" "BASE" 0x1C) "#define CTRL (BASE + 0x1c)" :=
    @LineText.offset "CTRL" "BASE" _ 0x1C (by decide +kernel) (by decide +kernel) (writes_hex 0x1C)
  have union : LineText .other "union x \x7b" := .other (by decide +kernel) (by decide)
  have low : LineText (.field "lo" 4) "  u32 lo : 04;" :=
    @LineText.field "  " "lo" "04" 4 (by decide) (by decide) (by decide +kernel) (by decide)
      (by decide) (by decide)
  have high : LineText (.field "hi" 28) "  u32 hi : 28;" :=
    @LineText.field "  " "hi" _ 28 (by decide) (by decide) (by decide +kernel) (writes_decimal 28)
      (by decide) (by decide)
  have close : LineText .other "\x7d;\r" := .other (by decide +kernel) (by decide)
  have status : LineText (.offset "STATUS" "BASE" 0x8) "#define STATUS (BASE + 0x08)" :=
    @LineText.offset "STATUS" "BASE" "08" 0x8 (by decide +kernel) (by decide +kernel) (by decide)
  have last : LineText .other "" := .other ofText_empty (by decide)
  have written :
      List.Forall₂ LineText
        [.other, .constant "BASE" 0xAB00, .offset "CTRL" "BASE" 0x1C, .other, .field "lo" 4,
          .field "hi" 28, .other, .offset "STATUS" "BASE" 0x8, .other]
        texts :=
    .cons comment (.cons base (.cons ctrl (.cons union (.cons low (.cons high (.cons close
      (.cons status (.cons last .nil))))))))
  have member : ⟨"STATUS", 0x8, []⟩ ∈ layout.blocks := by decide
  rcases registers_of_layout sound written (by decide) with ⟨map, built, perm, found⟩
  exact ⟨sound, map, built, perm, (found _ member).2⟩

end RegisterTrace.Header
