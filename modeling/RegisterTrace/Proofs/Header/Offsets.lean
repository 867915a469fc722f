import RegisterTrace.Proofs.Header.OffsetLine
import RegisterTrace.Proofs.Header.Reading
import RegisterTrace.Proofs.Word

/-!
# Registers at offsets

A line of the shape of an offset definition is to open a register, and the fields on the lines up to
the next such line are to be that register's.  This is so exactly for the lines whose number a word
holds.  A line with a larger number is taken for a line that says nothing: the register is missing,
the fields meant for it go to the register before it, and a sum that no word holds is not reported.
-/

namespace RegisterTrace.Header

/-! ## What the lines of a header name -/

/-- The value that a line gives to a constant. -/
def Line.constant? (name : String) : Line → Option Word
  | .constant named value => if name = named then some value else none
  | _ => none

/-- The value that the latest line naming a constant gives to it. -/
def constantValue? (name : String) (lines : List String) : Option Word :=
  lines.reverse.findSome? fun line => (Line.ofText line).constant? name

/-- The field that a line declares, if it declares one. -/
def Line.fields : Line → List Field
  | .field name width => [⟨name, width⟩]
  | _ => []

/-- The fields that lines declare, in order. -/
def fieldsOf (lines : List String) : List Field :=
  lines.flatMap fun line => (Line.ofText line).fields

theorem constantValue?_concat
    (name : String)
    (lines : List String)
    (line : String) :
    constantValue? name (lines ++ [line]) =
      ((Line.ofText line).constant? name).or (constantValue? name lines) := by
  rw [constantValue?, List.reverse_append, List.reverse_singleton, List.singleton_append,
    List.findSome?_cons, ← constantValue?]
  cases (Line.ofText line).constant? name with
  | none => rfl
  | some value => rfl

theorem fieldsOf_concat
    (lines : List String)
    (line : String) :
    fieldsOf (lines ++ [line]) = fieldsOf lines ++ (Line.ofText line).fields := by
  rw [fieldsOf, List.flatMap_append, List.flatMap_singleton, ← fieldsOf]

theorem Builder.Takes.lookup_constants
    {builder next : Builder}
    {line : Line}
    (takes : builder.Takes line next)
    (name : String) :
    next.constants.lookup name = (line.constant? name).or (builder.constants.lookup name) := by
  cases takes with
  | constant other value =>
      rw [define, RegisterMap.lookup_cons_eq_ite, Line.constant?]
      split
      · rfl
      · rfl
  | offset known fits => rfl
  | field current => rfl
  | other => rfl

/-- A line that names a constant is never refused. -/
theorem Builder.Refuses.constant?_eq_none
    {builder : Builder}
    {line : Line}
    {error : Error}
    (refuses : builder.Refuses line error)
    (name : String) :
    line.constant? name = none := by
  cases refuses with
  | field nowhere => rfl
  | unknownBase unknown => rfl
  | overflow known large => rfl

/-- A constant has the value that the latest line naming it gave to it. -/
theorem lookup_constants_fed
    (lines : List String)
    (name : String) :
    (fed lines).constants.lookup name = constantValue? name lines := by
  induction lines using List.reverseRecOn with
  | nil => rfl
  | append_singleton lines line inductionHypothesis =>
      rw [fed_concat, constantValue?_concat, ← inductionHypothesis]
      rcases (fed lines).takes_or_refuses line with ⟨takes, -⟩ | ⟨error, refuses, -, same⟩
      · exact takes.lookup_constants name
      · rw [same, refuses.constant?_eq_none, Option.none_or]
        rfl

theorem lookup_constants_after
    {lines : List String}
    (accepted : (readLines lines).result = .ok ())
    (name : String) :
    (after lines).constants.lookup name = constantValue? name lines := by
  rw [after_eq_fed accepted, lookup_constants_fed]

/-! ## The register that an offset line opens -/

/-- A line has the shape of an offset definition. -/
def IsOffsetLine (line : String) : Prop :=
  ∃ name base digits, DefinesOffset line name base digits

/-- A register was put into a map and is the current one; all others are as they were. -/
structure Builder.Stands
    (builder : Builder)
    (start : RegisterMap)
    (register : Register) : Prop where
  current_eq : builder.current = some register.address
  found : builder.registers.get? register.address = some register
  elsewhere :
    ∀ address, address ≠ register.address → builder.registers.get? address = start.get? address

/--
A line opened a register of its name at the sum of its base and its number, and the fields on the
lines after it were added to that register and to no other.
-/
def OpensRegister
    (before : List String)
    (line : String)
    (between : List String)
    (name base : String)
    (digits : List Char) : Prop :=
  ∃ value address,
    constantValue? base before = some value ∧
      address.toNat = value.toNat + Numeral.value 16 digits ∧
        (after (before ++ line :: between)).Stands (after before).registers
          { name, address, fields := fieldsOf between }

theorem Builder.stands_openRegister
    (builder : Builder)
    (name : String)
    (address : Word) :
    (builder.openRegister name address).Stands builder.registers { name, address } where
  current_eq := rfl
  found := by
    rw [openRegister, RegisterMap.get?_insert, if_pos rfl]
  elsewhere := by
    intro other differs
    rw [openRegister, RegisterMap.get?_insert, if_neg differs.symm]

theorem Builder.Stands.currentRegister?_eq
    {builder : Builder}
    {start : RegisterMap}
    {register : Register}
    (stands : builder.Stands start register) :
    builder.currentRegister? = some register.address := by
  rw [currentRegister?, stands.current_eq, Option.filter_some, stands.found]
  rfl

theorem Builder.Stands.addField
    {builder : Builder}
    {start : RegisterMap}
    {register : Register}
    (stands : builder.Stands start register)
    (field : Field) :
    { builder with registers := builder.registers.addField register.address field }.Stands start
      (register.addField field) where
  current_eq := stands.current_eq
  found := by
    have sameAddress : (register.addField field).address = register.address := rfl
    rw [sameAddress, RegisterMap.get?_addField, stands.found, Option.map_some, if_pos rfl]
  elsewhere := by
    intro address differs
    have sameAddress : (register.addField field).address = register.address := rfl
    rw [sameAddress] at differs
    rw [RegisterMap.get?_addField, stands.elsewhere address differs]
    simp [differs]

/-- A line that opens no register leaves the current one, with the field that the line declares. -/
theorem Builder.Stands.takes
    {builder next : Builder}
    {start : RegisterMap}
    {register : Register}
    {line : Line}
    (stands : builder.Stands start register)
    (takes : builder.Takes line next)
    (noOffset : ∀ name base distance, line ≠ .offset name base distance) :
    next.Stands start { register with fields := register.fields ++ line.fields } := by
  cases takes with
  | constant name value =>
      have noField : (Line.constant name value).fields = [] := rfl
      rw [noField, List.append_nil]
      exact ⟨stands.current_eq, stands.found, stands.elsewhere⟩
  | offset known fits => exact absurd rfl (noOffset _ _ _)
  | @field name width address current =>
      rw [stands.currentRegister?_eq] at current
      cases current
      exact stands.addField ⟨name, width⟩
  | other =>
      have noField : Line.other.fields = [] := rfl
      rw [noField, List.append_nil]
      exact stands

theorem Builder.Takes.eq_openRegister
    {builder next : Builder}
    {name base : String}
    {distance : Word}
    (takes : builder.Takes (.offset name base distance) next) :
    ∃ value address,
      builder.constants.lookup base = some value ∧
        address.toNat = value.toNat + distance.toNat ∧
          next = builder.openRegister name address := by
  cases takes with
  | offset known fits => exact ⟨_, _, known, Word.add?_eq_some_iff.mp fits, rfl⟩

/--
A line that says where a register is opens that register, and the fields on the lines after it are
that register's as long as no such line comes again.
-/
theorem exists_stands_of_offset
    {before between : List String}
    {line name base : String}
    {distance : Word}
    (accepted : (readLines (before ++ line :: between)).result = .ok ())
    (said : Line.ofText line = .offset name base distance)
    (plain :
      ∀ other ∈ between, ∀ name base distance, Line.ofText other ≠ .offset name base distance) :
    ∃ value address,
      constantValue? base before = some value ∧
        address.toNat = value.toNat + distance.toNat ∧
          (after (before ++ line :: between)).Stands (after before).registers
            { name, address, fields := fieldsOf between } := by
  -- The line opens its register, and each line after it leaves that one standing.
  induction between using List.reverseRecOn with
  | nil =>
      rcases readLines_concat accepted with ⟨acceptedBefore, takes⟩
      rw [said] at takes
      rcases takes.eq_openRegister with ⟨value, address, known, sum, opened⟩
      have named : (after before).constants.lookup base = some value := known
      rw [lookup_constants_after acceptedBefore] at named
      refine ⟨value, address, named, sum, ?_⟩
      rw [opened]
      exact Builder.stands_openRegister _ name address
  | append_singleton between last inductionHypothesis =>
      rw [← List.cons_append, ← List.append_assoc] at accepted
      rcases readLines_concat accepted with ⟨acceptedBefore, takes⟩
      have plainBefore :
          ∀ other ∈ between,
            ∀ name base distance, Line.ofText other ≠ .offset name base distance := by
        intro other member
        exact plain other (List.mem_append_left _ member)
      have plainLast : ∀ name base distance, Line.ofText last ≠ .offset name base distance :=
        plain last (List.mem_append_right _ (List.mem_singleton_self last))
      rcases inductionHypothesis acceptedBefore plainBefore with
        ⟨value, address, known, sum, stands⟩
      refine ⟨value, address, known, sum, ?_⟩
      rw [← List.cons_append, ← List.append_assoc, fieldsOf_concat]
      have counted :
          (after (before ++ line :: between)).countLine.Stands (after before).registers
            { name, address, fields := fieldsOf between } :=
        ⟨stands.current_eq, stands.found, stands.elsewhere⟩
      exact counted.takes takes plainLast

/-! ## Lines of the shape -/

/-- A line of the shape whose number a word holds says where a register is. -/
theorem exists_offset_of_lt
    {line name base : String}
    {digits : List Char}
    (shape : DefinesOffset line name base digits)
    (small : Numeral.value 16 digits < Word.count) :
    ∃ distance : Word,
      distance.toNat = Numeral.value 16 digits ∧ Line.ofText line = .offset name base distance := by
  have said := ofText_of_definesOffset shape
  cases held : Word.ofNat? (Numeral.value 16 digits) with
  | none => exact absurd (Word.ofNat?_eq_none_iff.mp held) (Nat.not_le_of_lt small)
  | some distance =>
      rw [held] at said
      exact ⟨distance, Word.ofNat?_eq_some_iff.mp held, said⟩

/-- A line of the shape whose number no word holds says nothing. -/
theorem ofText_eq_other_of_le
    {line name base : String}
    {digits : List Char}
    (shape : DefinesOffset line name base digits)
    (large : Word.count ≤ Numeral.value 16 digits) :
    Line.ofText line = .other := by
  rw [ofText_of_definesOffset shape, Word.ofNat?_eq_none_iff.mpr large]

theorem not_offset_of_not_isOffsetLine
    {line : String}
    (plain : ¬ IsOffsetLine line)
    (name base : String)
    (distance : Word) :
    Line.ofText line ≠ .offset name base distance := by
  intro said
  rcases exists_definesOffset_of_ofText said with ⟨digits, shape, -⟩
  exact plain ⟨name, base, digits, shape⟩

/-- A line of the shape whose number a word holds opens its register. -/
theorem opensRegister_of_lt
    {before between : List String}
    {line name base : String}
    {digits : List Char}
    (accepted : (readLines (before ++ line :: between)).result = .ok ())
    (shape : DefinesOffset line name base digits)
    (small : Numeral.value 16 digits < Word.count)
    (plain : ∀ other ∈ between, ¬ IsOffsetLine other) :
    OpensRegister before line between name base digits := by
  rcases exists_offset_of_lt shape small with ⟨distance, written, said⟩
  have noOffset :
      ∀ other ∈ between, ∀ name base distance, Line.ofText other ≠ .offset name base distance := by
    intro other member
    exact not_offset_of_not_isOffsetLine (plain other member)
  rw [OpensRegister, ← written]
  exact exists_stands_of_offset accepted said noOffset

/-- A line of the shape whose number no word holds opens no register. -/
theorem not_opensRegister_of_le
    {before between : List String}
    {line name base : String}
    {digits : List Char}
    (large : Word.count ≤ Numeral.value 16 digits) :
    ¬ OpensRegister before line between name base digits := by
  rintro ⟨value, address, -, sum, -⟩
  have inside : address.toNat < Word.count := address.isLt
  omega

theorem Builder.refuses_of_overflow
    {builder : Builder}
    {name base : String}
    {distance value : Word}
    (known : builder.constants.lookup base = some value)
    (large : Word.count ≤ value.toNat + distance.toNat) :
    builder.Refuses (.offset name base distance) (.addressOverflow name builder.lineCount) :=
  .overflow known (Word.add?_eq_none_iff.mpr large)

/-- Only a line that says where a register is can be refused for its address. -/
theorem Builder.Refuses.exists_offset
    {builder : Builder}
    {line : Line}
    {name : String}
    {number : Nat}
    (refuses : builder.Refuses line (.addressOverflow name number)) :
    number = builder.lineCount ∧ ∃ base distance, line = .offset name base distance := by
  cases refuses with
  | overflow known large => exact ⟨rfl, _, _, rfl⟩

/-- A line of the shape whose sum no word holds is reported exactly if a word holds its number. -/
theorem registers_eq_addressOverflow_iff
    {source : Source}
    {before : List String}
    {line name base : String}
    {digits : List Char}
    {rest : List (Except Source.Failure String)}
    {value : Word}
    (split : source.lines = before.map .ok ++ .ok line :: rest)
    (accepted : (readLines before).result = .ok ())
    (shape : DefinesOffset line name base digits)
    (known : constantValue? base before = some value)
    (large : Word.count ≤ value.toNat + Numeral.value 16 digits) :
    registers source = .error (.addressOverflow name (before.length + 1)) ↔
      Numeral.value 16 digits < Word.count := by
  have readable :
      ∀ failure, Error.addressOverflow name (before.length + 1) ≠ .unreadable failure := by
    intro failure
    exact nofun
  rw [registers_eq_error_iff_of_read readable]
  constructor
  · rintro ⟨front, text, back, otherSplit, acceptedFront, refuses⟩
    -- The line number says that the refused line is the one at hand.
    rcases refuses.exists_offset with ⟨number, otherBase, distance, said⟩
    have counted : (after front).countLine.lineCount = front.length + 1 := by
      rw [Builder.countLine, lineCount_after acceptedFront]
    have sameLength : before.length = front.length := by omega
    rw [split] at otherSplit
    rcases List.append_inj otherSplit (by simp [sameLength]) with ⟨-, sameRest⟩
    cases sameRest
    by_contra notSmall
    rw [ofText_eq_other_of_le shape (Nat.le_of_not_lt notSmall)] at said
    cases said
  · intro small
    rcases exists_offset_of_lt shape small with ⟨distance, written, said⟩
    refine ⟨before, line, rest, split, accepted, ?_⟩
    have named : (after before).countLine.constants.lookup base = some value := by
      rw [← known, ← lookup_constants_after accepted]
      rfl
    have counted : (after before).countLine.lineCount = before.length + 1 := by
      rw [Builder.countLine, lineCount_after accepted]
    rw [said, ← counted]
    rw [← written] at large
    exact Builder.refuses_of_overflow named large

/-- A line of the shape whose number no word holds is counted, and that is all. -/
theorem passedOver_of_le
    {before : List String}
    {line name base : String}
    {digits : List Char}
    (accepted : (readLines before).result = .ok ())
    (shape : DefinesOffset line name base digits)
    (large : Word.count ≤ Numeral.value 16 digits) :
    (readLines (before ++ [line])).result = .ok () ∧
      after (before ++ [line]) = (after before).countLine := by
  have taken : (after before).addLine line = .accept (after before).countLine () := by
    rw [Builder.addLine, ofText_eq_other_of_le shape large]
    rfl
  rw [after, readLines_concat_of_accepted accepted, taken]
  exact ⟨rfl, rfl⟩

/--
A line of the shape of an offset definition opens its register, and the fields up to the next such
line are that register's, exactly if a word holds its number.  A sum that no word holds is reported
under the same condition.  Any other line of the shape is accepted and passed over.
-/
theorem offset_line_kept_iff
    (source : Source)
    (before : List String)
    (line name base : String)
    (digits : List Char) :
    (∀ between later map,
      source.lines = (before ++ line :: (between ++ later)).map .ok →
        registers source = .ok map →
          DefinesOffset line name base digits →
            (∀ other ∈ between, ¬ IsOffsetLine other) →
              (OpensRegister before line between name base digits ↔
                Numeral.value 16 digits < Word.count)) ∧
      (∀ rest value,
        source.lines = before.map .ok ++ .ok line :: rest →
          (readLines before).result = .ok () →
            DefinesOffset line name base digits →
              constantValue? base before = some value →
                Word.count ≤ value.toNat + Numeral.value 16 digits →
                  (registers source = .error (.addressOverflow name (before.length + 1)) ↔
                    Numeral.value 16 digits < Word.count)) ∧
        ((readLines before).result = .ok () →
          DefinesOffset line name base digits →
            Word.count ≤ Numeral.value 16 digits →
              (readLines (before ++ [line])).result = .ok () ∧
                after (before ++ [line]) = (after before).countLine) := by
  refine ⟨?_, ?_, ?_⟩
  · intro between later map text built shape plain
    rcases registers_eq_ok_iff.mp built with ⟨lines, sameText, accepted, -⟩
    rw [text] at sameText
    have sameLines := (List.map_inj_right fun _ _ => Except.ok.inj).mp sameText
    rw [← sameLines, ← List.cons_append, ← List.append_assoc] at accepted
    have acceptedFirst := Outcome.run_accepted_of_append accepted
    constructor
    · intro opens
      by_contra notSmall
      exact not_opensRegister_of_le (Nat.le_of_not_lt notSmall) opens
    · intro small
      exact opensRegister_of_lt acceptedFirst shape small plain
  · intro rest value split accepted shape known large
    exact registers_eq_addressOverflow_iff split accepted shape known large
  · intro accepted shape large
    exact passedOver_of_le accepted shape large

/--
A header whose second offset line has a number that no word holds: the header is accepted, the
register is missing and its field is on the register before it.
-/
theorem field_strays_after_wide_number :
    let before := ["#define BASE 0x8000", "#define A (BASE + 0x0)"]
    let line := "#define B (BASE + 0x100000000)"
    let source := Source.ofText (String.intercalate "\n" (before ++ [line, "u32 f : 1;"]))
    DefinesOffset line "B" "BASE" "100000000".toList ∧
      constantValue? "BASE" before = some 0x8000 ∧
        Word.count ≤ 0x8000 + Numeral.value 16 "100000000".toList ∧
          registers source ≠ .error (.addressOverflow "B" 3) ∧
            ¬ OpensRegister before line ["u32 f : 1;"] "B" "BASE" "100000000".toList ∧
              (registers source).toOption.map RegisterMap.registers =
                some [{ name := "A", address := 0x8000, fields := [⟨"f", 1⟩] }] := by
  intro before line source
  have shape : DefinesOffset line "B" "BASE" "100000000".toList := by
    refine offsetShape_iff.mpr ⟨"(BASE + 0x100000000)".toList, ?_, ?_⟩
    · decide +kernel
    · decide +kernel
  have built :
      (registers source).toOption.map RegisterMap.registers =
        some [{ name := "A", address := 0x8000, fields := [⟨"f", 1⟩] }] := by
    decide +kernel
  have unreported : registers source ≠ .error (.addressOverflow "B" 3) := by
    intro refused
    rw [refused] at built
    cases built
  have large : Word.count ≤ Numeral.value 16 "100000000".toList := by decide +kernel
  refine ⟨shape, ?_, ?_, unreported, not_opensRegister_of_le large, built⟩
  · decide +kernel
  · exact Nat.le_add_left_of_le large

end RegisterTrace.Header
