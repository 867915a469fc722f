import RegisterTrace.Proofs.Header.Offsets
import RegisterTrace.Proofs.History

/-!
# What a header defines

A header can be read without a builder.  Each line that says where a register is resolves to an
address by itself: its base has the value that the latest line naming it gave, so what is named
later moves nothing.  Of the lines that resolve to one address the last one counts, with the fields
up to the next line that says where any register is.  The registers that an accepted header defines
are exactly the ones that are read off it in this way.
-/

namespace RegisterTrace.Header

/-! ## Lines that resolve -/

/--
A line after some others says that a register of a name is at an address, the sum of the line's
number and of the value that the latest line naming its base gave to it.
-/
def Resolves (before : List String) (line name : String) (address : Word) : Prop :=
  ∃ base distance value,
    Line.ofText line = .offset name base distance ∧
      constantValue? base before = some value ∧ address.toNat = value.toNat + distance.toNat

/-- None of the lines that follow some others resolves to an address. -/
def LeavesAlone (before lines : List String) (address : Word) : Prop :=
  Throughout (fun between line => ∀ name, ¬ Resolves (before ++ between) line name address) lines

/-- Whether a line says nothing about where a register is. -/
def staysInside (line : String) : Bool :=
  match Line.ofText line with
  | .offset _ _ _ => false
  | _ => true

/--
Lines define a register: the last line that resolves to its address has its name, and its fields are
on the lines from there to the next line that says where a register is.
-/
def Defines (lines : List String) (register : Register) : Prop :=
  ∃ before line after,
    lines = before ++ line :: after ∧
      Resolves before line register.name register.address ∧
        LeavesAlone (before ++ [line]) after register.address ∧
          register.fields = fieldsOf (after.takeWhile staysInside) ∧ register.lastValue = none

theorem staysInside_iff
    {line : String} :
    staysInside line ↔ ∀ name base distance, Line.ofText line ≠ .offset name base distance := by
  rw [staysInside]
  split
  · next name base distance said =>
      rw [said]
      exact iff_of_false Bool.false_ne_true fun never => never name base distance rfl
  · next plain => exact iff_of_true rfl plain

theorem exists_offset_of_staysInside
    {line : String}
    (outside : staysInside line = false) :
    ∃ name base distance, Line.ofText line = .offset name base distance := by
  rw [staysInside] at outside
  split at outside
  · next name base distance said => exact ⟨name, base, distance, said⟩
  · cases outside

theorem leavesAlone_concat_iff
    {before lines : List String}
    {last : String}
    {address : Word} :
    LeavesAlone before (lines ++ [last]) address ↔
      LeavesAlone before lines address ∧
        ∀ name, ¬ Resolves (before ++ lines) last name address := by
  constructor
  · intro alone
    constructor
    · intro front line rest split
      refine alone front line (rest ++ [last]) ?_
      rw [split, List.append_assoc, List.cons_append]
    · exact alone lines last [] rfl
  · rintro ⟨alone, unresolved⟩
    exact alone.concat unresolved

/-- What leaves an address alone leaves it alone from any of its lines on. -/
theorem LeavesAlone.rest
    {before first second : List String}
    {address : Word}
    (alone : LeavesAlone before (first ++ second) address) :
    LeavesAlone (before ++ first) second address := by
  intro front line back split
  have unresolved := alone (first ++ front) line back (by rw [split, List.append_assoc])
  rw [List.append_assoc]
  exact unresolved

/-- A line that is accepted after others and says where a register is opens it where it resolves. -/
theorem exists_resolves_of_takes
    {before : List String}
    {line name base : String}
    {distance : Word}
    {next : Builder}
    (accepted : (readLines before).result = .ok ())
    (said : Line.ofText line = .offset name base distance)
    (takes : (after before).countLine.Takes (Line.ofText line) next) :
    ∃ address,
      Resolves before line name address ∧
        next = (after before).countLine.openRegister name address := by
  rw [said] at takes
  rcases takes.eq_openRegister with ⟨value, address, known, sum, opened⟩
  have named : (after before).constants.lookup base = some value := known
  rw [lookup_constants_after accepted] at named
  exact ⟨address, ⟨base, distance, value, said, named, sum⟩, opened⟩

/-- In accepted lines every line that says where a register is resolves to an address. -/
theorem exists_resolves_of_accepted
    {before rest : List String}
    {line name base : String}
    {distance : Word}
    (accepted : (readLines (before ++ line :: rest)).result = .ok ())
    (said : Line.ofText line = .offset name base distance) :
    ∃ address, Resolves before line name address := by
  rcases takes_of_accepted accepted with ⟨acceptedBefore, takes⟩
  rcases exists_resolves_of_takes acceptedBefore said takes with ⟨address, resolves, -⟩
  exact ⟨address, resolves⟩

/-- A line resolves to one register only. -/
theorem Resolves.unique
    {before : List String}
    {line name otherName : String}
    {address other : Word}
    (resolves : Resolves before line name address)
    (alsoResolves : Resolves before line otherName other) :
    name = otherName ∧ address = other := by
  rcases resolves with ⟨base, distance, value, said, known, sum⟩
  rcases alsoResolves with ⟨otherBase, otherDistance, otherValue, alsoSaid, alsoKnown, otherSum⟩
  rw [said] at alsoSaid
  cases alsoSaid
  rw [known] at alsoKnown
  cases alsoKnown
  exact ⟨rfl, BitVec.eq_of_toNat_eq (sum.trans otherSum.symm)⟩

/-! ## Addresses that lines leave alone -/

/-- A register was opened at another address, so the one at an address is as it was. -/
theorem Builder.get?_openRegister_of_ne
    (builder : Builder)
    (name : String)
    {opened address : Word}
    (differs : opened ≠ address) :
    (builder.openRegister name opened).registers.get? address = builder.registers.get? address ∧
      (builder.openRegister name opened).current ≠ some address := by
  constructor
  · rw [openRegister, RegisterMap.get?_insert, if_neg differs]
  · intro same
    exact differs (Option.some.inj same)

/-- A line that opens no register changes at most the current one. -/
theorem Builder.Takes.get?_of_current_ne
    {builder next : Builder}
    {line : Line}
    {address : Word}
    (takes : builder.Takes line next)
    (noOffset : ∀ name base distance, line ≠ .offset name base distance)
    (elsewhere : builder.current ≠ some address) :
    next.registers.get? address = builder.registers.get? address ∧
      next.current ≠ some address := by
  cases takes with
  | constant name value => exact ⟨rfl, elsewhere⟩
  | offset known fits => exact absurd rfl (noOffset _ _ _)
  | @field name width current found =>
      rw [currentRegister?, Option.filter_eq_some_iff] at found
      have differs : address ≠ current := by
        rintro rfl
        exact elsewhere found.1
      refine ⟨?_, elsewhere⟩
      rw [RegisterMap.get?_addField]
      simp only [if_neg differs, Option.map_id']
  | other => exact ⟨rfl, elsewhere⟩

/--
Lines that leave an address alone leave the register at it as it was, if that register is not the
current one when they start.
-/
theorem get?_after_of_leavesAlone
    {before lines : List String}
    {address : Word}
    (accepted : (readLines (before ++ lines)).result = .ok ())
    (elsewhere : (after before).current ≠ some address)
    (alone : LeavesAlone before lines address) :
    (after (before ++ lines)).registers.get? address = (after before).registers.get? address ∧
      (after (before ++ lines)).current ≠ some address := by
  induction lines using List.reverseRecOn with
  | nil =>
      rw [List.append_nil]
      exact ⟨rfl, elsewhere⟩
  | append_singleton lines last inductionHypothesis =>
      rw [← List.append_assoc] at accepted ⊢
      rcases readLines_concat accepted with ⟨acceptedBefore, takes⟩
      rcases leavesAlone_concat_iff.mp alone with ⟨aloneBefore, unresolved⟩
      rcases inductionHypothesis acceptedBefore aloneBefore with ⟨kept, notCurrent⟩
      rw [← kept]
      cases inside : staysInside last with
      | true => exact takes.get?_of_current_ne (staysInside_iff.mp inside) notCurrent
      | false =>
          rcases exists_offset_of_staysInside inside with ⟨name, base, distance, said⟩
          rcases exists_resolves_of_takes acceptedBefore said takes with
            ⟨opened, resolves, reached⟩
          have differs : opened ≠ address := by
            rintro rfl
            exact unresolved name resolves
          rw [reached]
          exact Builder.get?_openRegister_of_ne _ name differs

/-- At an address that no line resolves to there is no register. -/
theorem get?_after_eq_none
    {lines : List String}
    {address : Word}
    (accepted : (readLines lines).result = .ok ())
    (alone : LeavesAlone [] lines address) :
    (after lines).registers.get? address = none :=
  (@get?_after_of_leavesAlone [] lines address accepted nofun alone).1

/-! ## The registers of accepted lines -/

/-- A register that lines define is found at its address. -/
theorem get?_after_of_defines
    {lines : List String}
    {register : Register}
    (accepted : (readLines lines).result = .ok ())
    (defines : Defines lines register) :
    (after lines).registers.get? register.address = some register := by
  rcases defines with ⟨before, line, rest, rfl, resolves, alone, fields, unseen⟩
  rcases resolves with ⟨base, distance, value, said, known, sum⟩
  have split := List.takeWhile_append_dropWhile (p := staysInside) (l := rest)
  have head := List.head?_dropWhile_not staysInside rest
  have inside : ∀ other ∈ rest.takeWhile staysInside, staysInside other := by
    intro other member
    exact List.all_eq_true.mp List.all_takeWhile other member
  generalize rest.takeWhile staysInside = between at split fields inside
  generalize rest.dropWhile staysInside = later at split head
  subst split
  rw [← List.cons_append, ← List.append_assoc] at accepted ⊢
  -- The register stands once its fields are read.
  rcases exists_stands_of_offset (Outcome.run_accepted_of_append accepted) said
      fun other member => staysInside_iff.mp (inside other member) with
    ⟨sameValue, address, alsoKnown, alsoSum, stands⟩
  rw [known] at alsoKnown
  cases alsoKnown
  have here : address = register.address :=
    BitVec.eq_of_toNat_eq (alsoSum.trans sum.symm)
  have whole : { name := register.name, address, fields := fieldsOf between } = register := by
    rw [here, ← fields, ← unseen]
  have found := stands.found
  rw [whole] at found
  cases later with
  | nil =>
      rw [List.append_nil]
      exact found
  | cons next more =>
      -- The next line that says where a register is makes another one the current register.
      have outside : staysInside next = false := by
        simpa only [List.head?_cons, Bool.not_eq_true] using head
      rcases exists_offset_of_staysInside outside with ⟨nextName, nextBase, nextDistance, nextSaid⟩
      rcases takes_of_accepted accepted with ⟨acceptedBefore, takes⟩
      rcases exists_resolves_of_takes acceptedBefore nextSaid takes with
        ⟨opened, nextResolves, reached⟩
      have differs : opened ≠ register.address := by
        rintro rfl
        apply alone between next more rfl nextName
        rw [List.append_assoc, List.singleton_append]
        exact nextResolves
      have opens := Builder.get?_openRegister_of_ne (after (before ++ line :: between)).countLine
        nextName differs
      rw [← reached] at opens
      have aloneLater :
          LeavesAlone (before ++ [line] ++ (between ++ [next])) more register.address := by
        apply LeavesAlone.rest
        rw [List.append_assoc]
        exact alone
      have sameFront :
          before ++ [line] ++ (between ++ [next]) = before ++ line :: between ++ [next] := by
        simp
      rw [sameFront] at aloneLater
      rw [List.append_cons] at accepted ⊢
      rw [(get?_after_of_leavesAlone accepted opens.2 aloneLater).1, opens.1]
      exact found

/-- If a line resolves to an address, the last one that does defines a register there. -/
theorem exists_defines_of_not_leavesAlone
    {lines : List String}
    {address : Word}
    (resolved : ¬ LeavesAlone [] lines address) :
    ∃ register, register.address = address ∧ Defines lines register := by
  rcases exists_last_of_not_throughout resolved with ⟨before, line, rest, split, unsound, sound⟩
  simp only [List.nil_append, not_forall, not_not] at unsound
  rcases unsound with ⟨name, resolves⟩
  refine
    ⟨{ name, address, fields := fieldsOf (rest.takeWhile staysInside) }, rfl, before, line, rest,
      split, resolves, ?_, rfl, rfl⟩
  intro between later more laterSplit
  have unresolved : ∀ other, ¬ Resolves (before ++ line :: between) later other address :=
    sound between later more laterSplit
  rw [List.append_cons] at unresolved
  exact unresolved

/-- After accepted lines the register at an address is the one that the lines define there. -/
theorem get?_after_eq_some_iff
    {lines : List String}
    {address : Word}
    {register : Register}
    (accepted : (readLines lines).result = .ok ()) :
    (after lines).registers.get? address = some register ↔
      register.address = address ∧ Defines lines register := by
  constructor
  · intro found
    have resolved : ¬ LeavesAlone [] lines address := by
      intro alone
      rw [get?_after_eq_none accepted alone] at found
      cases found
    rcases exists_defines_of_not_leavesAlone resolved with ⟨defined, rfl, defines⟩
    have alsoFound := get?_after_of_defines accepted defines
    rw [found] at alsoFound
    cases alsoFound
    exact ⟨rfl, defines⟩
  · rintro ⟨rfl, defines⟩
    exact get?_after_of_defines accepted defines

theorem leavesAlone_nil_iff
    {lines : List String}
    {address : Word} :
    LeavesAlone [] lines address ↔
      ¬ ∃ before line rest name,
        lines = before ++ line :: rest ∧ Resolves before line name address := by
  constructor
  · rintro alone ⟨before, line, rest, name, split, resolves⟩
    exact alone before line rest split name resolves
  · intro nowhere before line rest split name resolves
    exact nowhere ⟨before, line, rest, name, split, resolves⟩

/--
The register map of an accepted header is what its lines say.  All lines that say where a register
is resolve.  There is a register at an address exactly if one of them resolves to it, and it is the
one that the last of these defines.  The registers stand in the order of their addresses.
-/
theorem registers_eq_definitions
    {source : Source}
    {map : RegisterMap}
    (built : registers source = .ok map) :
    ∃ lines,
      source.lines = lines.map .ok ∧
        (∀ before line rest name base distance,
          lines = before ++ line :: rest →
            Line.ofText line = .offset name base distance →
              ∃ address, Resolves before line name address) ∧
          (∀ address,
            (map.get? address).isSome ↔
              ∃ before line rest name,
                lines = before ++ line :: rest ∧ Resolves before line name address) ∧
            (∀ address register,
              map.get? address = some register ↔
                register.address = address ∧ Defines lines register) ∧
              (∀ register, register ∈ map.registers ↔ Defines lines register) ∧ map.Ordered := by
  rcases exists_built_of_registers_eq_ok built with ⟨changes, sameMap⟩
  have ordered : map.Ordered := by
    rw [sameMap]
    exact RegisterMap.ordered_built changes
  rcases registers_eq_ok_iff.mp built with ⟨lines, text, accepted, rfl⟩
  refine ⟨lines, text, ?_, ?_, fun address register => get?_after_eq_some_iff accepted, ?_, ordered⟩
  · rintro before line rest name base distance rfl said
    exact exists_resolves_of_accepted accepted said
  · intro address
    rw [← not_iff_not, ← leavesAlone_nil_iff, Option.not_isSome_iff_eq_none]
    constructor
    · intro nothing
      by_contra resolved
      rcases exists_defines_of_not_leavesAlone resolved with ⟨register, rfl, defines⟩
      rw [get?_after_of_defines accepted defines] at nothing
      cases nothing
    · exact get?_after_eq_none accepted
  · intro register
    rw [← ordered.get?_eq_some_iff, get?_after_eq_some_iff accepted]
    exact and_iff_right rfl

/--
A constant that is named again moves the lines after it and none before it, and a register that
takes the place of another one has its own fields only.
-/
theorem defines_in_redefiningHeader :
    let lines :=
      ["#define BASE 0x10", "#define A (BASE + 0x4)", "u32 a : 1;", "#define BASE 0x20",
        "#define B (BASE + 0x0)", "u32 b : 2;", "#define C (BASE + 0x0)", "u32 c : 3;"]
    let source := Source.ofText (String.intercalate "\n" lines)
    (registers source).toOption.map RegisterMap.registers =
        some
          [{ name := "A", address := 0x14, fields := [⟨"a", 1⟩] },
            { name := "C", address := 0x20, fields := [⟨"c", 3⟩] }] ∧
      Defines lines { name := "A", address := 0x14, fields := [⟨"a", 1⟩] } ∧
        Defines lines { name := "C", address := 0x20, fields := [⟨"c", 3⟩] } := by
  intro lines source
  have held :
      (registers source).toOption.map RegisterMap.registers =
        some
          [{ name := "A", address := 0x14, fields := [⟨"a", 1⟩] },
            { name := "C", address := 0x20, fields := [⟨"c", 3⟩] }] := by
    decide +kernel
  refine ⟨held, ?_⟩
  cases built : registers source with
  | error error =>
      rw [built] at held
      cases held
  | ok map =>
      rw [built] at held
      have holds := Option.some.inj held
      rcases registers_eq_definitions built with ⟨sameLines, text, -, -, -, definitions, -⟩
      have written : source.lines = lines.map .ok := by decide +kernel
      rw [written] at text
      rw [← (List.map_inj_right fun _ _ => Except.ok.inj).mp text] at definitions
      constructor
      · apply (definitions _).mp
        rw [holds]
        exact List.mem_cons_self
      · apply (definitions _).mp
        rw [holds]
        exact List.mem_cons_of_mem _ List.mem_cons_self

end RegisterTrace.Header
