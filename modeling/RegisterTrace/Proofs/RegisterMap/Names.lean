import Mathlib.Data.List.Find
import RegisterTrace.Proofs.History
import RegisterTrace.Proofs.RegisterMap.Changes

/-!
# Finding registers by name

Several registers of a map may have one name, and the index sends a name to one of them at most: the
one that was inserted last.  An insertion over a register of another name takes the replaced name
out of the index altogether, even if the index sent it to a register elsewhere.  A name is lost in
this way until a register of that name is inserted again.  The main statement of this module says
that this is the only way in which the index misses a register: it finds the latest register of
every name in the map exactly if none of these names is lost.
-/

namespace RegisterTrace.RegisterMap

/-! ## The registers that stand -/

/-- The registers kept in the order of their insertion, once a change was made. -/
def Change.keep (kept : List Register) : Change → List Register
  | .insert register => kept.filter (·.address != register.address) ++ [register]
  | .addField _ _ => kept
  | .see _ _ => kept

/-- The inserted registers that no later insertion replaced, in the order of their insertion. -/
def standing (changes : List Change) : List Register :=
  changes.foldl Change.keep []

/-- Where the register of a name stands that was inserted last. -/
def latestAddress? (changes : List Change) (name : String) : Option Word :=
  ((standing changes).findRev? (·.name == name)).map Register.address

theorem standing_concat
    (changes : List Change)
    (last : Change) :
    standing (changes ++ [last]) = last.keep (standing changes) := by
  rw [standing, List.foldl_append]
  rfl

/-- A map has registers of the same names at the same addresses as the insertions that stand. -/
structure Mirrors (map : RegisterMap) (kept : List Register) : Prop where
  found :
    ∀ register ∈ kept, ∃ found, map.get? register.address = some found ∧ found.name = register.name
  inserted :
    ∀ address found,
      map.get? address = some found →
        ∃ register ∈ kept, register.address = address ∧ register.name = found.name

theorem Mirrors.insert
    {map : RegisterMap}
    {kept : List Register}
    (mirrors : map.Mirrors kept)
    (register : Register) :
    (map.insert register).Mirrors ((Change.insert register).keep kept) where
  found := by
    intro other member
    rw [get?_insert]
    rcases List.mem_append.mp member with old | new
    · rcases List.mem_filter.mp old with ⟨oldMember, elsewhere⟩
      have differs : ¬ register.address = other.address := by
        intro same
        simp [same] at elsewhere
      rw [if_neg differs]
      exact mirrors.found other oldMember
    · rw [List.mem_singleton.mp new, if_pos rfl]
      exact ⟨register, rfl, rfl⟩
  inserted := by
    intro address found present
    rw [get?_insert] at present
    split at present
    · next here =>
        cases present
        exact ⟨register, List.mem_append_right _ (List.mem_singleton_self _), here, rfl⟩
    · next elsewhere =>
        rcases mirrors.inserted address found present with ⟨other, member, here, named⟩
        have stays : (other.address != register.address) = true := by
          rw [here, bne_iff_ne]
          exact Ne.symm elsewhere
        refine ⟨other, ?_, here, named⟩
        exact List.mem_append_left _ (List.mem_filter.mpr ⟨member, stays⟩)

/-- A change that keeps names and addresses keeps what the map mirrors. -/
theorem Mirrors.modify
    {map : RegisterMap}
    {kept : List Register}
    (mirrors : map.Mirrors kept)
    (address : Word)
    {change : Register → Register}
    (keepsAddress : ∀ register, (change register).address = register.address)
    (keepsName : ∀ register, (change register).name = register.name) :
    (map.modify address change).Mirrors kept where
  found := by
    intro register member
    rcases mirrors.found register member with ⟨found, present, named⟩
    rw [get?_modify change keepsAddress, present, Option.map_some]
    refine ⟨_, rfl, ?_⟩
    split
    · rw [keepsName, named]
    · exact named
  inserted := by
    intro other found present
    rw [get?_modify change keepsAddress] at present
    rcases Option.map_eq_some_iff.mp present with ⟨old, oldPresent, rfl⟩
    rcases mirrors.inserted other old oldPresent with ⟨register, member, here, named⟩
    refine ⟨register, member, here, ?_⟩
    split
    · rw [keepsName, named]
    · exact named

theorem mirrors_built
    (changes : List Change) :
    (built changes).Mirrors (standing changes) := by
  induction changes using List.reverseRecOn with
  | nil =>
      constructor
      · intro register member
        cases member
      · intro address found present
        cases present
  | append_singleton changes last inductionHypothesis =>
      rw [built_concat, standing_concat]
      cases last with
      | insert register => exact inductionHypothesis.insert register
      | addField address field =>
          exact inductionHypothesis.modify address (fun _ => rfl) (fun _ => rfl)
      | see address value =>
          exact inductionHypothesis.modify address (fun _ => rfl) (fun _ => rfl)

/-- A name is in the map exactly if a register of that name stands. -/
theorem latestAddress?_eq_none_iff
    {changes : List Change}
    {name : String} :
    latestAddress? changes name = none ↔
      ∀ register ∈ (built changes).registers, register.name ≠ name := by
  have mirrors := mirrors_built changes
  rw [latestAddress?, Option.map_eq_none_iff, List.findRev?_eq_find?_reverse,
    List.find?_eq_none]
  simp only [List.mem_reverse, beq_iff_eq]
  constructor
  · intro nobody register member named
    have present := (ordered_built changes).get?_eq_some_iff.mpr member
    rcases mirrors.inserted _ register present with ⟨other, otherMember, -, sameName⟩
    exact nobody other otherMember (sameName.trans named)
  · intro nobody register member named
    rcases mirrors.found register member with ⟨found, present, sameName⟩
    exact nobody found (mem_of_get?_eq_some present) (sameName.trans named)

/-- The latest register of a name is in the map, under that name. -/
theorem get?_of_latestAddress?
    {changes : List Change}
    {name : String}
    {address : Word}
    (latest : latestAddress? changes name = some address) :
    ∃ found, (built changes).get? address = some found ∧ found.name = name := by
  rcases Option.map_eq_some_iff.mp latest with ⟨register, last, rfl⟩
  rw [List.findRev?_eq_find?_reverse] at last
  have member := List.mem_reverse.mp (List.mem_of_find?_eq_some last)
  have named : register.name = name := by
    simpa only [beq_iff_eq] using List.find?_some last
  rcases (mirrors_built changes).found register member with ⟨found, present, sameName⟩
  exact ⟨found, present, sameName.trans named⟩

/-! ## The index -/

theorem lookup_forget
    (forgotten name : String)
    (index : List (String × Word)) :
    (forget forgotten index).lookup name =
      if name = forgotten then none else index.lookup name := by
  rw [forget]
  induction index with
  | nil => simp
  | cons entry rest inductionHypothesis =>
      rcases entry with ⟨entryName, address⟩
      rw [List.filter_cons, lookup_cons_eq_ite]
      by_cases gone : entryName = forgotten
      · simp only [gone, bne_self_eq_false, Bool.false_eq_true, if_false, inductionHypothesis]
        by_cases same : name = forgotten
        · rw [if_pos same, if_pos same]
        · rw [if_neg same, if_neg same, if_neg same]
      · simp only [bne_iff_ne.mpr gone, if_true, lookup_cons_eq_ite, inductionHypothesis]
        by_cases here : name = entryName
        · have stays : ¬ name = forgotten := fun same => gone (here.symm.trans same)
          rw [if_pos here, if_neg stays, if_pos here]
        · rw [if_neg here, if_neg here]

/-- An insertion indexes its own name, and takes the name that it replaces out of the index. -/
theorem lookup_insert
    (map : RegisterMap)
    (register : Register)
    (name : String) :
    (map.insert register).index.lookup name =
      if name = register.name then
        some register.address
      else if (map.get? register.address).any (·.name == name) then
        none
      else
        map.index.lookup name := by
  rw [insert, lookup_cons_eq_ite]
  by_cases own : name = register.name
  · rw [if_pos own, if_pos own]
  · rw [if_neg own, if_neg own, lookup_forget, if_neg own, indexWithout]
    cases map.get? register.address with
    | none => rfl
    | some replaced =>
        have flipped : name = replaced.name ↔ (replaced.name == name) = true := by
          rw [beq_iff_eq]
          exact eq_comm
        simp only [Option.any_some, lookup_forget, flipped]

/-! ## Names that are lost -/

/--
A name is lost after some changes: an insertion put a register of another name in the place of one
of this name, and no register of this name was inserted since.
-/
def NameLost (changes : List Change) (name : String) : Prop :=
  ∃ before register after,
    changes = before ++ .insert register :: after ∧
      register.name ≠ name ∧
        (∃ replaced, (built before).get? register.address = some replaced ∧ replaced.name = name) ∧
          ∀ later, .insert later ∈ after → later.name ≠ name

theorem not_nameLost_nil
    (name : String) :
    ¬ NameLost [] name := by
  rintro ⟨before, register, after, split, -⟩
  simp at split

/-- An insertion loses the name that it replaces and finds its own name again. -/
theorem nameLost_insert_iff
    {changes : List Change}
    {register : Register}
    {name : String} :
    NameLost (changes ++ [.insert register]) name ↔
      register.name ≠ name ∧
        (((built changes).get? register.address).any (·.name == name) ∨ NameLost changes name) := by
  constructor
  · rintro ⟨before, taker, after, split, differs, replaced, never⟩
    rcases append_singleton_eq_append_cons_iff.mp split with ⟨rfl, same, -⟩ | ⟨most, rfl, rfl⟩
    · cases same
      rcases replaced with ⟨old, present, named⟩
      refine ⟨differs, .inl ?_⟩
      rw [present, Option.any_some, beq_iff_eq]
      exact named
    · refine ⟨never register (by simp), .inr ⟨before, taker, most, rfl, differs, replaced, ?_⟩⟩
      intro later member
      exact never later (by simp [member])
  · rintro ⟨differs, replaced | ⟨before, taker, after, rfl, takerDiffers, replaced, never⟩⟩
    · rcases (Option.any_eq_true _ _).mp replaced with ⟨old, present, named⟩
      refine ⟨changes, register, [], rfl, differs, ⟨old, present, beq_iff_eq.mp named⟩, ?_⟩
      intro later member
      cases member
    · refine ⟨before, taker, after ++ [.insert register], by simp, takerDiffers, replaced, ?_⟩
      intro later member
      rcases List.mem_append.mp member with early | last
      · exact never later early
      · cases List.mem_singleton.mp last
        exact differs

/-- What is no insertion loses no name. -/
theorem nameLost_concat_iff
    {changes : List Change}
    {last : Change}
    (noInsertion : ∀ register, last ≠ .insert register)
    {name : String} :
    NameLost (changes ++ [last]) name ↔ NameLost changes name := by
  constructor
  · rintro ⟨before, taker, after, split, differs, replaced, never⟩
    rcases append_singleton_eq_append_cons_iff.mp split with ⟨-, same, -⟩ | ⟨most, rfl, rfl⟩
    · exact absurd same (noInsertion taker)
    · refine ⟨before, taker, most, rfl, differs, replaced, ?_⟩
      intro later member
      exact never later (by simp [member])
  · rintro ⟨before, taker, after, rfl, differs, replaced, never⟩
    refine ⟨before, taker, after ++ [last], by simp, differs, replaced, ?_⟩
    intro later member
    rcases List.mem_append.mp member with early | final
    · exact never later early
    · exact absurd (List.mem_singleton.mp final).symm (noInsertion later)

/-- A map's index sends every name to its latest register, unless the name is lost. -/
structure Indexes (map : RegisterMap) (changes : List Change) (name : String) : Prop where
  lost : NameLost changes name → map.index.lookup name = none
  latest : ¬ NameLost changes name → map.index.lookup name = latestAddress? changes name

/-- Dropping registers of other names does not change which one of a name is the latest. -/
theorem findRev?_filter
    {kept : List Register}
    {stays : Register → Bool}
    {name : String}
    (others : ∀ register ∈ kept, register.name = name → stays register) :
    (kept.filter stays).findRev? (·.name == name) = kept.findRev? (·.name == name) := by
  rw [List.findRev?_eq_find?_reverse, List.findRev?_eq_find?_reverse, ← List.filter_reverse,
    List.find?_filter]
  apply List.find?_congr
  intro register member
  cases named : register.name == name with
  | false => simp
  | true =>
      have stay := others register (List.mem_reverse.mp member) (beq_iff_eq.mp named)
      simp [stay]

theorem latestAddress?_insert_of_ne
    {changes : List Change}
    {register : Register}
    {name : String}
    (differs : register.name ≠ name)
    (notReplaced : ((built changes).get? register.address).any (·.name == name) = false) :
    latestAddress? (changes ++ [.insert register]) name = latestAddress? changes name := by
  have stay :
      ∀ other ∈ standing changes,
        other.name = name → (other.address != register.address) = true := by
    intro other member named
    rw [bne_iff_ne]
    intro here
    rcases (mirrors_built changes).found other member with ⟨found, present, sameName⟩
    rw [here] at present
    rw [present, Option.any_some, sameName, named, beq_self_eq_true] at notReplaced
    cases notReplaced
  rw [latestAddress?, standing_concat, Change.keep, findRev?_concat, findRev?_filter stay,
    beq_false_of_ne differs]
  rfl

theorem Indexes.insert
    {changes : List Change}
    {name : String}
    (indexes : (built changes).Indexes changes name)
    (register : Register) :
    ((built changes).insert register).Indexes (changes ++ [.insert register]) name := by
  -- The name is the inserted one, or the replaced one and now lost, or neither and not touched.
  by_cases own : name = register.name
  · have kept : ¬ NameLost (changes ++ [.insert register]) name := by
      rw [nameLost_insert_iff]
      rintro ⟨differs, -⟩
      exact differs own.symm
    refine ⟨fun lost => absurd lost kept, ?_⟩
    intro _
    rw [lookup_insert, if_pos own, latestAddress?, standing_concat, Change.keep, findRev?_concat,
      own, beq_self_eq_true]
    rfl
  · have differs : register.name ≠ name := Ne.symm own
    cases replaced : ((built changes).get? register.address).any (·.name == name) with
    | true =>
        have lost : NameLost (changes ++ [.insert register]) name :=
          nameLost_insert_iff.mpr ⟨differs, .inl replaced⟩
        refine ⟨?_, fun kept => absurd lost kept⟩
        intro _
        rw [lookup_insert, if_neg own, if_pos replaced]
    | false =>
        have same :
            NameLost (changes ++ [.insert register]) name ↔ NameLost changes name := by
          rw [nameLost_insert_iff, replaced]
          simp [differs]
        have unmoved :
            ((built changes).insert register).index.lookup name =
              (built changes).index.lookup name := by
          rw [lookup_insert, if_neg own, replaced]
          rfl
        have sameLatest := latestAddress?_insert_of_ne differs replaced
        constructor
        · intro lost
          rw [unmoved]
          exact indexes.lost (same.mp lost)
        · intro kept
          rw [unmoved, sameLatest]
          exact indexes.latest fun lost => kept (same.mpr lost)

theorem Indexes.of_noInsertion
    {changes : List Change}
    {last : Change}
    {name : String}
    (indexes : (built changes).Indexes changes name)
    (noInsertion : ∀ register, last ≠ .insert register)
    (sameIndex : ((built changes).change last).index = (built changes).index)
    (sameStanding : last.keep (standing changes) = standing changes) :
    ((built changes).change last).Indexes (changes ++ [last]) name := by
  have sameLatest : latestAddress? (changes ++ [last]) name = latestAddress? changes name := by
    rw [latestAddress?, standing_concat, sameStanding]
    rfl
  constructor
  · intro lost
    rw [sameIndex]
    exact indexes.lost ((nameLost_concat_iff noInsertion).mp lost)
  · intro kept
    rw [sameIndex, sameLatest]
    exact indexes.latest fun lost => kept ((nameLost_concat_iff noInsertion).mpr lost)

theorem indexes_built
    (changes : List Change)
    (name : String) :
    (built changes).Indexes changes name := by
  induction changes using List.reverseRecOn with
  | nil => exact ⟨fun lost => absurd lost (not_nameLost_nil name), fun _ => rfl⟩
  | append_singleton changes last inductionHypothesis =>
      rw [built_concat]
      -- Only an insertion touches the index and what stands.
      cases last with
      | insert register => exact inductionHypothesis.insert register
      | addField address field => exact inductionHypothesis.of_noInsertion nofun rfl rfl
      | see address value => exact inductionHypothesis.of_noInsertion nofun rfl rfl

/-! ## Finding by name -/

theorem find?_of_nameLost
    {changes : List Change}
    {name : String}
    (lost : NameLost changes name) :
    (built changes).find? name = none := by
  rw [find?, (indexes_built changes name).lost lost, Option.bind_none]

theorem find?_of_not_nameLost
    {changes : List Change}
    {name : String}
    (kept : ¬ NameLost changes name) :
    (built changes).find? name =
      (latestAddress? changes name).bind (built changes).get? := by
  rw [find?, (indexes_built changes name).latest kept]

/-- A name that is not lost is found in its latest register, if there is a register of it. -/
theorem find?_eq_none_iff_of_not_nameLost
    {changes : List Change}
    {name : String}
    (kept : ¬ NameLost changes name) :
    (built changes).find? name = none ↔
      ∀ register ∈ (built changes).registers, register.name ≠ name := by
  rw [find?_of_not_nameLost kept, ← latestAddress?_eq_none_iff]
  cases latest : latestAddress? changes name with
  | none => simp
  | some address =>
      rcases get?_of_latestAddress? latest with ⟨found, present, -⟩
      simp [present]

theorem exists_find?_of_not_nameLost
    {changes : List Change}
    {register : Register}
    (member : register ∈ (built changes).registers)
    (kept : ¬ NameLost changes register.name) :
    ∃ found ∈ (built changes).registers,
      (built changes).find? register.name = some found ∧
        found.name = register.name ∧
          latestAddress? changes register.name = some found.address := by
  cases latest : latestAddress? changes register.name with
  | none => exact absurd rfl (latestAddress?_eq_none_iff.mp latest register member)
  | some address =>
      rcases get?_of_latestAddress? latest with ⟨found, present, named⟩
      refine ⟨found, mem_of_get?_eq_some present, ?_, named, ?_⟩
      · rw [find?_of_not_nameLost kept, latest, Option.bind_some, present]
      · rw [address_of_get?_eq_some present]

/--
After any changes of the empty map, the index finds for every register the latest one of its name
that still stands, and finds nothing exactly for the names that no register has, if and only if no
name of a register in the map is lost.
-/
theorem find?_complete_iff_no_nameLost
    (changes : List Change) :
    let map := built changes
    ((∀ register ∈ map.registers,
        ∃ found ∈ map.registers,
          map.find? register.name = some found ∧
            found.name = register.name ∧
              latestAddress? changes register.name = some found.address) ∧
      ∀ name, map.find? name = none ↔ ∀ register ∈ map.registers, register.name ≠ name) ↔
        ∀ register ∈ map.registers, ¬ NameLost changes register.name := by
  intro map
  constructor
  · rintro ⟨foundByName, -⟩ register member lost
    rcases foundByName register member with ⟨found, -, present, -⟩
    rw [find?_of_nameLost lost] at present
    cases present
  · intro kept
    refine ⟨fun register member => exists_find?_of_not_nameLost member (kept register member), ?_⟩
    intro name
    by_cases lost : NameLost changes name
    · have nobody : ∀ register ∈ map.registers, register.name ≠ name := by
        intro register member named
        rw [← named] at lost
        exact kept register member lost
      exact iff_of_true (find?_of_nameLost lost) nobody
    · exact find?_eq_none_iff_of_not_nameLost lost

/--
Two registers of one name, then another one in the place of the first: the second is still in the
map and is not found by its name.
-/
theorem register_missed_after_redefinition :
    let changes : List Change :=
      [.insert { name := "A", address := 4 },
        .insert { name := "A", address := 8 },
        .insert { name := "B", address := 4 }]
    let map := built changes
    { name := "A", address := 8 } ∈ map.registers ∧
      latestAddress? changes "A" = some 8 ∧ map.find? "A" = none := by
  decide

end RegisterTrace.RegisterMap
