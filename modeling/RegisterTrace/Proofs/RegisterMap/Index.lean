import RegisterTrace.Proofs.RegisterMap.Names

/-!
# The name index

An index entry sends a name to an address, and is of use only if the register there has that name.
An insertion may meet a register of another name at its address and an entry of its own name for
another address, both at once.  It takes the replaced name out and puts its own name in, and this is
enough: whatever the changes were, every entry of the index is right, so no lookup by name finds a
register that is not in the map or is called otherwise.
-/

namespace RegisterTrace.RegisterMap

/-- Every name has one entry at most, and its address is that of a register of this name. -/
structure Indexed (map : RegisterMap) : Prop where
  distinct : map.index.Pairwise fun first second => first.1 ≠ second.1
  right :
    ∀ name address,
      (name, address) ∈ map.index →
        ∃ register, map.get? address = some register ∧ register.name = name

theorem mem_forget_iff
    {forgotten name : String}
    {address : Word}
    {index : List (String × Word)} :
    (name, address) ∈ forget forgotten index ↔ (name, address) ∈ index ∧ name ≠ forgotten := by
  rw [forget, List.mem_filter, bne_iff_ne]

/-- The entries that an insertion leaves are old ones of names that it neither brings nor takes. -/
theorem mem_index_insert_iff
    {map : RegisterMap}
    {register : Register}
    {name : String}
    {address : Word} :
    (name, address) ∈ (map.insert register).index ↔
      (name = register.name ∧ address = register.address) ∨
        ((name, address) ∈ map.index ∧
          name ≠ register.name ∧
            ∀ replaced, map.get? register.address = some replaced → name ≠ replaced.name) := by
  rw [insert, List.mem_cons, Prod.mk.injEq, mem_forget_iff, indexWithout]
  cases map.get? register.address with
  | none => simp
  | some replaced =>
      simp only [mem_forget_iff, Option.some.injEq, forall_eq']
      tauto

theorem sublist_index_insert
    (map : RegisterMap)
    (register : Register) :
    (forget register.name (map.indexWithout register.address)).Sublist map.index := by
  rw [indexWithout]
  cases map.get? register.address with
  | none => exact List.filter_sublist
  | some replaced => exact List.filter_sublist.trans List.filter_sublist

theorem indexed_empty : Indexed ∅ :=
  ⟨List.Pairwise.nil, nofun⟩

theorem Indexed.insert
    {map : RegisterMap}
    (indexed : map.Indexed)
    (register : Register) :
    (map.insert register).Indexed where
  distinct := by
    refine List.pairwise_cons.mpr ⟨?_, ?_⟩
    · rintro ⟨name, address⟩ member
      exact (mem_forget_iff.mp member).2.symm
    · exact indexed.distinct.sublist (sublist_index_insert map register)
  right := by
    intro name address member
    rw [get?_insert]
    rcases mem_index_insert_iff.mp member with ⟨rfl, rfl⟩ | ⟨old, -, notReplaced⟩
    · exact ⟨register, if_pos rfl, rfl⟩
    · rcases indexed.right name address old with ⟨found, present, named⟩
      -- At the address of the insertion stood the replaced register, whose name is taken out.
      have elsewhere : ¬ register.address = address := by
        rintro rfl
        exact notReplaced found present named.symm
      exact ⟨found, by rw [if_neg elsewhere, present], named⟩

/-- A change that keeps names and addresses keeps the index right. -/
theorem Indexed.modify
    {map : RegisterMap}
    (indexed : map.Indexed)
    (address : Word)
    {change : Register → Register}
    (keepsAddress : ∀ register, (change register).address = register.address)
    (keepsName : ∀ register, (change register).name = register.name) :
    (map.modify address change).Indexed where
  distinct := indexed.distinct
  right := by
    intro name other member
    rcases indexed.right name other member with ⟨found, present, named⟩
    rw [get?_modify change keepsAddress, present, Option.map_some]
    refine ⟨_, rfl, ?_⟩
    split
    · rw [keepsName, named]
    · exact named

theorem Indexed.change
    {map : RegisterMap}
    (indexed : map.Indexed)
    (change : Change) :
    (map.change change).Indexed := by
  cases change with
  | insert register => exact indexed.insert register
  | addField address field => exact indexed.modify address (fun _ => rfl) (fun _ => rfl)
  | see address value => exact indexed.modify address (fun _ => rfl) (fun _ => rfl)

theorem indexed_built
    (changes : List Change) :
    (built changes).Indexed := by
  induction changes using List.reverseRecOn with
  | nil => exact indexed_empty
  | append_singleton changes last inductionHypothesis =>
      rw [built_concat]
      exact inductionHypothesis.change last

/-! ## Looking up by name -/

/-- A name is looked up as the address of its only entry. -/
theorem Indexed.lookup_eq_some_iff
    {map : RegisterMap}
    (indexed : map.Indexed)
    {name : String}
    {address : Word} :
    map.index.lookup name = some address ↔ (name, address) ∈ map.index := by
  rw [List.lookup_eq_some_iff]
  constructor
  · rintro ⟨front, back, split, -⟩
    rw [split]
    exact List.mem_append_right front List.mem_cons_self
  · intro member
    rcases List.append_of_mem member with ⟨front, back, split⟩
    refine ⟨front, back, split, ?_⟩
    have distinct := indexed.distinct
    rw [split, List.pairwise_append] at distinct
    intro entry before
    rw [bne_iff_ne]
    exact (distinct.2.2 entry before _ List.mem_cons_self).symm

theorem Indexed.find?_eq_some_iff
    {map : RegisterMap}
    (indexed : map.Indexed)
    {name : String}
    {register : Register} :
    map.find? name = some register ↔
      (name, register.address) ∈ map.index ∧ map.get? register.address = some register := by
  rw [find?, Option.bind_eq_some_iff]
  constructor
  · rintro ⟨address, entry, present⟩
    rw [address_of_get?_eq_some present]
    exact ⟨indexed.lookup_eq_some_iff.mp entry, present⟩
  · rintro ⟨entry, present⟩
    exact ⟨register.address, indexed.lookup_eq_some_iff.mpr entry, present⟩

/-- The register that a name finds has this name. -/
theorem Indexed.name_of_find?
    {map : RegisterMap}
    (indexed : map.Indexed)
    {name : String}
    {register : Register}
    (found : map.find? name = some register) :
    register.name = name ∧ map.get? register.address = some register := by
  rcases indexed.find?_eq_some_iff.mp found with ⟨entry, present⟩
  rcases indexed.right name register.address entry with ⟨other, otherPresent, named⟩
  rw [present, Option.some.injEq] at otherPresent
  rw [otherPresent]
  exact ⟨named, otherPresent ▸ present⟩

theorem Indexed.find?_of_mem
    {map : RegisterMap}
    (indexed : map.Indexed)
    {name : String}
    {address : Word}
    (entry : (name, address) ∈ map.index) :
    ∃ register,
      map.get? address = some register ∧
        register.name = name ∧ map.find? name = some register := by
  rcases indexed.right name address entry with ⟨register, present, named⟩
  refine ⟨register, present, named, ?_⟩
  rw [indexed.find?_eq_some_iff, address_of_get?_eq_some present]
  exact ⟨entry, present⟩

/-- A register that is inserted is found by its name at once. -/
theorem find?_insert_name
    (map : RegisterMap)
    (register : Register) :
    (map.insert register).find? register.name = some register := by
  rw [find?, lookup_insert, if_pos rfl, Option.bind_some, get?_insert, if_pos rfl]

/--
After any changes of the empty map the index is right.  A name finds a register of this name, the
one at that register's address; every entry leads to a register of its name, so no two names lead to
one address; and a name that an insertion under another name took out is not found until a register
of that name is inserted, which is found by it at once.
-/
theorem index_right_after_changes
    (changes : List Change) :
    let map := built changes
    (∀ name register,
        map.find? name = some register →
          register.name = name ∧ map.get? register.address = some register) ∧
      (∀ name address,
        (name, address) ∈ map.index →
          ∃ register,
            map.get? address = some register ∧
              register.name = name ∧ map.find? name = some register) ∧
        (∀ first second address,
          (first, address) ∈ map.index → (second, address) ∈ map.index → first = second) ∧
          (∀ before register replaced after,
            changes = before ++ .insert register :: after →
              (built before).get? register.address = some replaced →
                register.name ≠ replaced.name →
                  (∀ later, .insert later ∈ after → later.name ≠ replaced.name) →
                    map.find? replaced.name = none) ∧
            ∀ register, (map.insert register).find? register.name = some register := by
  intro map
  have indexed : map.Indexed := indexed_built changes
  refine ⟨?_, ?_, ?_, ?_, find?_insert_name map⟩
  · intro name register found
    exact indexed.name_of_find? found
  · intro name address entry
    exact indexed.find?_of_mem entry
  · intro first second address firstEntry secondEntry
    rcases indexed.right first address firstEntry with ⟨found, present, firstName⟩
    rcases indexed.right second address secondEntry with ⟨other, otherPresent, secondName⟩
    rw [present, Option.some.injEq] at otherPresent
    rw [← firstName, ← secondName, otherPresent]
  · intro before register replaced after split present differs never
    exact
      find?_of_nameLost
        ⟨before, register, after, split, differs, ⟨replaced, present, rfl⟩, never⟩

/--
An insertion that meets both a register of another name at its address and an entry of its own name
for another address: its name leads to the new register, and the replaced name is not found.
-/
theorem index_after_double_redefinition :
    let changes : List Change :=
      [.insert { name := "A", address := 4 },
        .insert { name := "B", address := 8 },
        .insert { name := "B", address := 4 },
        .see 4 5]
    let map := built changes
    ("B", 4) ∈ map.index ∧ map.get? 8 = some { name := "B", address := 8 } ∧
      map.find? "B" = some { name := "B", address := 4, lastValue := some 5 } ∧
        map.find? "A" = none := by
  intro changes map
  rcases index_right_after_changes changes with ⟨-, byEntry, -, taken, -⟩
  have entry : ("B", 4) ∈ map.index := by decide
  have present : map.get? 4 = some { name := "B", address := 4, lastValue := some 5 } := rfl
  rcases byEntry "B" 4 entry with ⟨register, same, -, found⟩
  rw [present, Option.some.injEq] at same
  rw [← same] at found
  refine ⟨entry, rfl, found, ?_⟩
  exact
    taken [.insert { name := "A", address := 4 }, .insert { name := "B", address := 8 }]
      { name := "B", address := 4 } { name := "A", address := 4 } [.see 4 5] rfl rfl (by decide)
      (by simp)

end RegisterTrace.RegisterMap
