import Mathlib.Data.Finset.Card
import RegisterTrace.Proofs.History
import RegisterTrace.Proofs.RegisterMap.Changes

/-!
# What a register map holds

Changes say by themselves which registers there are.  Of the insertions at an address the last one
counts, and the register that it brought has taken the later changes at its address, one after
another.  What was at the address before, with its fields and its last value, is gone.  The map that
the changes make of the empty one holds exactly these registers.
-/

namespace RegisterTrace.RegisterMap

/-- What a change makes of a register that it does not replace. -/
def Change.update (register : Register) : Change → Register
  | .insert _ => register
  | .addField address field =>
      if register.address = address then register.addField field else register
  | .see address value =>
      if register.address = address then register.see value else register

/-- Changes leave a register: the last one inserted at its address, with the changes made since. -/
def Leaves (changes : List Change) (register : Register) : Prop :=
  ∃ before inserted after,
    changes = before ++ .insert inserted :: after ∧
      (∀ later, .insert later ∈ after → later.address ≠ inserted.address) ∧
        register = after.foldl Change.update inserted

/-- The address that a change inserts at. -/
def Change.insertedAddress? : Change → Option Word
  | .insert register => some register.address
  | .addField _ _ => none
  | .see _ _ => none

/-- The addresses that changes insert at, in order. -/
def insertedAddresses (changes : List Change) : List Word :=
  changes.filterMap Change.insertedAddress?

/-- The field that a change adds to the register at an address. -/
def Change.field? (address : Word) : Change → Option Field
  | .addField changed field => if address = changed then some field else none
  | .insert _ => none
  | .see _ _ => none

/-- The value that a change sees the register at an address with. -/
def Change.value? (address : Word) : Change → Option Word
  | .see changed value => if address = changed then some value else none
  | .insert _ => none
  | .addField _ _ => none

/-! ## One register -/

@[simp]
theorem Change.address_update
    (register : Register)
    (change : Change) :
    (Change.update register change).address = register.address := by
  cases change with
  | insert other => rfl
  | addField address field =>
      rw [update]
      split
      · rfl
      · rfl
  | see address value =>
      rw [update]
      split
      · rfl
      · rfl

@[simp]
theorem address_foldl_update
    (register : Register)
    (changes : List Change) :
    (changes.foldl Change.update register).address = register.address := by
  induction changes generalizing register with
  | nil => rfl
  | cons change rest inductionHypothesis =>
      rw [List.foldl_cons, inductionHypothesis, Change.address_update]

/-- Changes add their fields above those of a register, and the last value seen stays. -/
theorem foldl_update_eq
    (register : Register)
    (changes : List Change) :
    changes.foldl Change.update register =
      { register with
        fields := register.fields ++ changes.filterMap (Change.field? register.address)
        lastValue :=
          (changes.filterMap (Change.value? register.address)).getLast?.or
            register.lastValue } := by
  induction changes using List.reverseRecOn with
  | nil => simp
  | append_singleton changes last inductionHypothesis =>
      rw [List.foldl_append, List.foldl_cons, List.foldl_nil, inductionHypothesis]
      cases last with
      | insert other => simp [Change.update, Change.field?, Change.value?]
      | addField address field =>
          by_cases here : register.address = address
          · simp [Change.update, Change.field?, Change.value?, here, Register.addField]
          · simp [Change.update, Change.field?, Change.value?, here]
      | see address value =>
          by_cases here : register.address = address
          · simp [Change.update, Change.field?, Change.value?, here, Register.see]
          · simp [Change.update, Change.field?, Change.value?, here]

/-! ## One change -/

/-- One more change leaves what it inserts, and what it does not replace as it makes it. -/
theorem leaves_concat_iff
    {changes : List Change}
    {last : Change}
    {register : Register} :
    Leaves (changes ++ [last]) register ↔
      last = .insert register ∨
        ∃ old,
          Leaves changes old ∧
            (∀ new, last = .insert new → new.address ≠ old.address) ∧
              register = Change.update old last := by
  constructor
  · rintro ⟨before, inserted, after, split, never, rfl⟩
    rcases append_singleton_eq_append_cons_iff.mp split with ⟨-, rfl, rfl⟩ | ⟨most, rfl, rfl⟩
    · exact .inl rfl
    · refine .inr ⟨_, ⟨before, inserted, most, rfl, ?_, rfl⟩, ?_, ?_⟩
      · intro later member
        exact never later (List.mem_append_left _ member)
      · rintro new rfl
        rw [address_foldl_update]
        exact never new (List.mem_append_right _ (List.mem_singleton_self _))
      · rw [List.foldl_append, List.foldl_cons, List.foldl_nil]
  · rintro (rfl | ⟨old, ⟨before, inserted, after, rfl, never, rfl⟩, notReplaced, rfl⟩)
    · exact ⟨changes, register, [], rfl, nofun, rfl⟩
    · refine ⟨before, inserted, after ++ [last], by simp, ?_, by simp⟩
      intro later member
      rcases List.mem_append.mp member with early | final
      · exact never later early
      · have differs := notReplaced later (List.mem_singleton.mp final).symm
        rw [address_foldl_update] at differs
        exact differs

theorem get?_modify_eq_some_iff
    {map : RegisterMap}
    {changed address : Word}
    {register : Register}
    {change : Register → Register}
    (kept : ∀ register, (change register).address = register.address) :
    (map.modify changed change).get? address = some register ↔
      ∃ old,
        map.get? address = some old ∧
          register = if old.address = changed then change old else old := by
  rw [get?_modify change kept, Option.map_eq_some_iff]
  constructor
  · rintro ⟨old, found, rfl⟩
    exact ⟨old, found, by rw [address_of_get?_eq_some found]⟩
  · rintro ⟨old, found, rfl⟩
    exact ⟨old, found, by rw [address_of_get?_eq_some found]⟩

/-- A change does to the register at an address what it does to a register that is left there. -/
theorem get?_change_eq_some_iff
    {map : RegisterMap}
    {change : Change}
    {address : Word}
    {register : Register} :
    (map.change change).get? address = some register ↔
      (change = .insert register ∧ register.address = address) ∨
        ∃ old,
          map.get? address = some old ∧
            (∀ new, change = .insert new → new.address ≠ address) ∧
              register = Change.update old change := by
  cases change with
  | insert inserted =>
      rw [RegisterMap.change, get?_insert]
      by_cases here : inserted.address = address
      · simp only [if_pos here, Option.some.injEq, Change.insert.injEq]
        constructor
        · rintro rfl
          exact .inl ⟨rfl, here⟩
        · rintro (⟨same, -⟩ | ⟨old, -, elsewhere, -⟩)
          · exact same
          · exact absurd here (elsewhere inserted rfl)
      · simp only [if_neg here, Change.insert.injEq, Change.update]
        constructor
        · intro found
          refine .inr ⟨register, found, ?_, rfl⟩
          rintro new rfl
          exact here
        · rintro (⟨rfl, there⟩ | ⟨old, found, -, rfl⟩)
          · exact absurd there here
          · exact found
  | addField changed field =>
      simp only [reduceCtorEq, false_and, false_or, IsEmpty.forall_iff, implies_true, true_and]
      exact get?_modify_eq_some_iff fun _ => rfl
  | see changed value =>
      simp only [reduceCtorEq, false_and, false_or, IsEmpty.forall_iff, implies_true, true_and]
      exact get?_modify_eq_some_iff fun _ => rfl

/-- No register is at an address after a change exactly if none was and none is inserted there. -/
theorem get?_change_eq_none_iff
    {map : RegisterMap}
    {change : Change}
    {address : Word} :
    (map.change change).get? address = none ↔
      map.get? address = none ∧ change.insertedAddress? ≠ some address := by
  cases change with
  | insert register =>
      rw [RegisterMap.change, get?_insert, Change.insertedAddress?, ne_eq, Option.some.injEq]
      by_cases here : register.address = address
      · simp [here]
      · simp [here]
  | addField changed field =>
      rw [RegisterMap.change, get?_addField, Option.map_eq_none_iff]
      simp [Change.insertedAddress?]
  | see changed value =>
      rw [RegisterMap.change, get?_see, Option.map_eq_none_iff]
      simp [Change.insertedAddress?]

/-! ## All changes -/

/-- The register at an address is the one that the changes leave there. -/
theorem get?_built_eq_some_iff
    {changes : List Change}
    {address : Word}
    {register : Register} :
    (built changes).get? address = some register ↔
      register.address = address ∧ Leaves changes register := by
  induction changes using List.reverseRecOn generalizing register with
  | nil =>
      constructor
      · intro found
        cases found
      · rintro ⟨-, before, inserted, after, split, -⟩
        simp at split
  | append_singleton changes last inductionHypothesis =>
      rw [built_concat, get?_change_eq_some_iff, leaves_concat_iff]
      simp only [inductionHypothesis]
      constructor
      · rintro (⟨inserted, here⟩ | ⟨old, ⟨rfl, left⟩, notReplaced, rfl⟩)
        · exact ⟨here, .inl inserted⟩
        · exact ⟨Change.address_update old last, .inr ⟨old, left, notReplaced, rfl⟩⟩
      · rintro ⟨rfl, inserted | ⟨old, left, notReplaced, rfl⟩⟩
        · exact .inl ⟨inserted, rfl⟩
        · rw [Change.address_update]
          exact .inr ⟨old, ⟨rfl, left⟩, notReplaced, rfl⟩

/-- There is a register at exactly the addresses that were inserted at. -/
theorem get?_built_eq_none_iff
    {changes : List Change}
    {address : Word} :
    (built changes).get? address = none ↔ address ∉ insertedAddresses changes := by
  induction changes using List.reverseRecOn with
  | nil => exact iff_of_true rfl List.not_mem_nil
  | append_singleton changes last inductionHypothesis =>
      rw [built_concat, get?_change_eq_none_iff, inductionHypothesis, insertedAddresses,
        insertedAddresses, List.filterMap_append, List.mem_append, not_or]
      simp [List.mem_filterMap]

/-- The registers of a map in order stand at as many addresses as there are registers. -/
theorem Ordered.size_eq_card
    {map : RegisterMap}
    (ordered : map.Ordered) :
    map.size = (map.registers.map Register.address).toFinset.card := by
  have distinct : (map.registers.map Register.address).Nodup := by
    rw [List.Nodup, List.pairwise_map]
    apply ordered.imp
    intro first second below same
    rw [same] at below
    exact BitVec.lt_irrefl second.address below
  rw [List.toFinset_card_of_nodup distinct, List.length_map, size]

theorem toFinset_addresses_built
    (changes : List Change) :
    ((built changes).registers.map Register.address).toFinset =
      (insertedAddresses changes).toFinset := by
  ext address
  rw [List.mem_toFinset, List.mem_toFinset, ← not_iff_not, ← get?_built_eq_none_iff, get?,
    List.find?_eq_none]
  simp

/--
After any changes of the empty map there is a register at exactly the addresses that were inserted
at.  It is the last one inserted there, with the fields added and the values seen at its address
since then, in order, and nothing from before.  The map lists these registers in the order of their
addresses, each once, so there are as many of them as there are such addresses.
-/
theorem contents_eq_last_insertions
    (changes : List Change) :
    let map := built changes
    (∀ address, map.get? address = none ↔ address ∉ insertedAddresses changes) ∧
      (∀ address register,
        map.get? address = some register ↔
          register.address = address ∧ Leaves changes register) ∧
        (∀ before inserted after,
          changes = before ++ .insert inserted :: after →
            (∀ later, .insert later ∈ after → later.address ≠ inserted.address) →
              map.get? inserted.address =
                some
                  { inserted with
                    fields :=
                      inserted.fields ++ after.filterMap (Change.field? inserted.address)
                    lastValue :=
                      (after.filterMap (Change.value? inserted.address)).getLast?.or
                        inserted.lastValue }) ∧
          (∀ register, register ∈ map.registers ↔ Leaves changes register) ∧
            (map.registers.Pairwise fun first second => first.address < second.address) ∧
              map.size = (insertedAddresses changes).toFinset.card ∧
                (map.isEmpty ↔ insertedAddresses changes = []) := by
  intro map
  have ordered : map.Ordered := ordered_built changes
  have size_eq : map.size = (insertedAddresses changes).toFinset.card := by
    rw [ordered.size_eq_card, toFinset_addresses_built]
  refine
    ⟨fun _ => get?_built_eq_none_iff, fun _ _ => get?_built_eq_some_iff, ?_, ?_, ordered, size_eq,
      ?_⟩
  · intro before inserted after split never
    rw [get?_built_eq_some_iff, ← foldl_update_eq]
    exact ⟨address_foldl_update inserted after, before, inserted, after, split, never, rfl⟩
  · intro register
    rw [← ordered.get?_eq_some_iff, get?_built_eq_some_iff]
    exact and_iff_right rfl
  · rw [isEmpty, List.isEmpty_iff, ← List.length_eq_zero_iff, ← size, size_eq,
      Finset.card_eq_zero, List.toFinset_eq_empty_iff]

/--
A register that was given a field and seen, another one in its place with a field of its own, and a
change at an address where nothing is.
-/
theorem contents_after_replacement :
    let changes : List Change :=
      [.insert { name := "A", address := 8 },
        .addField 8 ⟨"a", 4⟩,
        .see 8 5,
        .insert { name := "C", address := 4 },
        .insert { name := "B", address := 8 },
        .addField 8 ⟨"b", 2⟩,
        .see 12 7]
    let map := built changes
    map.get? 8 = some { name := "B", address := 8, fields := [⟨"b", 2⟩] } ∧
      map.get? 12 = none ∧ map.size = 2 := by
  intro changes map
  rcases contents_eq_last_insertions changes with ⟨missing, -, latest, -, -, size_eq, -⟩
  refine ⟨?_, (missing 12).mpr (by decide), size_eq.trans (by decide)⟩
  exact
    latest
      [.insert { name := "A", address := 8 }, .addField 8 ⟨"a", 4⟩, .see 8 5,
        .insert { name := "C", address := 4 }]
      { name := "B", address := 8 } [.addField 8 ⟨"b", 2⟩, .see 12 7] rfl (by simp)

end RegisterTrace.RegisterMap
