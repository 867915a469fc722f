import Mathlib.Data.List.Perm.Basic
import RegisterTrace.Proofs.RegisterMap.Names

/-!
# Maps of distinct registers

A map may be built register by register, each inserted without its fields, which are added after it.
If no two of the registers share a name or an address, then nothing is ever replaced: the map holds
exactly these registers, and each of them is found at its address and by its name.
-/

namespace RegisterTrace.RegisterMap

/-- The changes that put a register that was never seen into a map, field by field. -/
def Change.ofRegister (register : Register) : List Change :=
  .insert { name := register.name, address := register.address } ::
    register.fields.map (.addField register.address)

/-- Fields that are added one by one come behind the fields that were there. -/
theorem get?_addFields
    (map : RegisterMap)
    (changed : Word)
    (fields : List Field)
    (address : Word) :
    ((fields.map (Change.addField changed)).foldl change map).get? address =
      (map.get? address).map fun register =>
        if address = changed then { register with fields := register.fields ++ fields }
        else register := by
  induction fields generalizing map with
  | nil => simp
  | cons field rest inductionHypothesis =>
      rw [List.map_cons, List.foldl_cons, inductionHypothesis, change, get?_addField,
        Option.map_map]
      apply Option.map_congr
      intro register found
      by_cases here : address = changed
      · simp [here, Register.addField]
      · simp [here]

theorem index_addFields
    (map : RegisterMap)
    (changed : Word)
    (fields : List Field) :
    ((fields.map (Change.addField changed)).foldl change map).index = map.index := by
  induction fields generalizing map with
  | nil => rfl
  | cons field rest inductionHypothesis =>
      rw [List.map_cons, List.foldl_cons, inductionHypothesis]
      rfl

theorem built_append
    (first second : List Change) :
    built (first ++ second) = second.foldl change (built first) :=
  List.foldl_append

/-- A register that was put into a map is found there, and every other one where it was. -/
theorem get?_built_ofRegister
    (changes : List Change)
    {register : Register}
    (unseen : register.lastValue = none)
    (address : Word) :
    (built (changes ++ Change.ofRegister register)).get? address =
      if register.address = address then some register else (built changes).get? address := by
  rw [built_append, Change.ofRegister, List.foldl_cons, get?_addFields, change, get?_insert]
  by_cases here : register.address = address
  · subst here
    simp [← unseen]
  · have elsewhere : ¬ address = register.address := fun same => here same.symm
    simp [here, elsewhere]

/-- A register that replaces none takes nothing out of the index. -/
theorem lookup_built_ofRegister
    {changes : List Change}
    {register : Register}
    (free : (built changes).get? register.address = none)
    (name : String) :
    (built (changes ++ Change.ofRegister register)).index.lookup name =
      if name = register.name then some register.address
      else (built changes).index.lookup name := by
  rw [built_append, Change.ofRegister, List.foldl_cons, index_addFields, change, lookup_insert,
    free]
  simp

/-- A map holds registers: each is at its address and indexed under its name, and no other is. -/
structure Holds (map : RegisterMap) (registers : List Register) : Prop where
  found : ∀ register ∈ registers, map.get? register.address = some register
  indexed : ∀ register ∈ registers, map.index.lookup register.name = some register.address
  only : ∀ address register, map.get? address = some register → register ∈ registers

/-- Registers that were never seen and share neither names nor addresses. -/
structure Distinct (registers : List Register) : Prop where
  names : registers.Pairwise fun first second => first.name ≠ second.name
  addresses : registers.Pairwise fun first second => first.address ≠ second.address
  unseen : ∀ register ∈ registers, register.lastValue = none

theorem Holds.ofRegister
    {changes : List Change}
    {registers : List Register}
    (holds : (built changes).Holds registers)
    {register : Register}
    (unseen : register.lastValue = none)
    (newName : ∀ other ∈ registers, other.name ≠ register.name)
    (newAddress : ∀ other ∈ registers, other.address ≠ register.address) :
    (built (changes ++ Change.ofRegister register)).Holds (registers ++ [register]) := by
  have free : (built changes).get? register.address = none := by
    rw [Option.eq_none_iff_forall_not_mem]
    intro other found
    have member := holds.only register.address other found
    exact newAddress other member (address_of_get?_eq_some found)
  constructor
  · intro other member
    rw [get?_built_ofRegister changes unseen]
    rcases List.mem_append.mp member with old | new
    · rw [if_neg (Ne.symm (newAddress other old))]
      exact holds.found other old
    · rw [List.mem_singleton.mp new, if_pos rfl]
  · intro other member
    rw [lookup_built_ofRegister free]
    rcases List.mem_append.mp member with old | new
    · rw [if_neg (newName other old)]
      exact holds.indexed other old
    · rw [List.mem_singleton.mp new, if_pos rfl]
  · intro address other found
    rw [get?_built_ofRegister changes unseen] at found
    split at found
    · cases found
      exact List.mem_append_right _ (List.mem_singleton_self _)
    · exact List.mem_append_left _ (holds.only address other found)

/-- The map that distinct registers are put into, one after another, holds them. -/
theorem holds_built_of_distinct
    {registers : List Register}
    (distinct : Distinct registers) :
    (built (registers.flatMap Change.ofRegister)).Holds registers := by
  induction registers using List.reverseRecOn with
  | nil => exact ⟨nofun, nofun, nofun⟩
  | append_singleton registers last inductionHypothesis =>
      rcases distinct with ⟨names, addresses, unseen⟩
      rw [List.pairwise_append] at names addresses
      have before : Distinct registers :=
        ⟨names.1, addresses.1,
          fun register member => unseen register (List.mem_append_left _ member)⟩
      rw [List.flatMap_append, List.flatMap_singleton]
      apply (inductionHypothesis before).ofRegister
      · exact unseen last (List.mem_append_right _ (List.mem_singleton_self last))
      · intro other member
        exact names.2.2 other member last (List.mem_singleton_self last)
      · intro other member
        exact addresses.2.2 other member last (List.mem_singleton_self last)

theorem Holds.find?_eq
    {map : RegisterMap}
    {registers : List Register}
    (holds : map.Holds registers)
    {register : Register}
    (member : register ∈ registers) :
    map.find? register.name = some register := by
  rw [find?, holds.indexed register member, Option.bind_some, holds.found register member]

/-- A map in order that holds distinct registers has exactly these, in order of their addresses. -/
theorem Holds.perm
    {map : RegisterMap}
    {registers : List Register}
    (holds : map.Holds registers)
    (ordered : map.Ordered)
    (distinct : Distinct registers) :
    map.registers.Perm registers := by
  rw [List.perm_ext_iff_of_nodup]
  · intro register
    rw [← ordered.get?_eq_some_iff]
    exact ⟨holds.only register.address register, holds.found register⟩
  · apply ordered.imp
    rintro first second below rfl
    exact BitVec.lt_irrefl first.address below
  · apply distinct.addresses.imp
    rintro first second differs rfl
    exact differs rfl

end RegisterTrace.RegisterMap
