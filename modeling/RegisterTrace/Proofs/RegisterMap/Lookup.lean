import RegisterTrace.RegisterMap

/-!
# Looking registers up

A change that keeps the addresses of registers keeps the registers where they are: looking up after
the change is looking up before it and changing what was found.  Seeing a register with a value is
such a change, so a map has registers at the same addresses however often they are seen.
-/

namespace RegisterTrace.RegisterMap

/-- The first entry of a table decides, or else the entries behind it. -/
theorem lookup_cons_eq_ite
    (entryName name : String)
    (address : Word)
    (rest : List (String × Word)) :
    ((entryName, address) :: rest).lookup name =
      if name = entryName then some address else rest.lookup name := by
  rw [List.lookup_cons]
  by_cases same : name = entryName
  · rw [if_pos same, beq_iff_eq.mpr same]
  · rw [if_neg same, beq_false_of_ne same]

theorem address_of_get?_eq_some
    {map : RegisterMap}
    {address : Word}
    {register : Register}
    (found : map.get? address = some register) :
    register.address = address := by
  simpa using List.find?_some found

theorem mem_of_get?_eq_some
    {map : RegisterMap}
    {address : Word}
    {register : Register}
    (found : map.get? address = some register) :
    register ∈ map.registers :=
  List.mem_of_find?_eq_some found

/-- Only the register at the changed address is found changed. -/
theorem get?_modify
    (change : Register → Register)
    (kept : ∀ register, (change register).address = register.address)
    (map : RegisterMap)
    (changed address : Word) :
    (map.modify changed change).get? address =
      (map.get? address).map fun register =>
        if address = changed then change register else register := by
  -- The change keeps addresses, so the search stops at the same place before and after it.
  have sameTest :
      ((·.address == address) : Register → Bool) ∘
          (fun register =>
            if register.address = changed then change register else register) =
        (·.address == address) := by
    funext register
    simp only [Function.comp_apply]
    split
    · rw [kept]
    · rfl
  rw [get?, modify, List.find?_map, sameTest, ← get?]
  apply Option.map_congr
  intro register found
  rw [address_of_get?_eq_some found]

theorem get?_see
    (map : RegisterMap)
    (seen address : Word)
    (value : Word) :
    (map.see seen value).get? address =
      (map.get? address).map fun register =>
        if address = seen then register.see value else register :=
  get?_modify (·.see value) (fun _ => rfl) map seen address

theorem get?_see_self
    (map : RegisterMap)
    (address value : Word) :
    (map.see address value).get? address = (map.get? address).map (·.see value) := by
  rw [get?_see]
  simp only [if_true]

/-- Seeing a register does not touch the registers at other addresses. -/
theorem get?_see_of_ne
    (map : RegisterMap)
    {seen address : Word}
    (elsewhere : address ≠ seen)
    (value : Word) :
    (map.see seen value).get? address = map.get? address := by
  rw [get?_see]
  simp only [if_neg elsewhere, Option.map_id_fun', id]

@[simp]
theorem isSome_get?_see
    (map : RegisterMap)
    (seen address : Word)
    (value : Word) :
    ((map.see seen value).get? address).isSome = (map.get? address).isSome := by
  rw [get?_see, Option.isSome_map]

/-- Registers at two addresses may be seen in either order. -/
theorem see_comm
    (map : RegisterMap)
    {first second : Word}
    (apart : first ≠ second)
    (firstValue secondValue : Word) :
    (map.see first firstValue).see second secondValue =
      (map.see second secondValue).see first firstValue := by
  simp only [see, modify, List.map_map]
  congr 2
  funext register
  simp only [Function.comp_apply]
  by_cases here : register.address = first
  · have elsewhere : ¬ register.address = second := fun there => apart (here.symm.trans there)
    simp only [if_pos here, if_neg elsewhere, Register.see]
  · by_cases there : register.address = second
    · simp only [if_neg here, if_pos there, Register.see]
    · simp only [if_neg here, if_neg there]

/-! ## Placing a register -/

theorem eq_or_mem_of_mem_place
    {placed register : Register}
    {registers : List Register}
    (member : register ∈ place placed registers) :
    register = placed ∨ register ∈ registers := by
  induction registers with
  | nil => exact .inl (List.mem_singleton.mp member)
  | cons first rest inductionHypothesis =>
      rw [place] at member
      split at member
      · exact List.mem_cons.mp member
      · split at member
        · exact (List.mem_cons.mp member).imp_right (List.mem_cons_of_mem first)
        · rcases List.mem_cons.mp member with rfl | later
          · exact .inr List.mem_cons_self
          · exact (inductionHypothesis later).imp_right (List.mem_cons_of_mem first)

theorem find?_place
    (register : Register)
    (registers : List Register)
    (address : Word) :
    (place register registers).find? (·.address == address) =
      if register.address == address then
        some register
      else
        registers.find? (·.address == address) := by
  induction registers with
  | nil =>
      rw [place, List.find?_singleton]
      rfl
  | cons first rest inductionHypothesis =>
      rw [place]
      split
      · cases same : register.address == address <;> simp [List.find?_cons, same]
      · split
        · next taken =>
            cases same : register.address == address <;> simp [← taken, same]
        · next differs =>
            rw [List.find?_cons, inductionHypothesis, List.find?_cons]
            cases here : first.address == address with
            | false => rfl
            | true =>
                have elsewhere : (register.address == address) = false := by
                  rw [← beq_iff_eq.mp here]
                  exact beq_false_of_ne differs
                simp only [elsewhere, Bool.false_eq_true, if_false]

/-- A register that is inserted is found at its address, and every other one where it was. -/
theorem get?_insert
    (map : RegisterMap)
    (register : Register)
    (address : Word) :
    (map.insert register).get? address =
      if register.address = address then some register else map.get? address := by
  have placed := find?_place register map.registers address
  simp only [beq_iff_eq] at placed
  exact placed

end RegisterTrace.RegisterMap
