import RegisterTrace.Proofs.Header.Reading

/-!
# Registers of a header

A header says which registers there are and how they are cut into fields, and nothing about their
values: no register that a header defines was seen with one.
-/

namespace RegisterTrace

namespace RegisterMap

/-- No register of a map was seen with a value. -/
def Unseen (map : RegisterMap) : Prop :=
  ∀ register ∈ map.registers, register.lastValue = none

theorem Unseen.insert
    {map : RegisterMap}
    (unseen : map.Unseen)
    {register : Register}
    (fresh : register.lastValue = none) :
    (map.insert register).Unseen := by
  intro other member
  rcases eq_or_mem_of_mem_place member with rfl | old
  · exact fresh
  · exact unseen other old

theorem Unseen.addField
    {map : RegisterMap}
    (unseen : map.Unseen)
    (address : Word)
    (field : Field) :
    (map.addField address field).Unseen := by
  intro register member
  rcases List.mem_map.mp member with ⟨old, oldMember, rfl⟩
  split
  · exact unseen old oldMember
  · exact unseen old oldMember

theorem Unseen.lastValue_eq_none
    {map : RegisterMap}
    (unseen : map.Unseen)
    {address : Word}
    {register : Register}
    (found : map.get? address = some register) :
    register.lastValue = none :=
  unseen register (mem_of_get?_eq_some found)

end RegisterMap

namespace Header

/-- A line gives no register a value. -/
theorem Builder.Takes.unseen
    {builder next : Builder}
    {line : Line}
    (takes : builder.Takes line next)
    (unseen : builder.registers.Unseen) :
    next.registers.Unseen := by
  cases takes with
  | constant name value => exact unseen
  | offset known fits => exact unseen.insert rfl
  | field current => exact unseen.addField _ _
  | other => exact unseen

theorem unseen_after
    {lines : List String}
    (accepted : (readLines lines).result = .ok ()) :
    (after lines).registers.Unseen := by
  induction lines using List.reverseRecOn with
  | nil =>
      intro register member
      cases member
  | append_singleton lines line inductionHypothesis =>
      rcases readLines_concat accepted with ⟨before, takes⟩
      exact takes.unseen (inductionHypothesis before)

/-- No register that a header defines was seen with a value. -/
theorem unseen_of_registers_eq_ok
    {source : Source}
    {map : RegisterMap}
    (built : registers source = .ok map) :
    map.Unseen := by
  rcases registers_eq_ok_iff.mp built with ⟨lines, -, accepted, rfl⟩
  exact unseen_after accepted

end Header

end RegisterTrace
