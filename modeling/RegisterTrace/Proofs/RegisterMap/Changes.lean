import Mathlib.Data.List.Induction
import RegisterTrace.Proofs.RegisterMap.Lookup

/-!
# Histories of a register map

A register map comes about from the empty one by three kinds of change: a register is inserted, a
register gets one more field, a register is seen with a value.  Whatever the changes were, the
registers stand in the order of their addresses, so a map holds exactly the registers that can be
looked up.
-/

namespace RegisterTrace.RegisterMap

/-- A change of a register map. -/
inductive Change where
  | insert (register : Register)
  | addField (address : Word) (field : Field)
  | see (address value : Word)
  deriving DecidableEq, Repr

/-- The map once a change was made. -/
def change (map : RegisterMap) : Change → RegisterMap
  | .insert register => map.insert register
  | .addField address field => map.addField address field
  | .see address value => map.see address value

/-- The map that changes make of the empty one. -/
def built (changes : List Change) : RegisterMap :=
  changes.foldl change ∅

theorem built_concat
    (changes : List Change)
    (last : Change) :
    built (changes ++ [last]) = (built changes).change last := by
  rw [built, List.foldl_append]
  rfl

/-! ## Looking up after a change -/

theorem get?_addField
    (map : RegisterMap)
    (changed : Word)
    (field : Field)
    (address : Word) :
    (map.addField changed field).get? address =
      (map.get? address).map fun register =>
        if address = changed then register.addField field else register :=
  get?_modify (·.addField field) (fun _ => rfl) map changed address

/-! ## The order of the registers -/

/-- The registers stand in the order of their addresses, each address once. -/
def Ordered (map : RegisterMap) : Prop :=
  map.registers.Pairwise fun first second => first.address < second.address

theorem ordered_empty : Ordered ∅ :=
  List.Pairwise.nil

theorem pairwise_place
    {register : Register}
    {registers : List Register}
    (ordered : registers.Pairwise fun first second => first.address < second.address) :
    (place register registers).Pairwise fun first second => first.address < second.address := by
  induction registers with
  | nil => exact List.pairwise_singleton _ _
  | cons first rest inductionHypothesis =>
      rcases List.pairwise_cons.mp ordered with ⟨below, later⟩
      rw [place]
      split
      · next before =>
          refine List.pairwise_cons.mpr ⟨?_, ordered⟩
          intro other member
          rcases List.mem_cons.mp member with rfl | memberLater
          · exact before
          · exact BitVec.lt_trans before (below other memberLater)
      · next notBelow =>
          split
          · next taken =>
              refine List.pairwise_cons.mpr ⟨?_, later⟩
              intro other member
              rw [taken]
              exact below other member
          · next differs =>
              refine List.pairwise_cons.mpr ⟨?_, inductionHypothesis later⟩
              intro other member
              rcases eq_or_mem_of_mem_place member with rfl | memberLater
              · bv_omega
              · exact below other memberLater

theorem Ordered.modify
    {map : RegisterMap}
    (ordered : map.Ordered)
    {address : Word}
    {change : Register → Register}
    (kept : ∀ register, (change register).address = register.address) :
    (map.modify address change).Ordered := by
  have sameAddress :
      ∀ register : Register,
        (if register.address = address then change register else register).address =
          register.address := by
    intro register
    split
    · exact kept register
    · rfl
  rw [Ordered, RegisterMap.modify, List.pairwise_map]
  simp only [sameAddress]
  exact ordered

theorem Ordered.change
    {map : RegisterMap}
    (ordered : map.Ordered)
    (change : Change) :
    (map.change change).Ordered := by
  cases change with
  | insert register => exact pairwise_place ordered
  | addField address field => exact ordered.modify fun _ => rfl
  | see address value => exact ordered.modify fun _ => rfl

theorem ordered_built
    (changes : List Change) :
    (built changes).Ordered := by
  induction changes using List.reverseRecOn with
  | nil => exact ordered_empty
  | append_singleton changes last inductionHypothesis =>
      rw [built_concat]
      exact inductionHypothesis.change last

/-- A map in order holds exactly the registers that are found at their addresses. -/
theorem Ordered.get?_eq_some_iff
    {map : RegisterMap}
    (ordered : map.Ordered)
    {register : Register} :
    map.get? register.address = some register ↔ register ∈ map.registers := by
  constructor
  · exact mem_of_get?_eq_some
  · intro member
    rcases List.append_of_mem member with ⟨front, back, split⟩
    rw [Ordered, split, List.pairwise_append] at ordered
    rw [get?, split, List.find?_append]
    have passed : front.find? (·.address == register.address) = none := by
      rw [List.find?_eq_none]
      intro other before
      have below := ordered.2.2 other before register List.mem_cons_self
      simp only [beq_iff_eq]
      bv_omega
    rw [passed, Option.none_or, List.find?_cons]
    simp only [beq_self_eq_true]

end RegisterTrace.RegisterMap
