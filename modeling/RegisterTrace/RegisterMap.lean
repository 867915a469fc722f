import RegisterTrace.Register

/-!
# Register maps

A register map holds at most one register per address, in the order of the addresses, and an index
that finds a register by name.  Inserting at an address that is taken replaces the register there
and takes the replaced register's name out of the index, wherever the index sent that name.
-/

namespace RegisterTrace

/-- Registers in the order of their addresses, with the addresses of the indexed names. -/
structure RegisterMap where
  registers : List Register := []
  index : List (String × Word) := []
  deriving DecidableEq, Repr

namespace RegisterMap

instance : EmptyCollection RegisterMap := ⟨⟨[], []⟩⟩

/-- The number of registers. -/
def size (map : RegisterMap) : Nat :=
  map.registers.length

/-- Whether there is no register. -/
def isEmpty (map : RegisterMap) : Bool :=
  map.registers.isEmpty

/-- The register at an address. -/
def get? (map : RegisterMap) (address : Word) : Option Register :=
  map.registers.find? (·.address == address)

/-- The register at the address that the index keeps for a name. -/
def find? (map : RegisterMap) (name : String) : Option Register :=
  (map.index.lookup name).bind map.get?

/-- Puts a register at the place of its address, over the register that was there. -/
def place (register : Register) : List Register → List Register
  | [] => [register]
  | first :: rest =>
      if register.address < first.address then
        register :: first :: rest
      else if register.address = first.address then
        register :: rest
      else
        first :: place register rest

/-- An index without a name. -/
def forget (name : String) (index : List (String × Word)) : List (String × Word) :=
  index.filter (·.1 != name)

/-- The index once the register at an address is about to be replaced. -/
def indexWithout (map : RegisterMap) (address : Word) : List (String × Word) :=
  match map.get? address with
  | some replaced => forget replaced.name map.index
  | none => map.index

/-- The map with a register at its address, whatever was defined there before. -/
def insert (map : RegisterMap) (register : Register) : RegisterMap where
  registers := place register map.registers
  index :=
    (register.name, register.address) ::
      forget register.name (map.indexWithout register.address)

/-- The map with the register at an address replaced by its image. -/
def modify (map : RegisterMap) (address : Word) (change : Register → Register) : RegisterMap :=
  { map with
    registers := map.registers.map fun register =>
      if register.address = address then change register else register }

/-- The map with one more field on the register at an address. -/
def addField (map : RegisterMap) (address : Word) (field : Field) : RegisterMap :=
  map.modify address (·.addField field)

/-- The map once the register at an address was seen with a value. -/
def see (map : RegisterMap) (address : Word) (value : Word) : RegisterMap :=
  map.modify address (·.see value)

/-- The registers that were seen with a value, by address. -/
def seen (map : RegisterMap) : List (Word × Word) :=
  map.registers.filterMap fun register =>
    register.lastValue.map fun value => (register.address, value)

end RegisterMap

end RegisterTrace
