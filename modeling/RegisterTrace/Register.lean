import RegisterTrace.Word

/-!
# Registers

A register has a name, an address and a list of bit fields that starts at its lowest bit.  It
remembers the last value it was seen with.  Decoding a value cuts it into the fields and marks in
each the bits that differ from the value before; the first value of a register changes nothing.
-/

namespace RegisterTrace

/-- A named run of bits. -/
structure Field where
  name : String
  width : Nat
  deriving DecidableEq, Repr

/-- What a field holds after an access, and which of its bits that access changed. -/
structure FieldValue where
  name : String
  value : Word
  changed : Word
  deriving DecidableEq, Repr

/-- Whether any bit of the field changed. -/
def FieldValue.isChanged (field : FieldValue) : Bool :=
  field.changed != 0

/-- A register with its fields from the lowest bit up. -/
structure Register where
  name : String
  address : Word
  fields : List Field := []
  lastValue : Option Word := none
  deriving DecidableEq, Repr

/--
Cuts a value and the mask of its changed bits into fields from the lowest bit up.  Bits above the
last field are dropped.
-/
def Field.slice : List Field → Word → Word → List FieldValue
  | [], _, _ => []
  | field :: rest, value, changed =>
      ⟨field.name, value.low field.width, changed.low field.width⟩ ::
        slice rest (value.drop field.width) (changed.drop field.width)

namespace Register

/--
The number of bits that the fields describe together, which is the exact sum of their widths: it is
not bounded by what a word holds.
-/
def width (register : Register) : Nat :=
  register.fields.foldl (fun total field => total + field.width) 0

/-- The bits in which a value differs from the last one seen. -/
def changes (register : Register) (value : Word) : Word :=
  match register.lastValue with
  | some previous => value ^^^ previous
  | none => 0

/-- The fields of a value, each with the bits that changed since the last one seen. -/
def decode (register : Register) (value : Word) : List FieldValue :=
  Field.slice register.fields value (register.changes value)

/-- The register once it was seen with a value. -/
def see (register : Register) (value : Word) : Register :=
  { register with lastValue := some value }

/-- The register with one more field above its others. -/
def addField (register : Register) (field : Field) : Register :=
  { register with fields := register.fields ++ [field] }

end Register

/-- Every field gives one value, under its own name. -/
theorem Field.map_name_slice
    (fields : List Field)
    (value changed : Word) :
    (Field.slice fields value changed).map FieldValue.name = fields.map Field.name := by
  induction fields generalizing value changed with
  | nil => rfl
  | cons field rest inductionHypothesis =>
      simp only [Field.slice, List.map_cons, inductionHypothesis]

end RegisterTrace
