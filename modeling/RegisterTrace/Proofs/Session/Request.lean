import RegisterTrace.Session.Request

/-!
# Requests in the terms of a capture

What a packet asks for is said here by the keys that it shows: whether it belongs to the traffic of
a device, whether its setup data sets up a read, which payload it writes, and which address it
names.  A packet asks for at most two steps, the answer to a read and then its own request, and the
main statement of this module says which ones.
-/

namespace RegisterTrace.Packet

/-- Whether a packet is a control transfer to or from a device. -/
def isRelevant (packet : Packet) (device : String) : Bool :=
  packet.involves device &&
    packet.usb.transferType.any fun text => hexWord? text == some 0x02

/-- The request type that the setup data of a packet writes, if it writes one. -/
def requestType? (packet : Packet) : Option Word :=
  (packet.setup.bind Setup.requestType).bind hexWord?

/-- Whether a packet has setup data without a request type. -/
def isUntyped (packet : Packet) : Bool :=
  packet.setup.any fun setup => setup.requestType.isNone

/-- Whether the setup data of a packet sets up a read. -/
def setsUpRead (packet : Packet) : Bool :=
  packet.requestType? == some 0xC0

/-- The payload that a packet writes. -/
def written? (packet : Packet) : Option String :=
  if packet.requestType? = some 0x40 then packet.setup.bind Setup.fragment else none

/-- The index in the setup data of a packet, as the capture shows it. -/
def index? (packet : Packet) : Option String :=
  packet.setup.bind Setup.index

/-- The register address that the index of a packet writes. -/
def address? (packet : Packet) : Option Word :=
  packet.index?.bind decimalWord?

theorem written?_of_setsUpRead
    {packet : Packet}
    (setUp : packet.setsUpRead) :
    packet.written? = none := by
  rw [setsUpRead, beq_iff_eq] at setUp
  have otherType : (some 0xC0 : Option Word) ≠ some 0x40 := by decide
  rw [written?, setUp, if_neg otherType]

theorem isUntyped_of_requestType?
    {packet : Packet}
    {type : Word}
    (typed : packet.requestType? = some type) :
    packet.isUntyped = false := by
  rcases Option.bind_eq_some_iff.mp typed with ⟨text, shown, -⟩
  rcases Option.bind_eq_some_iff.mp shown with ⟨setup, present, named⟩
  rw [isUntyped, present, Option.any_some, named, Option.isNone_some]

theorem isUntyped_of_setsUpRead
    {packet : Packet}
    (setUp : packet.setsUpRead) :
    packet.isUntyped = false :=
  isUntyped_of_requestType? (beq_iff_eq.mp setUp)

theorem isUntyped_of_written?
    {packet : Packet}
    {payload : String}
    (written : packet.written? = some payload) :
    packet.isUntyped = false := by
  rw [written?] at written
  split at written
  · next typed => exact isUntyped_of_requestType? typed
  · cases written

/-! ## Relevant packets -/

theorem concerns_eq_ok_true_iff
    {packet : Packet}
    {device : String} :
    packet.concerns device = .ok true ↔ packet.isRelevant device := by
  rw [concerns, isRelevant]
  cases packet.involves device with
  | false => simp
  | true => cases packet.usb.transferType <;> simp [controlTransfer]

theorem isRelevant_of_concerns_eq_ok_false
    {packet : Packet}
    {device : String}
    (foreign : packet.concerns device = .ok false) :
    packet.isRelevant device = false := by
  rw [← Bool.not_eq_true, ← concerns_eq_ok_true_iff, foreign]
  simp

theorem concerns_eq_error_iff
    {packet : Packet}
    {device : String}
    {error : DecodeError} :
    packet.concerns device = .error error ↔
      packet.involves device ∧
        packet.usb.transferType = none ∧ error = .missingKey "usb.transfer_type" := by
  rw [concerns]
  cases packet.involves device with
  | false => simp
  | true => cases packet.usb.transferType <;> simp [eq_comm]

theorem not_unclear_of_concerns_eq_ok
    {packet : Packet}
    {device : String}
    {relevant : Bool}
    (known : packet.concerns device = .ok relevant) :
    ¬ (packet.involves device && packet.usb.transferType.isNone) = true := by
  intro unclear
  rw [Bool.and_eq_true, Option.isNone_iff_eq_none] at unclear
  rw [concerns_eq_error_iff.mpr ⟨unclear.1, unclear.2, rfl⟩] at known
  cases known

/-! ## Steps -/

/-- The step that answers a read. -/
def answer? (packet : Packet) : Option Step :=
  packet.response.map .complete

/-- A step at the address that the index of a packet writes. -/
def stepAt (packet : Packet) (step : Word → Step) : Step :=
  match packet.index? with
  | none => .reject (.missingKey "usb.setup.wIndex")
  | some text =>
      match decimalWord? text with
      | some address => step address
      | none => .reject (.invalidIndex text)

/-- What is wrong with the index of a packet: there is none, or it writes no word. -/
def indexFault? (packet : Packet) : Option DecodeError :=
  match packet.index? with
  | none => some (.missingKey "usb.setup.wIndex")
  | some text => if (decimalWord? text).isSome then none else some (.invalidIndex text)

theorem indexFault?_of_address?
    {packet : Packet}
    {address : Word}
    (named : packet.address? = some address) :
    packet.indexFault? = none := by
  rcases Option.bind_eq_some_iff.mp named with ⟨text, shown, read⟩
  simp [indexFault?, shown, read]

/-- A step at the address of a packet is rejected for its index or is a step at that address. -/
theorem stepAt_cases
    (packet : Packet)
    (step : Word → Step) :
    (∃ error, packet.indexFault? = some error ∧ packet.stepAt step = .reject error) ∨
      ∃ address, packet.address? = some address ∧ packet.stepAt step = step address := by
  rw [indexFault?, address?, stepAt]
  cases packet.index? with
  | none => exact .inl ⟨_, rfl, rfl⟩
  | some text =>
      simp only [Option.bind_some]
      cases decimalWord? text with
      | none => exact .inl ⟨_, rfl, rfl⟩
      | some address => exact .inr ⟨address, rfl, rfl⟩

/-- The step that the setup data of a packet asks for. -/
def request? (packet : Packet) : Option Step :=
  if packet.isUntyped then
    some (.reject (.missingKey "usb.bmRequestType"))
  else if packet.setsUpRead then
    some (packet.stepAt .await)
  else
    packet.written?.map fun payload => packet.stepAt (.write · payload)

theorem stepAt_eq
    {packet : Packet}
    {setup : Setup}
    (shown : packet.setup = some setup)
    (step : Word → Step) :
    setup.stepAt step = packet.stepAt step := by
  rw [Setup.stepAt, Setup.address, stepAt, index?]
  rw [shown, Option.bind_some]
  cases setup.index with
  | none => rfl
  | some text =>
      simp only
      cases decimalWord? text <;> rfl

theorem steps_setup_eq
    {packet : Packet}
    {setup : Setup}
    (shown : packet.setup = some setup) :
    setup.steps = packet.request?.toList := by
  rw [Setup.steps, request?, isUntyped, setsUpRead, written?, requestType?]
  simp only [shown, stepAt_eq shown, readRequest, writeRequest, Option.any_some, Option.bind_some,
    beq_iff_eq]
  cases typed : setup.requestType with
  | none => simp
  | some text =>
      simp only [Option.isNone_some, Option.bind_some, Bool.false_eq_true, if_false]
      split
      · rfl
      · split
        · cases setup.fragment <;> rfl
        · rfl

/-- A packet asks for its answer to a read and then for what its setup data requests. -/
theorem steps_eq
    (packet : Packet) :
    packet.steps = packet.answer?.toList ++ packet.request?.toList := by
  rw [steps, answer?]
  congr 1
  · cases packet.response <;> rfl
  · cases shown : packet.setup with
    | none => simp [request?, isUntyped, setsUpRead, written?, requestType?, shown]
    | some setup => simp [steps_setup_eq shown]

end RegisterTrace.Packet
