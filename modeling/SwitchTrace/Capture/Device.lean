import SwitchTrace.Byte.Cursor
import SwitchTrace.Capture.Fields
import SwitchTrace.Capture.Uuid
import SwitchTrace.Text.Utf8

/-!
# Device descriptors

A descriptor takes 288 bytes: the identifier (16), the name (239), the trace error (1) and four
counters of eight bytes. The counters are two readings of the processor clock and the device
clock, one at the start and one at the end of the capture. The name is UTF-8 and ends with its
first NUL.

## Main definitions

* `Device`, `Device.Encodable` — a descriptor, and when its fields fit.
* `Device.encode?`, `Device.ofBytes?` — its bytes.
* `Device.storedName` — a name as it fits into the field.
-/

namespace SwitchTrace

/-- The descriptor of a device. Numbers are as they were given and may be out of range. -/
structure Device where
  uuid : Uuid
  name : String
  traceError : Int
  cpuStart : Int
  gpuStart : Int
  cpuEnd : Int
  gpuEnd : Int
deriving DecidableEq, Inhabited

namespace Device

/-- The number of bytes of a descriptor. -/
def width : Nat := 288

/-- The number of bytes of the name field. One of them is for the NUL at the end. -/
def nameCapacity : Nat := 239

/-- The longest start of a name that leaves room for the NUL. -/
def storedName (name : String) : String := Utf8.truncate (nameCapacity - 1) name

/-- The descriptor with the given name, cut to the field. -/
def setName (d : Device) (name : String) : Device := { d with name := storedName name }

/-- What the trace error means. -/
def traceErrorMeaning (d : Device) : TraceError := .ofNumber d.traceError

/-- The device supports the context-switch trace. -/
def supportsTrace (d : Device) : Bool := d.traceErrorMeaning == .none

/-- Bytes with NULs after them up to a width. -/
def padded (width : Nat) (bs : Bytes) : Bytes := bs ++ List.replicate (width - bs.length) 0

/-- The name field of a name. -/
def nameField (name : String) : Bytes := padded nameCapacity (Utf8.encode (storedName name))

/-- The name in a name field: the bytes before the first NUL. -/
def fieldName (bs : Bytes) : String := Utf8.decodeLossy (bs.takeWhile (· != 0))

/-- All numbers of the descriptor fit into their fields. -/
def Encodable (d : Device) : Prop :=
  IntField.u8.Holds d.traceError ∧ IntField.i64.Holds d.cpuStart ∧ IntField.i64.Holds d.gpuStart ∧
    IntField.i64.Holds d.cpuEnd ∧ IntField.i64.Holds d.gpuEnd

instance (d : Device) : Decidable d.Encodable := by unfold Encodable; infer_instance

/-- The bytes of a descriptor whose numbers fit. -/
def encode? (d : Device) : Option Bytes := do
  let traceError ← IntField.u8.encode? d.traceError
  let cpuStart ← IntField.i64.encode? d.cpuStart
  let gpuStart ← IntField.i64.encode? d.gpuStart
  let cpuEnd ← IntField.i64.encode? d.cpuEnd
  let gpuEnd ← IntField.i64.encode? d.gpuEnd
  return d.uuid.bytes ++ (nameField d.name ++ (traceError ++
    (cpuStart ++ (gpuStart ++ (cpuEnd ++ gpuEnd)))))

/-- The descriptor that the first 288 bytes hold, if there are as many. -/
def ofBytes? (raw : Bytes) : Option Device :=
  if h : width ≤ raw.length then
    some {
      uuid := ⟨raw.take Uuid.size, by
        rw [List.length_take_of_le]
        exact Nat.le_trans (by decide : Uuid.size ≤ width) h⟩
      name := fieldName (slice 16 nameCapacity raw)
      traceError := IntField.u8.decode (slice 255 1 raw)
      cpuStart := IntField.i64.decode (slice 256 8 raw)
      gpuStart := IntField.i64.decode (slice 264 8 raw)
      cpuEnd := IntField.i64.decode (slice 272 8 raw)
      gpuEnd := IntField.i64.decode (slice 280 8 raw) }
  else none

end Device

end SwitchTrace
