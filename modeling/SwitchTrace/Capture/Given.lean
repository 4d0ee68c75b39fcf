import SwitchTrace.Capture.Codec
import SwitchTrace.Text.Given

/-!
# Captures as they are given

The names of a capture that is read are texts. A capture that is given to be written may have names
with surrogates; these have no bytes, and so the capture has none.

## Main definitions

* `GivenDevice`, `GivenTrack`, `GivenCapture` — the data of a capture that is to be written.
* `GivenCapture.encode` — its bytes, or the first fault in the order in which they are made.
* `EncodeFault` — why a capture has no bytes.
-/

namespace SwitchTrace

/-- Why a capture has no bytes. -/
inductive EncodeFault
  /-- A number does not fit into its field. -/
  | outOfRange
  /-- A name has a surrogate. -/
  | surrogate (name : GivenText)
deriving DecidableEq, Repr

/-- What is made of numbers that have to fit. -/
def EncodeFault.unlessFits {α : Type} : Option α → Except EncodeFault α
  | some a => .ok a
  | none => .error .outOfRange

/-- The descriptor of a device as it is given. -/
structure GivenDevice where
  uuid : Uuid
  name : GivenText
  traceError : Int
  cpuStart : Int
  gpuStart : Int
  cpuEnd : Int
  gpuEnd : Int
deriving DecidableEq, Inhabited

namespace GivenDevice

/-- The descriptor of a device whose name is a text. -/
def ofDevice (d : Device) : GivenDevice :=
  ⟨d.uuid, .ofText d.name, d.traceError, d.cpuStart, d.gpuStart, d.cpuEnd, d.gpuEnd⟩

/-- The descriptor with a text as its name. -/
def named (d : GivenDevice) (name : String) : Device :=
  ⟨d.uuid, name, d.traceError, d.cpuStart, d.gpuStart, d.cpuEnd, d.gpuEnd⟩

/-- The bytes of a descriptor. Those of the name are made before the numbers are looked at. -/
def encode (d : GivenDevice) : Except EncodeFault Bytes :=
  match d.name.text? with
  | none => .error (.surrogate d.name)
  | some name => EncodeFault.unlessFits (d.named name).encode?

end GivenDevice

/-- A device as it is given, and its records. -/
structure GivenTrack where
  device : GivenDevice
  records : List Record
deriving DecidableEq, Inhabited

/-- The tracks of all devices, in the order of the devices. -/
structure GivenCapture where
  tracks : List GivenTrack
deriving DecidableEq, Inhabited

namespace GivenCapture

/-- A capture whose names are texts. -/
def ofCapture (c : Capture) : GivenCapture :=
  ⟨c.tracks.map fun t => ⟨.ofDevice t.device, t.records⟩⟩

/-- The bytes of a capture: first the array of all descriptors, and then the records of each
device. -/
def encode (c : GivenCapture) : Except EncodeFault Bytes := do
  let header ← EncodeFault.unlessFits (ArrayHeader.encode? ⟨c.tracks.length, Device.width⟩)
  let devices ← c.tracks.mapM fun t => t.device.encode
  let records ← c.tracks.mapM fun t =>
    EncodeFault.unlessFits (writeArray? Record.width Record.encode? t.records)
  return Capture.magic ++ ((header ++ devices.flatten) ++ records.flatten)

end GivenCapture

end SwitchTrace
