import SwitchTrace.Capture.Frame

/-!
# The format of captures

A capture begins with eight fixed bytes. A framed array of device descriptors follows, and then
for each device in turn a framed array of its records. Bytes after the last array are ignored.

## Main definitions

* `Capture.magic`, `Capture.hasMagic` — how a capture begins.
* `Capture.decode` — the capture that bytes hold, or the first fault in the order of the file.
* `Capture.encode?` — the bytes of a capture whose numbers fit.
-/

namespace SwitchTrace

/-! ### The beginning -/

/-- The bytes with which a capture begins: a word and a NUL. -/
def Capture.magic : Bytes := [0x6E, 0x76, 0x74, 0x72, 0x63, 0x30, 0x31, 0x00]

/-- The bytes begin as a capture does. -/
def Capture.hasMagic (data : Bytes) : Bool := data.take magic.length == magic

/-- Reads the first eight bytes. Fewer bytes that could still become a capture are truncated, and
others are none. -/
def readMagic (c : Cursor) : Scan Unit :=
  match c.take? Capture.magic.length with
  | none =>
    if c.rest.isPrefixOf Capture.magic then
      ⟨.error (.truncated .fileHeader c.offset Capture.magic.length c.remaining), c, []⟩
    else ⟨.error (.badMagic c.rest), c, []⟩
  | some (found, body) =>
    if found = Capture.magic then .pure () body else ⟨.error (.badMagic found), body, []⟩

/-! ### Reading -/

/-- What the array of the records of a device is called. -/
def recordArray (index : Nat) : String := "device " ++ toString index ++ " record"

/-- Reads so many arrays of records, the first of them for the device of the given number. -/
def readRecords : Nat → Nat → Cursor → Scan (List (List Record))
  | _, 0, c => .pure [] c
  | index, count + 1, c =>
    (readArray (.record (recordArray index)) c).andThen fun records c =>
      (readRecords (index + 1) count c).andThen fun rest c => .pure (records :: rest) c

/-- Reads the descriptors and the records of a capture from the place where it begins. -/
def readLists (c : Cursor) : Scan (List Device × List (List Record)) :=
  (readMagic c).andThen fun _ c =>
    (readArray (.device "device descriptor") c).andThen fun devices c =>
      (readRecords 0 devices.length c).andThen fun records c => .pure (devices, records) c

/-- The line of the log for bytes after the last array. -/
def trailingLog (count : Nat) : List LogLine :=
  if count = 0 then []
  else [⟨.debug, "Ignoring " ++ toString count ++ " bytes after last record array"⟩]

/-- An outcome of decoding with its log. -/
structure Decoded where
  outcome : Except DecodeFault Capture
  log : List LogLine

namespace Capture

/-- The capture of descriptors and lists of records that are read. -/
def assemble (devices : List Device) (records : List (List Record)) :
    Except DecodeFault Capture :=
  match ofLists? devices records with
  | none => .error (.countMismatch devices.length records.length)
  | some capture => .ok capture

/-- The capture that bytes hold, or the first fault in the order of the file, with the log. -/
def decodeLogged (data : Bytes) : Decoded :=
  let scan := readLists (.start data)
  match scan.outcome with
  | .error fault => ⟨.error fault, scan.log⟩
  | .ok (devices, records) =>
    ⟨assemble devices records, scan.log ++ trailingLog scan.cursor.remaining⟩

/-- The capture that bytes hold, or the first fault in the order of the file. -/
def decode (data : Bytes) : Except DecodeFault Capture := (decodeLogged data).outcome

/-! ### Writing -/

/-- All numbers of the capture fit into their fields. -/
def Encodable (c : Capture) : Prop :=
  (∀ t ∈ c.tracks, t.device.Encodable ∧ (∀ r ∈ t.records, r.Encodable) ∧
    IntField.i32.Holds t.records.length) ∧ IntField.i32.Holds c.tracks.length

/-- The bytes of a capture whose numbers fit. -/
def encode? (c : Capture) : Option Bytes := do
  let devices ← writeArray? Device.width Device.encode? c.devices
  let records ← c.tracks.mapM fun t => writeArray? Record.width Record.encode? t.records
  return magic ++ (devices ++ records.flatten)

end Capture

end SwitchTrace
