import SwitchTrace.Byte.Cursor
import SwitchTrace.Capture.Fields

/-!
# Context-switch records

A record takes 24 bytes: category (2), kind (2), process (4), device clock (8) and context
handle (8). All but the clock are unsigned.

## Main definitions

* `Record`, `Record.Encodable` — a record, and when its fields fit.
* `Record.encode?`, `Record.ofBytes?` — its bytes.
-/

namespace SwitchTrace

/-- One context switch. Numbers are as they were given and may be out of range. -/
structure Record where
  category : Int
  kind : Int
  process : Int
  timestamp : Int
  handle : Int
deriving DecidableEq, Repr, Inhabited

namespace Record

/-- The number of bytes of a record. -/
def width : Nat := 24

/-- What the kind means. -/
def switchKind (r : Record) : SwitchKind := .ofNumber r.kind

/-- All numbers of the record fit into their fields. -/
def Encodable (r : Record) : Prop :=
  IntField.u16.Holds r.category ∧ IntField.u16.Holds r.kind ∧ IntField.u32.Holds r.process ∧
    IntField.i64.Holds r.timestamp ∧ IntField.u64.Holds r.handle

instance (r : Record) : Decidable r.Encodable := by unfold Encodable; infer_instance

/-- The bytes of a record whose numbers fit. -/
def encode? (r : Record) : Option Bytes := do
  let category ← IntField.u16.encode? r.category
  let kind ← IntField.u16.encode? r.kind
  let process ← IntField.u32.encode? r.process
  let timestamp ← IntField.i64.encode? r.timestamp
  let handle ← IntField.u64.encode? r.handle
  return category ++ (kind ++ (process ++ (timestamp ++ handle)))

/-- The record that the first 24 bytes hold, if there are as many. -/
def ofBytes? (raw : Bytes) : Option Record :=
  if width ≤ raw.length then
    some {
      category := IntField.u16.decode (slice 0 2 raw)
      kind := IntField.u16.decode (slice 2 2 raw)
      process := IntField.u32.decode (slice 4 4 raw)
      timestamp := IntField.i64.decode (slice 8 8 raw)
      handle := IntField.u64.decode (slice 16 8 raw) }
  else none

end Record

end SwitchTrace
