import SwitchTrace.Byte.Cursor
import SwitchTrace.Capture.Fault
import SwitchTrace.Capture.Basic
import SwitchTrace.Log

/-!
# Framed arrays

Every array of a capture is framed by a header of eight bytes: the number of its elements, and
the number of bytes that its writer used for each. A reader that knows fewer fields than the
writer skips the bytes at the end of each element; a reader that knows more refuses the array.

## Main definitions

* `ArrayHeader` — the header of an array.
* `Layout` — what the elements of an array are.
* `Scan` — the outcome of reading, the place where reading stopped, and the log.
* `readArray`, `writeArray?` — framed arrays.
-/

namespace SwitchTrace

/-! ### Headers -/

/-- The header of an array. -/
structure ArrayHeader where
  count : Int
  elementSize : Int
deriving DecidableEq, Repr

namespace ArrayHeader

/-- The number of bytes of a header. -/
def size : Nat := 8

/-- The bytes of a header whose numbers fit. -/
def encode? (h : ArrayHeader) : Option Bytes := do
  let count ← IntField.i32.encode? h.count
  let elementSize ← IntField.i32.encode? h.elementSize
  return count ++ elementSize

/-- The header that the first eight bytes hold. -/
def ofBytes (bs : Bytes) : ArrayHeader :=
  ⟨IntField.i32.decode (slice 0 4 bs), IntField.i32.decode (slice 4 4 bs)⟩

/-- The header that the first eight bytes hold, if there are as many. -/
def ofBytes? (bs : Bytes) : Option ArrayHeader :=
  if size ≤ bs.length then some (ofBytes bs) else none

/-- The message for fewer bytes than a header has. -/
def shortMessage (found : Nat) : String :=
  "Array header too small: " ++ toString found ++ " < " ++ toString size

/-- The number of bytes of all elements. -/
def payloadSize (h : ArrayHeader) : Int := h.count * h.elementSize

/-- What is wrong with a header, elements of the expected size being required if one is given. -/
def complaint? (h : ArrayHeader) (expected : Option Int) : Option String :=
  if h.count < 0 then some ("Negative element count: " ++ toString h.count)
  else
    match expected with
    | none => none
    | some n =>
      if h.elementSize < n then
        some ("Element size " ++ toString h.elementSize ++ " < " ++ toString n)
      else none

end ArrayHeader

/-! ### Reading -/

/-- What the elements of an array are: what the array is called, the bytes of an element that
this format knows, and how to read them. -/
structure Layout (α : Type) where
  array : String
  width : Nat
  read? : Bytes → Option α

namespace Layout

/-- An array of device descriptors. -/
def device (array : String) : Layout Device := ⟨array, Device.width, Device.ofBytes?⟩

/-- An array of records. -/
def record (array : String) : Layout Record := ⟨array, Record.width, Record.ofBytes?⟩

/-- Reads the known bytes of an element. -/
def readElement {α : Type} (layout : Layout α) (element : Bytes) : Except DecodeFault α :=
  let known := element.take layout.width
  match layout.read? known with
  | some a => .ok a
  | none => .error (.shortElement known.length layout.width)

end Layout

/-- The outcome of reading, the place where reading stopped, and the log. -/
structure Scan (α : Type) where
  outcome : Except DecodeFault α
  cursor : Cursor
  log : List LogLine

namespace Scan

/-- Nothing is read. -/
def pure {α : Type} (a : α) (c : Cursor) : Scan α := ⟨.ok a, c, []⟩

/-- Reads on where a reading without fault stopped. -/
def andThen {α β : Type} (s : Scan α) (next : α → Cursor → Scan β) : Scan β :=
  match s.outcome with
  | .error fault => ⟨.error fault, s.cursor, s.log⟩
  | .ok a =>
    let t := next a s.cursor
    ⟨t.outcome, t.cursor, s.log ++ t.log⟩

end Scan

/-- The line of the log for elements with more bytes than this format knows. -/
def skippedLog {α : Type} (layout : Layout α) (header : ArrayHeader) : List LogLine :=
  if layout.width < header.elementSize then
    [⟨.debug, layout.array ++ ": skipping " ++ toString (header.elementSize - layout.width) ++
      " trailing bytes per element (newer producer)"⟩]
  else []

/-- Reads the elements of a framed array behind its header. The numbers of the header are judged,
and the bytes of all elements are taken before the first element is read. -/
def readElements {α : Type} (layout : Layout α) (header : ArrayHeader) (body : Cursor) :
    Scan (List α) :=
  if header.count < 0 then ⟨.error (.negativeCount layout.array header.count), body, []⟩
  else if header.elementSize < layout.width then
    ⟨.error (.olderVersion layout.array header.elementSize layout.width), body, []⟩
  else
    let needed := header.payloadSize.toNat
    match body.take? needed with
    | none =>
      ⟨.error (.truncated (.elements header.count layout.array) body.offset needed
        body.remaining), body, skippedLog layout header⟩
    | some (payload, rest) =>
      let elements := strides header.elementSize.toNat header.count.toNat payload
      ⟨elements.mapM layout.readElement, rest, skippedLog layout header⟩

/-- Reads a framed array. The header is read before its numbers are judged. -/
def readArray {α : Type} (layout : Layout α) (c : Cursor) : Scan (List α) :=
  match c.take? ArrayHeader.size with
  | none =>
    ⟨.error (.truncated (.arrayHeader layout.array) c.offset ArrayHeader.size c.remaining), c, []⟩
  | some (bytes, body) =>
    match ArrayHeader.ofBytes? bytes with
    | none => ⟨.error (.shortHeader bytes.length), body, []⟩
    | some header => readElements layout header body

/-! ### Writing -/

/-- The bytes of a framed array: its header with the given element size, and its elements one
after the other. -/
def writeArray? {α : Type} (elementSize : Int) (encode? : α → Option Bytes) (elements : List α) :
    Option Bytes := do
  let header ← ArrayHeader.encode? ⟨elements.length, elementSize⟩
  let body ← elements.mapM encode?
  return header ++ body.flatten

end SwitchTrace
