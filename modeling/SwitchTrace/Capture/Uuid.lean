import SwitchTrace.Byte.LittleEndian
import SwitchTrace.Text.Pad

/-!
# Device identifiers

## Main definitions

* `Uuid` — sixteen bytes.
* `Uuid.printed` — its text in groups.
-/

namespace SwitchTrace

/-- The number of bytes of a device identifier. -/
def Uuid.size : Nat := 16

/-- A device identifier. -/
structure Uuid where
  bytes : Bytes
  length_eq : bytes.length = Uuid.size
deriving DecidableEq

namespace Uuid

/-- The identifier of zeros. -/
def zero : Uuid := ⟨List.replicate size 0, List.length_replicate⟩

instance : Inhabited Uuid := ⟨zero⟩

/-- The identifier with the given bytes, if their number is right. -/
def ofBytes? (bytes : Bytes) : Option Uuid :=
  if h : bytes.length = size then some ⟨bytes, h⟩ else none

/-- The message for bytes whose number is not right. -/
def sizeMessage (found : Nat) : String :=
  "UUID must be " ++ toString size ++ " bytes, got " ++ toString found

/-- Hexadecimal bytes without leading zeros, one after the other. -/
def printedGroup (bytes : Bytes) : String :=
  String.join (bytes.map fun b => Pad.hexDigits b.toNat)

/-- The bytes in groups of the given lengths. -/
def groups : List Nat → Bytes → List String
  | [], _ => []
  | n :: ns, bytes => printedGroup (bytes.take n) :: groups ns (bytes.drop n)

/-- The text of an identifier: groups of four, two, two, two and six bytes. Bytes below sixteen
take one digit, so that the text is not the canonical one. -/
def printed (u : Uuid) : String := "-".intercalate (groups [4, 2, 2, 2, 6] u.bytes)

end Uuid

end SwitchTrace
