/-!
# Faults of a capture

## Main definitions

* `Part` — what is read in one piece.
* `DecodeFault` — why bytes are no capture.
-/

namespace SwitchTrace

/-- A part of a capture that is read in one piece. -/
inductive Part
  | fileHeader
  | arrayHeader (array : String)
  | elements (count : Int) (array : String)
deriving DecidableEq, Repr

/-- What a part is called in a message. -/
def Part.name : Part → String
  | .fileHeader => "file header"
  | .arrayHeader array => array ++ " header"
  | .elements count array => toString count ++ " " ++ array ++ " elements"

/-- Why bytes are no capture. -/
inductive DecodeFault
  /-- The bytes do not begin as a capture does. -/
  | badMagic (found : List UInt8)
  /-- The bytes end before a part is complete. -/
  | truncated (part : Part) (offset needed available : Nat)
  /-- The header of an array has too few bytes. -/
  | shortHeader (found : Nat)
  /-- An array has a negative number of elements. -/
  | negativeCount (array : String) (count : Int)
  /-- The elements of an array are shorter than those of this format. -/
  | olderVersion (array : String) (elementSize : Int) (expected : Nat)
  /-- An element is shorter than those of this format. -/
  | shortElement (found needed : Nat)
  /-- There are not as many arrays of records as descriptors. -/
  | countMismatch (devices records : Nat)
deriving DecidableEq, Repr

end SwitchTrace
