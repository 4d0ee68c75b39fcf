import SwitchTrace.Capture.Codec
import SwitchTrace.Diagnostic

/-!
# Reports of faulty captures

## Main definitions

* `DecodeFault.detail` — what is wrong, in a sentence.
* `DecodeFault.diagnostic?` — the code of a fault, with the numbers that belong to it.
* `DecodeFault.message` — both in one line.
-/

namespace SwitchTrace.DecodeFault

/-- The code under which a fault is reported. Headers and elements that are too short have none, and
arrays of records in the wrong number: those that are read never are. -/
def code? : DecodeFault → Option ErrorCode
  | .badMagic _ => some .badMagic
  | .truncated .. => some .truncated
  | .negativeCount .. => some .invalidArrayHeader
  | .olderVersion .. => some .unsupportedOlderVersion
  | .shortHeader _ | .shortElement .. | .countMismatch .. => none

/-- What is wrong, in a sentence. -/
def detail : DecodeFault → String
  | .badMagic found =>
    "Invalid magic: " ++ Quoted.bytes found ++ " (expected " ++ Quoted.bytes Capture.magic ++ ")"
  | .truncated part _ _ _ => "Capture ended while reading " ++ part.name
  | .negativeCount array _ => "Negative element count in " ++ array ++ " header"
  | .olderVersion array elementSize expected =>
    array ++ " elements are " ++ toString elementSize ++ " bytes, this reader needs at least " ++
      toString expected
  | .shortElement found needed =>
    "Buffer too small: " ++ toString found ++ " < " ++ toString needed
  | .shortHeader found => ArrayHeader.shortMessage found
  | .countMismatch devices records => Capture.mismatchMessage devices records

/-- The numbers that belong to a fault. -/
def context : DecodeFault → Mapping
  | .badMagic found =>
    [(.text "magic", .text (String.join (found.map fun b => Pad.hexNat 2 b.toNat)))]
  | .truncated _ offset needed available =>
    [(.text "offset", .int offset), (.text "needed", .int needed),
      (.text "available", .int available)]
  | .negativeCount _ count => [(.text "count", .int count)]
  | .olderVersion _ elementSize expected =>
    [(.text "element_size", .int elementSize), (.text "expected", .int expected)]
  | .shortHeader _ | .shortElement .. | .countMismatch .. => []

/-- The diagnostic of a fault. -/
def diagnostic? (fault : DecodeFault) : Option Diagnostic :=
  fault.code?.map fun code => .ofContext code fault.context

/-- The report of a fault in one line. -/
def message (fault : DecodeFault) : String :=
  match fault.code? with
  | some code => Diagnostic.headline code fault.detail
  | none => fault.detail

end SwitchTrace.DecodeFault
