import SwitchTrace.Numeric.DigitLimit

/-!
# Enumerated fields

Fields of a capture with a few known values. Devices and records keep the number itself, so that
a value that this library does not know survives reading and writing; the types here are what the
number means.

## Main definitions

* `TraceError` — why a device has no context-switch trace.
* `Category` — the kind of a record.
* `SwitchKind` — the kind of a context switch, with its label.
-/

namespace SwitchTrace

/-- Why a device has no context-switch trace. -/
inductive TraceError
  | none
  | unsupportedGpu
  | unsupportedDriver
  | needRoot
  | unknown
deriving DecidableEq, Repr

namespace TraceError

/-- What a number means; every number without a meaning is the unknown error. -/
def ofNumber : Int → TraceError
  | 0 => .none
  | 1 => .unsupportedGpu
  | 2 => .unsupportedDriver
  | 3 => .needRoot
  | _ => .unknown

def name : TraceError → String
  | .none => "NONE"
  | .unsupportedGpu => "UNSUPPORTED_GPU"
  | .unsupportedDriver => "UNSUPPORTED_DRIVER"
  | .needRoot => "NEED_ROOT"
  | .unknown => "UNKNOWN"

/-- The answer to whether the device supports the trace. -/
def supportMessage : TraceError → String
  | .none => "yes"
  | .unsupportedGpu => "no -- unsupported GPU (requires Volta, Turing, or newer)"
  | .unsupportedDriver => "no -- driver is missing required support, try a newer version"
  | .needRoot => "no -- process must be running as root/admin to use this feature"
  | .unknown => "no -- internal error encountered"

end TraceError

/-- The kind of a record. -/
inductive Category
  | invalid
  | gpuContextSwitch
  | unrecognized
deriving DecidableEq, Repr

namespace Category

/-- What a number means. -/
def ofNumber : Int → Category
  | 0 => .invalid
  | 1 => .gpuContextSwitch
  | _ => .unrecognized

def name : Category → String
  | .invalid => "INVALID"
  | .gpuContextSwitch => "GPU_CONTEXT_SWITCH"
  | .unrecognized => "UNRECOGNIZED"

end Category

/-- The kind of a context switch. -/
inductive SwitchKind
  | invalid
  | switchedIn
  | switchedOut
  | unrecognized
deriving DecidableEq, Repr

namespace SwitchKind

/-- What a number means. -/
def ofNumber : Int → SwitchKind
  | 0 => .invalid
  | 1 => .switchedIn
  | 2 => .switchedOut
  | _ => .unrecognized

def name : SwitchKind → String
  | .invalid => "INVALID"
  | .switchedIn => "CONTEXT_SWITCHED_IN"
  | .switchedOut => "CONTEXT_SWITCHED_OUT"
  | .unrecognized => "UNRECOGNIZED"

/-- The label of a number: the spelling of its meaning, and the number itself if it has none. -/
def label (number : Int) : String :=
  match ofNumber number with
  | .invalid => "Invalid"
  | .switchedIn => "ContextSwitchedIn"
  | .switchedOut => "ContextSwitchedOut"
  | .unrecognized => "Unrecognized(" ++ toString number ++ ")"

/-- The label of a number is made of its digits, and these are too many to be written. -/
def hasLongLabel (number : Int) : Bool :=
  match ofNumber number with
  | .unrecognized => isLong number
  | _ => false

/-- A context is switched in or out. -/
def isSwitch : SwitchKind → Bool
  | .switchedIn | .switchedOut => true
  | .invalid | .unrecognized => false

end SwitchKind

end SwitchTrace
