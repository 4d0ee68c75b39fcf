import SwitchTrace.Value.Show

/-!
# Coded diagnostics

Every reported error has a code, and with the code a severity, a sentence and whether work can go
on. A diagnostic adds a context of plain data, which its message shows.

## Main definitions

* `ErrorCode` — the codes, with `ErrorCode.identifier`, `ErrorCode.severity`,
  `ErrorCode.sentence`, `ErrorCode.recoverable`.
* `Diagnostic` — a code with its context.
-/

namespace SwitchTrace

/-- The codes of reported errors: those of data begin with `E1`, those of settings with `E3`. -/
inductive ErrorCode
  | badMagic
  | unsupportedOlderVersion
  | truncated
  | ioError
  | invalidArrayHeader
  | invalidConfig
  | missingEnvVar
  | validationFailed
deriving DecidableEq, Repr

namespace ErrorCode

/-- All codes, in rising order. -/
def all : List ErrorCode :=
  [.badMagic, .unsupportedOlderVersion, .truncated, .ioError, .invalidArrayHeader,
    .invalidConfig, .missingEnvVar, .validationFailed]

/-- The code as it is printed. -/
def identifier : ErrorCode → String
  | .badMagic => "E1001"
  | .unsupportedOlderVersion => "E1002"
  | .truncated => "E1003"
  | .ioError => "E1004"
  | .invalidArrayHeader => "E1005"
  | .invalidConfig => "E3001"
  | .missingEnvVar => "E3002"
  | .validationFailed => "E3003"

/-- The code with its name. -/
def fullName : ErrorCode → String
  | .badMagic => "E1001_BAD_MAGIC"
  | .unsupportedOlderVersion => "E1002_UNSUPPORTED_OLDER_VERSION"
  | .truncated => "E1003_TRUNCATED"
  | .ioError => "E1004_IO_ERROR"
  | .invalidArrayHeader => "E1005_INVALID_ARRAY_HEADER"
  | .invalidConfig => "E3001_INVALID_CONFIG"
  | .missingEnvVar => "E3002_MISSING_ENV_VAR"
  | .validationFailed => "E3003_VALIDATION_FAILED"

/-- What an error with the code means. -/
def sentence : ErrorCode → String
  | .badMagic => "File is not an nvtrc capture (bad magic)"
  | .unsupportedOlderVersion => "File was written by an older, unsupported format version"
  | .truncated => "File ended before the expected structure was complete"
  | .ioError => "I/O error while accessing capture file"
  | .invalidArrayHeader => "Array header is malformed"
  | .invalidConfig => "Invalid configuration"
  | .missingEnvVar => "Environment variable not set"
  | .validationFailed => "Configuration validation failed"

/-- Work can go on after an error with the code. -/
def recoverable (code : ErrorCode) : Bool := code == .missingEnvVar

/-- How grave an error with the code is. -/
def severity (code : ErrorCode) : String := if code.recoverable then "warning" else "error"

/-- The code with the given identifier. -/
def find? (identifier : String) : Option ErrorCode :=
  all.find? fun code => code.identifier == identifier

/-- The message for a value that is no identifier. -/
def unknownMessage (v : Value) : String := v.quoted ++ " is not a valid ErrorCode"

end ErrorCode

/-- An error with its code and, if there is one, its context. -/
structure Diagnostic where
  code : ErrorCode
  context : Option Mapping

namespace Diagnostic

/-- The sentence of the code, and the context unless it is empty. -/
def message (d : Diagnostic) : String :=
  match d.context with
  | none | some [] => d.code.sentence
  | some context => d.code.sentence ++ ": " ++ context.shown

/-- A detail under the code of the diagnostic. -/
def headline (code : ErrorCode) (detail : String) : String :=
  "[" ++ code.identifier ++ "] " ++ detail

/-- The keys that name other parts of an error. -/
def reservedKeys : List String := ["self", "detail"]

/-- A context can be raised with an error: its keys are texts that name no other part of it. -/
def canBeRaised (context : Mapping) : Bool :=
  context.all fun e =>
    match e.1 with
    | .text key => !reservedKeys.contains key
    | _ => false

/-- A diagnostic that has no context rather than an empty one. -/
def ofContext (code : ErrorCode) (context : Mapping) : Diagnostic :=
  ⟨code, if context.isEmpty then none else some context⟩

end Diagnostic

end SwitchTrace
