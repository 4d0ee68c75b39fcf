import SwitchTrace.Capture.Given
import SwitchTrace.Capture.Report
import SwitchTrace.Files.Tree

/-!
# Captures in files

## Main definitions

* `FileTree.loadCapture`, `FileTree.storeCapture` — a capture from a file, and into one.
* `FileTree.storeGiven` — a capture whose names may have surrogates into a file.
* `FileTree.looksLikeCapture` — a file begins as a capture does.
* `CaptureFault` — why a capture cannot be read or written.
-/

namespace SwitchTrace

/-- Why a capture cannot be read or written. -/
inductive CaptureFault
  /-- The bytes of the file are no capture. -/
  | decoding (fault : DecodeFault)
  /-- The file cannot be read. -/
  | reading (path : Path) (fault : FileFault)
  /-- The file cannot be written. -/
  | writing (path : Path) (fault : FileFault)
  /-- A number of the capture does not fit into its field. -/
  | notEncodable
  /-- A name of the capture has a surrogate. -/
  | surrogate (name : GivenText)
deriving DecidableEq, Repr

namespace CaptureFault

/-- What is done with a file when it fails, in a sentence. -/
def accessDetail (verb : String) (path : Path) (fault : FileFault) : String :=
  "Cannot " ++ verb ++ " " ++ path.text ++ ": " ++ fault.message path

/-- The diagnostic of a file that the system cannot read or write. -/
def accessDiagnostic? (path : Path) (fault : FileFault) : Option Diagnostic :=
  fault.report?.map fun _ => .ofContext .ioError [(.text "path", .text path.text)]

/-- The diagnostic of a fault. -/
def diagnostic? : CaptureFault → Option Diagnostic
  | .decoding fault => fault.diagnostic?
  | .reading path fault => accessDiagnostic? path fault
  | .writing path fault => accessDiagnostic? path fault
  | .notEncodable | .surrogate _ => none

/-- The message for a file that cannot be read or written. -/
def accessMessage (verb : String) (path : Path) (fault : FileFault) : String :=
  match fault.report? with
  | some _ => Diagnostic.headline .ioError (accessDetail verb path fault)
  | none => fault.message path

/-- The report of a fault in one line. -/
def message : CaptureFault → String
  | .decoding fault => fault.message
  | .reading path fault => accessMessage "read" path fault
  | .writing path fault => accessMessage "write" path fault
  | .notEncodable => "a number does not fit into its field"
  | .surrogate name => name.refusal

/-- A capture that has no bytes is not written. -/
def ofEncodeFault : EncodeFault → CaptureFault
  | .outOfRange => .notEncodable
  | .surrogate name => .surrogate name

end CaptureFault

/-- An outcome of reading a capture with its log. -/
structure CaptureRead where
  outcome : Except CaptureFault Capture
  log : List LogLine

namespace FileTree

/-- The capture that a file holds, with the log. -/
def loadCapture (t : FileTree) (path : Path) : CaptureRead :=
  match t.read path with
  | .error fault => ⟨.error (.reading path fault), []⟩
  | .ok data =>
    let decoded := Capture.decodeLogged data
    ⟨decoded.outcome.mapError .decoding, decoded.log⟩

/-- The tree with a capture in a file. The bytes are made before the file is touched. -/
def storeCapture (t : FileTree) (path : Path) (c : Capture) : Except CaptureFault FileTree :=
  match c.encode? with
  | none => .error .notEncodable
  | some data => (t.write path data).mapError (.writing path)

/-- The tree with a given capture in a file. The bytes are made before the file is touched. -/
def storeGiven (t : FileTree) (path : Path) (c : GivenCapture) : Except CaptureFault FileTree := do
  let data ← c.encode.mapError .ofEncodeFault
  (t.write path data).mapError (.writing path)

/-- A file begins as a capture does. What is no file does not. -/
def looksLikeCapture (t : FileTree) (path : Path) : Except FileFault Bool :=
  match t.read path with
  | .ok data => .ok (Capture.hasMagic data)
  | .error .nameTooLong => .error .nameTooLong
  | .error _ => .ok false

end FileTree

end SwitchTrace
