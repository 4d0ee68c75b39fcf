import SwitchTrace.Settings.Basic
import SwitchTrace.Text.Letters

/-!
# Checking settings

## Main definitions

* `Complaint` — what is wrong with a setting, with its message.
* `Settings.complaints` — everything that is wrong with settings.
* `Settings.check` — the same, if all of it can be put into words.
-/

namespace SwitchTrace

/-- What is wrong with a setting. -/
inductive Complaint
  | version (v : Value)
  | timeDivisor (v : Value)
  | indent (v : Value)
  | logLevel (v : Value)

/-- The message for a complaint. -/
def Complaint.message : Complaint → String
  | .version v => "Unsupported config version: " ++ v.shown
  | .timeDivisor v => "Invalid time_divisor: " ++ v.shown
  | .indent v => "Invalid indent: " ++ v.shown
  | .logLevel v => "Invalid logging level: " ++ v.shown

/-- The value that a complaint is about. -/
def Complaint.subject : Complaint → Value
  | .version v => v
  | .timeDivisor v => v
  | .indent v => v
  | .logLevel v => v

/-- The log levels that settings may have. -/
def settingsLevels : List String := ["DEBUG", "INFO", "WARNING", "ERROR"]

namespace Settings

/-- The version is one, as a number of any kind. -/
def versionOk (s : Settings) : Bool :=
  match s.version.number? with
  | some (.whole n) => n == 1
  | some (.float x) => x.isOne
  | none => false

/-- The divisor is a number that is not zero or less. -/
def timeDivisorOk (s : Settings) : Bool :=
  match s.exporting.timeDivisor.number? with
  | some n => !n.isNonpositive
  | none => false

/-- The indentation is nothing, or a whole number that is not negative. -/
def indentOk (s : Settings) : Bool :=
  match s.exporting.indent with
  | .scalar .null => true
  | v => v.wholeNumber?.any (0 ≤ ·)

/-- The level in capital letters. -/
def levelName (s : Settings) : String := Letters.capitalized s.logging.level.shown

/-- The level has one of the known names. -/
def levelOk (s : Settings) : Bool := settingsLevels.contains s.levelName

/-- Everything that is wrong with settings. -/
def complaints (s : Settings) : List Complaint :=
  (if s.versionOk then [] else [.version s.version]) ++
  (if s.timeDivisorOk then [] else [.timeDivisor s.exporting.timeDivisor]) ++
  (if s.indentOk then [] else [.indent s.exporting.indent]) ++
  (if s.levelOk then [] else [.logLevel s.logging.level])

/-- Everything that is wrong with settings, if it can be put into words. The level always has to
be, since its words are looked at. -/
def check (s : Settings) : Except WordingFault (List Complaint) :=
  if s.logging.level.holdsLong || s.complaints.any fun c => c.subject.holdsLong then
    .error .longNumber
  else .ok s.complaints

end Settings

end SwitchTrace
