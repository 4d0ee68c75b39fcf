import SwitchTrace.Files.Tree
import SwitchTrace.Settings.Basic
import SwitchTrace.Settings.Environment
import SwitchTrace.Settings.Format

/-!
# Settings from files

A settings file is looked for in a few places; without one all settings have their defaults. What
reads the data of the file is a parameter.

## Main definitions

* `Settings.loadWith`, `Settings.load` — the settings of a file, in any format and in YAML.
* `Settings.searchWith`, `Settings.search` — the settings of the first file that is there.
* `Settings.ofText` — the settings of a YAML text.
* `LoadFaultOf`, `LoadFault` — why there are no settings.
-/

namespace SwitchTrace

/-- Why there are no settings. `φ` are the faults of reading data. -/
inductive LoadFaultOf (φ : Type)
  /-- The home of the user is not known. -/
  | noHome
  /-- There is no file. -/
  | notFound (path : Path)
  /-- The file cannot be read. -/
  | file (path : Path) (fault : FileFault)
  /-- The file is no text. -/
  | illFormed (fault : Utf8.Fault)
  /-- The text cannot be read as data. -/
  | yaml (fault : φ)
  /-- The data are no settings. -/
  | shape (fault : SettingsFault)

/-- Why there are no settings in YAML. -/
abbrev LoadFault := LoadFaultOf Yaml.Fault

/-- What is wrong with an ill-formed piece of a text, in words. -/
def Utf8.Defect.words : Utf8.Defect → String
  | .invalidStart => "invalid start byte"
  | .invalidContinuation => "invalid continuation byte"
  | .unexpectedEnd => "unexpected end of data"

/-- The message for an ill-formed piece. -/
def Utf8.Fault.message (fault : Utf8.Fault) : String :=
  let start := fault.offset
  let place :=
    match fault.piece with
    | [b] => "byte 0x" ++ Pad.hexNat 2 b.toNat ++ " in position " ++ toString start
    | piece =>
      "bytes in position " ++ toString start ++ "-" ++ toString (start + piece.length - 1)
  "'utf-8' codec can't decode " ++ place ++ ": " ++ fault.defect.words

/-- The message for a fault, faults of reading data having the given messages. -/
def LoadFaultOf.messageOf {φ : Type} (describe : φ → String) : LoadFaultOf φ → String
  | .noHome => "Could not determine home directory."
  | .notFound path => "Config not found: " ++ path.text
  | .file path fault => fault.message path
  | .illFormed fault => fault.message
  | .yaml fault => describe fault
  | .shape fault => fault.message

/-- The message for a fault with YAML. -/
def LoadFaultOf.message (fault : LoadFault) : String := fault.messageOf Yaml.Fault.message

namespace Settings

/-! ### The home of the user -/

/-- The home of the user, which a variable names, or else the database of users if it knows the
user. Slashes at its end do not count. A tilde stands for a home itself, so that none is found by
it. -/
def home? (known : Option String) (env : Environment) : Option Path := do
  let home ← (env.value? "HOME").or known
  let name := home.toList.reverse.dropWhile (· = '/') |>.reverse
  if name.head? = some '~' then none
  else some (.ofText (if name.isEmpty then "/" else String.ofList name))

/-- The places where settings are looked for, in this order: the working directory under two
names, and a directory of the user's home. -/
def searchPaths (home : Path) : List Path :=
  [.ofText "nvtrc.yml", .ofText "nvtrc.yaml", { home with names := home.names ++
    [".nvtrc", "config.yml"] }]

/-! ### Data and settings of files -/

section Format

variable {φ : Type} (format : DataFormat φ)

/-- The data of the bytes of a file. A text without content, and one whose value counts as false,
stands for an empty mapping. -/
def dataOfBytes (bytes : Bytes) : Except (LoadFaultOf φ) Value :=
  match format.readFile bytes with
  | .ok data => .ok (if data.isTruthy then data else .map [])
  | .error (.inl fault) => .error (.illFormed fault)
  | .error (.inr fault) => .error (.yaml fault)

/-- The data of a file. -/
def dataOfFile (t : FileTree) (path : Path) : Except (LoadFaultOf φ) Value := do
  let bytes ← (t.read path).mapError (.file path)
  dataOfBytes format bytes

/-- The settings of data whose variables are to be replaced. -/
def ofData (env : Environment) (data : Value) : Except (LoadFaultOf φ) Settings := do
  let data ← (data.expandWith format.read env).mapError .yaml
  (ofValue data).mapError .shape

/-- The settings of a file. -/
def loadWith (env : Environment) (t : FileTree) (path : Path) :
    Except (LoadFaultOf φ) Settings := do
  if ← (t.exists? path).mapError (.file path) then
    ofData format env (← dataOfFile format t path)
  else .error (.notFound path)

/-- The settings of the first file of a list that is there, or the defaults. -/
def loadFirst (env : Environment) (t : FileTree) : List Path → Except (LoadFaultOf φ) Settings
  | [] => .ok {}
  | path :: rest => do
    if ← (t.exists? path).mapError (.file path) then loadWith format env t path
    else loadFirst env t rest

/-- The settings of the first file that is there of those looked for. -/
def searchAround (known : Option String) (env : Environment) (t : FileTree) :
    Except (LoadFaultOf φ) Settings :=
  match home? known env with
  | some home => loadFirst format env t (searchPaths home)
  | none => .error .noHome

/-- The settings of the given file if it is there, and otherwise of the first file that is there
of those looked for. -/
def searchWith (known : Option String) (env : Environment) (t : FileTree) (given : Option Path) :
    Except (LoadFaultOf φ) Settings := do
  match given with
  | some path =>
    if ← (t.exists? path).mapError (.file path) then loadWith format env t path
    else searchAround format known env t
  | none => searchAround format known env t

end Format

/-! ### Settings in YAML -/

/-- The settings of a text. -/
def ofText (env : Environment) (text : String) : Except LoadFault Settings := do
  ofData .yaml env (← dataOfBytes .yaml (Utf8.encode text))

/-- The settings of a file. -/
def load (env : Environment) (t : FileTree) (path : Path) : Except LoadFault Settings :=
  loadWith .yaml env t path

/-- The settings of the given file, or of the first file that is there of those looked for, where
a variable alone tells the home of the user. -/
def search (env : Environment) (t : FileTree) (given : Option Path) : Except LoadFault Settings :=
  searchWith .yaml none env t given

end Settings

end SwitchTrace
