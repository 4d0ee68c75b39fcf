import SwitchTrace.Value.Show

/-!
# Settings

Settings have a version and four sections. Their values are plain data of any kind; which values
make sense is checked apart from reading them.

## Main definitions

* `Settings` — the values of all settings, with their defaults.
* `Settings.toMapping` — the settings as plain data, in their order.
* `Settings.ofValue` — settings from plain data, absent ones having their defaults.
* `SettingsFault` — why plain data are no settings.
-/

namespace SwitchTrace

/-- Which clock events are given in. -/
structure TimestampSettings where
  /-- Device time is kept. -/
  rawGpu : Value := .bool false

/-- What a dump shows unless it is asked otherwise. -/
structure OutputSettings where
  showDevices : Value := .bool true
  showRecords : Value := .bool false

/-- How documents are exported. -/
structure ExportSettings where
  timeDivisor : Value := .float .one
  indent : Value := .null

/-- What is logged. -/
structure LoggingSettings where
  level : Value := .text "WARNING"

/-- All settings. -/
structure Settings where
  version : Value := .int 1
  timestamps : TimestampSettings := {}
  output : OutputSettings := {}
  exporting : ExportSettings := {}
  logging : LoggingSettings := {}

/-- The sections of settings. -/
inductive Section
  | timestamps
  | output
  | exporting
  | logging
deriving DecidableEq, Repr

namespace Section

/-- The key of a section. -/
def key : Section → String
  | .timestamps => "timestamps"
  | .output => "output"
  | .exporting => "export"
  | .logging => "logging"

/-- What a section is called in messages. -/
def title : Section → String
  | .timestamps => "TimestampConfig"
  | .output => "OutputConfig"
  | .exporting => "ExportConfig"
  | .logging => "LoggingConfig"

end Section

/-- Why plain data are no settings. -/
inductive SettingsFault
  /-- The data are no mapping. -/
  | notAMapping
  /-- The data of a section are no mapping. -/
  | sectionNotAMapping (part : Section) (data : Value)
  /-- A key of a section is no text. -/
  | keyNotText
  /-- A section has no such key. -/
  | unknownKey (part : Section) (key : String)
  /-- The key of a section names the section itself. -/
  | selfKey (part : Section)

/-- What the kind of a value is called in messages. -/
def Value.kindName : Value → String
  | .scalar .null => "NoneType"
  | .scalar (.bool _) => "bool"
  | .scalar (.int _) => "int"
  | .scalar (.float _) => "float"
  | .scalar (.text _) => "str"
  | .scalar (.day _) => "datetime.date"
  | .scalar (.moment _) => "datetime.datetime"
  | .list _ => "list"
  | .map _ => "dict"

/-- The key that names the section itself. -/
def selfWord : String := "self"

/-- The message for a fault. -/
def SettingsFault.message : SettingsFault → String
  | .notAMapping => "settings must be a mapping"
  | .sectionNotAMapping part data =>
    "nvtrc.config.schema." ++ part.title ++ "() argument after ** must be a mapping, not " ++
      data.kindName
  | .keyNotText => "keywords must be strings"
  | .unknownKey part key =>
    part.title ++ ".__init__() got an unexpected keyword argument '" ++ key ++ "'"
  | .selfKey part =>
    part.title ++ ".__init__() got multiple values for argument '" ++ selfWord ++ "'"

/-! ### Plain data of sections -/

/-- An entry whose key is a text. -/
def entry (key : String) (v : Value) : Scalar × Value := (.text key, v)

/-- The section as plain data. -/
def TimestampSettings.toMapping (s : TimestampSettings) : Mapping := [entry "raw_gpu" s.rawGpu]

/-- The section with a value at a key, if it has the key. -/
def TimestampSettings.set? (s : TimestampSettings) (key : String) (v : Value) :
    Option TimestampSettings :=
  match key with
  | "raw_gpu" => some { s with rawGpu := v }
  | _ => none

/-- The section as plain data. -/
def OutputSettings.toMapping (s : OutputSettings) : Mapping :=
  [entry "show_devices" s.showDevices, entry "show_records" s.showRecords]

/-- The section with a value at a key, if it has the key. -/
def OutputSettings.set? (s : OutputSettings) (key : String) (v : Value) : Option OutputSettings :=
  match key with
  | "show_devices" => some { s with showDevices := v }
  | "show_records" => some { s with showRecords := v }
  | _ => none

/-- The section as plain data. -/
def ExportSettings.toMapping (s : ExportSettings) : Mapping :=
  [entry "time_divisor" s.timeDivisor, entry "indent" s.indent]

/-- The section with a value at a key, if it has the key. -/
def ExportSettings.set? (s : ExportSettings) (key : String) (v : Value) : Option ExportSettings :=
  match key with
  | "time_divisor" => some { s with timeDivisor := v }
  | "indent" => some { s with indent := v }
  | _ => none

/-- The section as plain data. -/
def LoggingSettings.toMapping (s : LoggingSettings) : Mapping := [entry "level" s.level]

/-- The section with a value at a key, if it has the key. -/
def LoggingSettings.set? (s : LoggingSettings) (key : String) (v : Value) :
    Option LoggingSettings :=
  match key with
  | "level" => some { s with level := v }
  | _ => none

namespace Settings

/-- The settings as plain data. -/
def toMapping (s : Settings) : Mapping :=
  [entry "version" s.version,
    entry Section.timestamps.key (.map s.timestamps.toMapping),
    entry Section.output.key (.map s.output.toMapping),
    entry Section.exporting.key (.map s.exporting.toMapping),
    entry Section.logging.key (.map s.logging.toMapping)]

/-! ### Reading -/

/-- The texts that the keys of a mapping are, if all of them are texts. -/
def textKeys (entries : Mapping) : Except SettingsFault (List (String × Value)) :=
  entries.mapM fun e =>
    match e.1 with
    | .text key => .ok (key, e.2)
    | _ => .error .keyNotText

/-- Sets the values of a section one after the other. -/
def setAll {σ : Type} (part : Section) (set? : σ → String → Value → Option σ) (s : σ)
    (entries : List (String × Value)) : Except SettingsFault σ :=
  entries.foldlM (fun s e =>
    match set? s e.1 e.2 with
    | some s => .ok s
    | none => .error (if e.1 = selfWord then .selfKey part else .unknownKey part e.1)) s

/-- A section from the data at its key. Data that count as false stand for an empty section. That
all keys are texts is checked before the first of them is looked up. -/
def readSection {σ : Type} (part : Section) (set? : σ → String → Value → Option σ) (default : σ)
    (entries : Mapping) : Except SettingsFault σ :=
  match Mapping.get? entries (.text part.key) with
  | none => .ok default
  | some data =>
    if data.isTruthy then
      match data with
      | .map entries => do
        let texts ← textKeys entries
        setAll part set? default texts
      | data => .error (.sectionNotAMapping part data)
    else .ok default

/-- Settings from plain data. Other keys than the version and the sections do not count. -/
def ofValue (data : Value) : Except SettingsFault Settings :=
  match data with
  | .map entries => do
    let timestamps ← readSection .timestamps TimestampSettings.set? {} entries
    let output ← readSection .output OutputSettings.set? {} entries
    let exporting ← readSection .exporting ExportSettings.set? {} entries
    let logging ← readSection .logging LoggingSettings.set? {} entries
    return {
      version := (Mapping.get? entries (.text "version")).getD (.int 1)
      timestamps
      output
      exporting
      logging }
  | _ => .error .notAMapping

end Settings

end SwitchTrace
