import SwitchTrace.Command.Run
import SwitchTrace.Proofs.Export.Document
import SwitchTrace.Proofs.Files.Consumption
import SwitchTrace.Proofs.Files.Writing

/-!
# Exporting is all or nothing

An export either fails and leaves all files as they were, or it writes the document of the whole
capture to one file and changes nothing else. What can fail is done before the file is touched: the
settings are checked, the capture is decoded as a whole, its events are exported and the text of the
document is complete before it is written. Nothing of this depends on what reads the settings and
shows the message, so that it holds on every platform.

## Main definitions

* `Record.traceJson`, `Capture.traceJson`, `Capture.IsTraced` — the document of a capture, read off
  its records.
* `ReportOf.Fails` — a command fails and leaves all files as they were.
* `ReportOf.Writes` — a command writes one file.

## Main results

* `TraceDocument.exists_ofCapture_traceJson` — the exported document is the one of the records.
* `Command.writes_writeExport`, `Command.fails_writeExport` — the document is written, or nothing
  is.
* `Command.run_export` — the export command.
-/

namespace SwitchTrace

/-! ### The document of the records -/

/-- The event of a record in a document, with its time. -/
def Record.traceJson (r : Record) (time : Binary64) : JsonValue :=
  .object [("name", .text ("(event_name:" ++ SwitchKind.label r.kind ++ ")")),
    ("cat", .text "nvcontext"), ("ph", .text "i"), ("s", .text "t"), ("ts", .float time),
    ("pid", .int r.process), ("tid", .int r.process)]

namespace Capture

/-- The document of a capture with the given events. -/
def traceJson (c : Capture) (source : String) (domain : TimeDomain) (events : List JsonValue) :
    JsonValue :=
  .object [("traceEvents", .list events),
    ("metadata", .object [("source", .text source), ("devices", .text c.deviceLabel),
      ("origin", .int (c.origin domain))])]

/-- The events are those of the records of a capture, device after device. The time of an event is
the quotient of the distance of its record from the origin, both in the same domain. -/
def IsTraced (c : Capture) (domain : TimeDomain) (divisor : Number) (events : List JsonValue) :
    Prop :=
  List.Forall₂ (fun (tr : Track × Record) event => ∃ timestamp time,
    tr.1.Dates domain tr.2 timestamp ∧
      divisor.divide (timestamp - c.origin domain) = .ok time ∧ event = tr.2.traceJson time)
    c.recorded events

/-- There are as many events as records. -/
theorem IsTraced.length_eq {c : Capture} {domain : TimeDomain} {divisor : Number}
    {events : List JsonValue} (h : c.IsTraced domain divisor events) :
    events.length = c.recordCount := by
  rw [← List.Forall₂.length_eq h, length_recorded]

end Capture

/-- The exported event of a record is that of the record. -/
theorem InstantEvent.Shows.toJson_eq {e : InstantEvent} {r : Record} {distance : Int}
    {divisor : Number} (h : e.Shows r distance divisor) : e.toJson = r.traceJson e.timestamp := by
  rw [toJson, h.name, h.category, h.process]
  rfl

/-- **The exported document is the one of the records.** -/
theorem TraceDocument.exists_ofCapture_traceJson {data : Bytes} {c : Capture}
    (h : Capture.decode data = .ok c) (source : String) (domain : TimeDomain) (pool : StringPool)
    {divisor : Value} {d : Number} (hd : divisor.number? = some d)
    (hpos : d.isNonpositive = false) :
    ∃ document events, ofCapture c source domain pool divisor = .ok document ∧
      c.IsTraced domain d events ∧ document.events.length = c.recordCount ∧
      document.holdsLong = false ∧ document.toJson = c.traceJson source domain events := by
  obtain ⟨events, hdocument, hevents⟩ := exists_ofCapture h source domain pool hd hpos
  have hnumbers := holdsLong_eq_false (Capture.track_encodable_of_decode h) source c.deviceLabel
    hevents
  refine ⟨_, events.map InstantEvent.toJson, hdocument, ?_, ?_, hnumbers, rfl⟩
  · rw [Capture.IsTraced, List.forall₂_map_right_iff]
    exact hevents.imp fun tr e ⟨timestamp, hdates, he⟩ =>
      ⟨timestamp, e.timestamp, hdates, he.timestamp, he.toJson_eq⟩
  · rw [← hevents.length_eq, Capture.length_recorded]

/-! ### Ends of commands -/

namespace ReportOf

variable {φ ψ : Type}

/-- A command that found a workspace fails: the exit code is one, and all files are as they were. -/
structure Fails (r : ReportOf φ ψ) (w : Workspace) : Prop where
  exitCode : r.ending.exitCode = 1
  files : r.files = w.files

/-- A command that found a workspace writes a file: the file holds the data, and nothing else has
changed. -/
structure Writes (r : ReportOf φ ψ) (w : Workspace) (path : Path) (data : Bytes) : Prop where
  read : r.files.read path = .ok data
  content? : ∀ place, w.files.locate path ≠ .ok place →
    r.files.content? place = w.files.content? place
  working : r.files.working = w.files.working

end ReportOf

namespace Command

variable {φ ψ : Type} {p : Platform φ ψ} {w : Workspace} {settings : Settings}

theorem exitCode_failure (p : Platform φ ψ) (texts : List String) :
    (failure p texts).exitCode = 1 := by
  unfold failure failureOf
  split <;> rfl

/-- A capture that cannot be read or decoded ends the command. -/
theorem fails_withCapture {source : Path} {threshold : Nat}
    {body : Capture → List LogLine → ReportOf φ ψ}
    (h : ¬ ∃ data c, w.files.read source = .ok data ∧ Capture.decode data = .ok c) :
    (withCapture p w source threshold body).Fails w := by
  have hload : ∃ fault log, w.files.loadCapture source = ⟨.error fault, log⟩ := by
    cases hread : w.files.read source with
    | error fault => exact ⟨_, _, FileTree.loadCapture_of_read_error hread⟩
    | ok data =>
      cases hdecode : Capture.decode data with
      | error fault => exact ⟨_, _, FileTree.loadCapture_of_decode_error hread hdecode⟩
      | ok c => exact absurd ⟨data, c, hread, hdecode⟩ h
  obtain ⟨fault, log, hload⟩ := hload
  rw [withCapture, hload]
  dsimp only
  split
  · exact ⟨exitCode_failure _ _, rfl⟩
  · exact ⟨rfl, rfl⟩

/-- A capture that is decoded is given to the command. -/
theorem exists_withCapture_eq {source : Path} {data : Bytes} {c : Capture}
    (hread : w.files.read source = .ok data) (hdecode : Capture.decode data = .ok c)
    (p : Platform φ ψ) (threshold : Nat) :
    ∃ log, ∀ body, withCapture p w source threshold body = body c log := by
  refine ⟨(Capture.decodeLogged data).log.filter (LogLine.isShown threshold), fun body => ?_⟩
  rw [withCapture, FileTree.loadCapture_of_decode hread hdecode]

/-- Settings whose level is known are given to the command. -/
theorem exists_withSettings_eq {request : ReadRequest}
    (hload : Settings.searchWith p.format p.knownHome w.env w.files request.config = .ok settings)
    (hlong : settings.logging.level.holdsLong = false) (hlevel : settings.levelOk = true) :
    ∃ threshold, ∀ body, withSettings p w request body = body settings threshold := by
  obtain ⟨threshold, hthreshold⟩ :=
    Settings.threshold_of_levelOk hlong hlevel request.verbose
  refine ⟨threshold, fun body => ?_⟩
  rw [withSettings, hload]
  simp only [hthreshold]

/-! ### The export command -/

/-- What the user is told about a document that was written. -/
def exportMessage (output : Path) (count : Nat) : String :=
  "[green]Written to:[/] " ++ output.text ++ " (" ++ Pad.grouped count ++ " events)"

section WriteExport

variable {request : ExportRequest} {threshold : Nat} {c : Capture} {log : List LogLine}
  {document : TraceDocument}

/-- What is exported is a document and its text. -/
theorem exported_eq_ok_iff {room : Nat} {source : Path} {text : String} :
    exported room settings source c = .ok (document, text) ↔
      TraceDocument.ofCapture c source.text (timeDomain settings) .empty
          settings.exporting.timeDivisor = .ok document ∧
        ∃ layout, TraceDocument.layoutOf room settings.exporting.indent = .ok layout ∧
          document.holdsLong = false ∧ text = document.toJson.render layout := by
  simp only [exported, bind_eq_ok_iff, pure_eq_ok_iff, Prod.mk.injEq,
    TraceDocument.render_eq_ok_iff]
  constructor
  · rintro ⟨document, hdocument, text, htext, rfl, rfl⟩
    exact ⟨hdocument, htext⟩
  · rintro ⟨hdocument, htext⟩
    exact ⟨document, hdocument, text, htext, rfl, rfl⟩

/-- A document with a layout, whose numbers can be written, is written where a file can be. -/
theorem writes_writeExport (hdocument : TraceDocument.ofCapture c request.source.text
      (timeDomain settings) .empty settings.exporting.timeDivisor = .ok document)
    (hnumbers : document.holdsLong = false) {layout : JsonLayout}
    (hlayout : TraceDocument.layoutOf p.indentRoom settings.exporting.indent = .ok layout)
    (hwritable : w.files.IsWritable request.output) :
    let report := writeExport p w request settings threshold c log
    report.ending =
        success (p.console.print (exportMessage request.output document.events.length)) ∧
      report.Writes w request.output (Utf8.encode (document.toJson.render layout)) := by
  obtain ⟨files, hfiles⟩ := FileTree.exists_write_iff.mpr hwritable
  rw [writeExport, exported_eq_ok_iff.mpr ⟨hdocument, layout, hlayout, hnumbers, rfl⟩]
  dsimp only
  rw [hfiles]
  exact ⟨rfl, FileTree.read_of_write hfiles, fun _ => FileTree.content?_of_write hfiles,
    FileTree.working_of_write hfiles⟩

/-- Without a layout, and where no file can be written, nothing is written. -/
theorem fails_writeExport
    (h : (¬ ∃ layout, TraceDocument.layoutOf p.indentRoom settings.exporting.indent = .ok layout) ∨
      ¬ w.files.IsWritable request.output) :
    (writeExport p w request settings threshold c log).Fails w := by
  unfold writeExport
  cases hexported : exported p.indentRoom settings request.source c with
  | error fault => exact ⟨rfl, rfl⟩
  | ok pair =>
    obtain ⟨document, text⟩ := pair
    dsimp only
    cases hfiles : w.files.write request.output (Utf8.encode text) with
    | error fault => exact ⟨rfl, rfl⟩
    | ok files =>
      obtain ⟨-, layout, hlayout, -⟩ := exported_eq_ok_iff.mp hexported
      have hwritable := FileTree.exists_write_iff.mp ⟨files, hfiles⟩
      exact absurd h (not_or.mpr ⟨not_not.mpr ⟨layout, hlayout⟩, not_not.mpr hwritable⟩)

end WriteExport

section RunExport

variable {request : ExportRequest}
  (hload : Settings.searchWith p.format p.knownHome w.env w.files request.config = .ok settings)
  (hlong : settings.logging.level.holdsLong = false) (hlevel : settings.levelOk = true)

include hload hlong hlevel

/-- Settings that make no sense end the command before the capture is read. -/
theorem fails_run_export_of_check (h : (overlay request settings).check ≠ .ok []) :
    (runOn p w (.export request)).Fails w := by
  obtain ⟨threshold, hsettings⟩ := exists_withSettings_eq hload hlong hlevel
  rw [runOn, runExport, hsettings]
  dsimp only
  split
  · next hcheck => exact absurd hcheck h
  · exact ⟨exitCode_failure _ _, rfl⟩
  · exact ⟨rfl, rfl⟩

/-- With settings that make sense the command reads the capture. -/
theorem exists_run_export_eq (h : (overlay request settings).check = .ok []) :
    ∃ threshold, runOn p w (.export request) = withCapture p w request.source threshold
      (writeExport p w request (overlay request settings) threshold) := by
  obtain ⟨threshold, hsettings⟩ := exists_withSettings_eq hload hlong hlevel
  refine ⟨threshold, ?_⟩
  rw [runOn, runExport, hsettings]
  simp only [h]

end RunExport

/-- **The export command is all or nothing**, on every platform. With settings that have complaints,
and with a capture that cannot be read or decoded, it fails and leaves all files as they were.
Otherwise there is a document with the event of each record, the settings that the user gives
counting more than those of the settings file. Its text, in the layout that the settings ask for, is
what the output holds if a file can be written there; no other file changes, and the user is told
the number of all records. A layout is wanting only for an indentation that there is no room for,
and then, or if no file can be written, the command fails and leaves all files as they were. -/
theorem run_export {request : ExportRequest}
    (hload : Settings.searchWith p.format p.knownHome w.env w.files request.config = .ok settings)
    (hlong : settings.logging.level.holdsLong = false) (hlevel : settings.levelOk = true) :
    let cfg := overlay request settings
    let report := runOn p w (.export request)
    ((cfg.check ≠ .ok [] ∨
        ¬ ∃ data c, w.files.read request.source = .ok data ∧ Capture.decode data = .ok c) →
      report.Fails w) ∧
    ∀ data c, cfg.check = .ok [] → w.files.read request.source = .ok data →
      Capture.decode data = .ok c →
      ∃ d events, cfg.exporting.timeDivisor.number? = some d ∧
        c.IsTraced (timeDomain cfg) d events ∧ events.length = c.recordCount ∧
        (cfg.IndentFits p.indentRoom →
          ∃ layout, TraceDocument.layoutOf p.indentRoom cfg.exporting.indent = .ok layout) ∧
        (∀ layout, TraceDocument.layoutOf p.indentRoom cfg.exporting.indent = .ok layout →
          w.files.IsWritable request.output →
          report.ending = success (p.console.print (exportMessage request.output c.recordCount)) ∧
          report.Writes w request.output (Utf8.encode
            ((c.traceJson request.source.text (timeDomain cfg) events).render layout))) ∧
        ((¬ ∃ layout, TraceDocument.layoutOf p.indentRoom cfg.exporting.indent = .ok layout) ∨
          ¬ w.files.IsWritable request.output → report.Fails w) := by
  intro cfg report
  constructor
  · intro h
    by_cases hcheck : cfg.check = .ok []
    · obtain ⟨threshold, hrun⟩ := exists_run_export_eq hload hlong hlevel hcheck
      show (runOn p w (.export request)).Fails w
      rw [hrun]
      exact fails_withCapture (h.resolve_left (not_not.mpr hcheck))
    · exact fails_run_export_of_check hload hlong hlevel hcheck
  · intro data c hcheck hread hdecode
    obtain ⟨threshold, hrun⟩ := exists_run_export_eq hload hlong hlevel hcheck
    obtain ⟨log, hcapture⟩ := exists_withCapture_eq hread hdecode p threshold
    have hreport : report = writeExport p w request cfg threshold c log := hrun.trans (hcapture _)
    have hcomplaints := Settings.complaints_eq_nil_of_check hcheck
    obtain ⟨hdivisor, hindent⟩ := Settings.ok_of_complaints_eq_nil hcomplaints
    obtain ⟨d, hd, hpos⟩ := Settings.exists_number_of_timeDivisorOk hdivisor
    obtain ⟨document, events, hdocument, hevents, hcount, hnumbers, hjson⟩ :=
      TraceDocument.exists_ofCapture_traceJson hdecode request.source.text (timeDomain cfg) .empty
        hd hpos
    refine ⟨d, events, hd, hevents, hevents.length_eq, Settings.exists_layoutOf hindent, ?_, ?_⟩
    · intro layout hlayout hwritable
      rw [hreport, ← hjson, ← hcount]
      exact writes_writeExport hdocument hnumbers hlayout hwritable
    · intro h
      rw [hreport]
      exact fails_writeExport h

/-- A workspace with a file in the working directory, no settings file and no variables. -/
def holding (data : Bytes) : Workspace := ⟨⟨[(["in"], .file data)], []⟩, []⟩

/-- The standard platform for a user whose home is in the database of users. -/
def withKnownHome : Platform Yaml.Fault MarkupFault :=
  { Platform.standard with knownHome := some "/root" }

/-- The file is to be exported with the times of the device. -/
def deviceRequest : ExportRequest :=
  ⟨⟨⟨"", ["in"]⟩, none, false⟩, ⟨"", ["out"]⟩, some true, none⟩

/-- The default settings divide the distance of the only record from the start of its device by
one. -/
theorem run_export_holding : ∃ data time,
    Settings.searchWith withKnownHome.format withKnownHome.knownHome (holding data).env
        (holding data).files none = .ok {} ∧
      Capture.decode data = .ok (Capture.single "GPU") ∧
      (Number.float .one).divide (-9223372036854775807) = .ok time ∧
      (runOn withKnownHome (holding data) (.export deviceRequest)).ending.exitCode = 0 ∧
      (runOn withKnownHome (holding data) (.export deviceRequest)).Writes (holding data)
        ⟨"", ["out"]⟩ (Utf8.encode (((Capture.single "GPU").traceJson "in" .device
          [Record.traceJson ⟨0, 65535, 4294967295, -9223372036854775808, 18446744073709551615⟩
            time]).render .oneLine)) := by
  have hcheck : (overlay deviceRequest {}).check = .ok [] := by
    have hcomplaints : (overlay deviceRequest {}).complaints = [] := by decide +kernel
    rw [Settings.check, hcomplaints]
    rfl
  obtain ⟨data, hdecode⟩ := Capture.exists_decode_single
  have hload : Settings.searchWith withKnownHome.format withKnownHome.knownHome
      (holding data).env (holding data).files deviceRequest.config = .ok {} := rfl
  have hwritable : (holding data).files.IsWritable deviceRequest.output :=
    ⟨["out"], rfl, nofun⟩
  obtain ⟨d, events, hd, hevents, -, -, hwrites, -⟩ :=
    (run_export hload rfl (by decide +kernel)).2 data _ hcheck rfl hdecode
  obtain ⟨hending, hfile⟩ := hwrites .oneLine rfl hwritable
  obtain rfl : .float .one = d := Option.some.inj hd
  obtain ⟨event, rest, ⟨_, time, rfl, htime, rfl⟩, hrest, rfl⟩ :=
    List.forall₂_cons_left_iff.mp hevents
  obtain rfl := List.forall₂_nil_left_iff.mp hrest
  have hprinted : (success (withKnownHome.console.print
      (exportMessage ⟨"", ["out"]⟩ 1)) : Ending).exitCode = 0 := by
    decide +kernel
  refine ⟨data, time, hload, hdecode, htime, ?_, hfile⟩
  rw [hending]
  exact hprinted

end Command

end SwitchTrace
