import SwitchTrace.Proofs.Clock.Window
import SwitchTrace.Proofs.Export.Document
import SwitchTrace.Proofs.Numeric.Division

/-!
# Times after the origin

The events of a track in a window lie between the readings at its start and at its end, in either
domain. The origin of a capture is the least of the readings at the start in the same domain. No
event therefore comes before the origin, and no exported time is negative, whatever positive number
the distances are divided by.

## Main definitions

* `TimeDomain.stop` — the reading of a clock at the end of a capture.

## Main results

* `Capture.origin_le_start` — the origin is not after the start of any device.
* `Track.IsWindowed.between` — the events of a track in a window.
* `Capture.exists_drain_between` — the events of a capture in windows.
* `Capture.isNonnegative_of_isWindowed` — exported times.
-/

namespace SwitchTrace

/-! ### Readings and the origin -/

/-- The reading of a clock at the end of the capture. -/
def TimeDomain.stop : TimeDomain → Device → Int
  | .processor, d => d.cpuEnd
  | .device, d => d.gpuEnd

/-- The origin is not after the start of any device. -/
theorem Capture.origin_le_start {c : Capture} {t : Track} (ht : t ∈ c.tracks)
    (domain : TimeDomain) : c.origin domain ≤ domain.start t.device := by
  have hmem : domain.start t.device ∈ c.devices.map domain.start :=
    List.mem_map_of_mem (List.mem_map_of_mem ht)
  obtain ⟨least, hleast⟩ := Option.isSome_iff_exists.mp (List.isSome_min?_of_mem hmem)
  rw [origin, hleast]
  exact (List.min?_eq_some_iff.mp hleast).2 _ hmem

namespace Track.IsWindowed

variable {t : Track} {domain : TimeDomain} {r : Record} {timestamp : Int}

/-- The records of a track in a window have a time in either domain. -/
theorem isDatable (h : t.IsWindowed) (domain : TimeDomain) : t.IsDatable domain := by
  obtain ⟨clock, hclock, hconvert⟩ := h.exists_clockMap
  refine ⟨clock, hclock, fun r hr => ?_⟩
  cases domain with
  | processor =>
    obtain ⟨timestamp, htimestamp, -⟩ := hconvert r hr
    exact ⟨timestamp, htimestamp⟩
  | device => exact ⟨r.timestamp, rfl⟩

/-- **The events of a track in a window lie in it**, in either domain. -/
theorem between (h : t.IsWindowed) (hr : r ∈ t.records) (hdates : t.Dates domain r timestamp) :
    domain.start t.device ≤ timestamp ∧ timestamp ≤ domain.stop t.device := by
  cases domain with
  | device =>
    obtain rfl : timestamp = r.timestamp := hdates
    exact h.mem_window r hr
  | processor =>
    obtain ⟨clock, hclock, hconvert⟩ := hdates
    obtain ⟨clock', hclock', hconvert'⟩ := h.exists_clockMap
    obtain rfl : clock = clock' := Except.ok.inj (hclock.symm.trans hclock')
    obtain ⟨timestamp', htimestamp', hbounds⟩ := hconvert' r hr
    obtain rfl : timestamp = timestamp' := Except.ok.inj (hconvert.symm.trans htimestamp')
    exact hbounds

end Track.IsWindowed

/-! ### Exported times -/

/-- An event that is exported has the quotient of its distance from the origin. -/
theorem Event.divide_of_export {pool : StringPool} {origin : Int} {divisor : Value} {d : Number}
    {e : Event} {exported : InstantEvent} (hd : divisor.number? = some d)
    (h : e.export pool origin divisor = .ok exported) :
    d.divide (e.timestamp - origin) = .ok exported.timestamp := by
  obtain ⟨_, _, x, -, -, hx, rfl⟩ := (Event.export_eq_ok_iff hd).mp h
  exact hx

/-- The events of a document are those of the timeline, exported one by one. -/
theorem TraceDocument.forall₂_export_of_ofEvents {info : TimelineInfo} {events : List Event}
    {pool : StringPool} {divisor : Value} {document : TraceDocument}
    (h : ofEvents info events pool divisor = .ok document) :
    List.Forall₂ (fun e e' => Event.export pool info.origin divisor e = .ok e')
      events document.events := by
  obtain ⟨-, -, h⟩ := bind_eq_ok_iff.mp h
  obtain ⟨exported, hexport, h⟩ := bind_eq_ok_iff.mp h
  obtain rfl := pure_eq_ok_iff.mp h
  exact mapM_eq_ok_iff.mp hexport

/-- A document of a capture has all events of its stream, exported one by one: there is none if the
stream breaks off. -/
theorem TraceDocument.forall₂_export_of_ofCapture {c : Capture} {source : String}
    {domain : TimeDomain} {pool after : StringPool} {divisor : Value} {events : List Event}
    {fault : Option ArithmeticFault} {document : TraceDocument}
    (hdrain : (EventStream.ofCapture c domain).drain pool = ⟨events, fault, after⟩)
    (h : ofCapture c source domain pool divisor = .ok document) :
    fault = none ∧
      List.Forall₂ (fun e e' => Event.export after (c.origin domain) divisor e = .ok e')
        events document.events := by
  rw [ofCapture, hdrain, ofDrained] at h
  obtain ⟨document', hevents, h⟩ := bind_eq_ok_iff.mp h
  cases fault with
  | some f => cases h
  | none =>
    obtain rfl := pure_eq_ok_iff.mp h
    exact ⟨rfl, by simpa only [Capture.timelineInfo] using forall₂_export_of_ofEvents hevents⟩

namespace Capture

variable {c : Capture}

/-- **The events of a capture in windows lie in them**, and none comes before the origin. There is
one for each record up to one whose event cannot be named. -/
theorem exists_drain_between (h : ∀ t ∈ c.tracks, t.IsWindowed) (domain : TimeDomain)
    (pool : StringPool) :
    ∃ events after, (EventStream.ofCapture c domain).drain pool =
        ⟨events, namingFault c.recorded, after⟩ ∧
      List.Forall₂ (fun (tr : Track × Record) (e : Event) => tr.1.Dates domain tr.2 e.timestamp ∧
        domain.start tr.1.device ≤ e.timestamp ∧ e.timestamp ≤ domain.stop tr.1.device)
        (nameable c.recorded) events ∧
      ∀ e ∈ events, 0 ≤ e.timestamp - c.origin domain := by
  obtain ⟨events, after, hdrain, hshows⟩ :=
    exists_drain_eq (fun t ht => (h t ht).isDatable domain) pool
  have hbetween : List.Forall₂ (fun (tr : Track × Record) (e : Event) =>
      tr.1 ∈ c.tracks ∧ tr.1.Dates domain tr.2 e.timestamp ∧
        domain.start tr.1.device ≤ e.timestamp ∧ e.timestamp ≤ domain.stop tr.1.device)
      (nameable c.recorded) events := by
    refine ((List.forall₂_and_left _ _).mpr ⟨fun tr htr => htr, hshows⟩).imp ?_
    rintro tr e ⟨htr, timestamp, hdates, hshown⟩
    obtain rfl : e.timestamp = timestamp := hshown.timestamp_eq
    obtain ⟨ht, hr⟩ := mem_of_mem_recorded (mem_of_mem_nameable htr)
    exact ⟨ht, hdates, (h tr.1 ht).between hr hdates⟩
  refine ⟨events, after, hdrain, hbetween.imp fun _ _ h => h.2, fun e he => ?_⟩
  obtain ⟨tr, -, ht, -, hstart, -⟩ := exists_of_mem_forall₂ hbetween e he
  have horigin := origin_le_start ht domain
  omega

/-- **No exported time of a capture in windows is negative.** In either domain the stream of its
events has one for each record up to one whose event cannot be named, and no fault but for that one.
Every event lies between the readings at the start and at the end of its device, and none comes
before the origin. Divided by a positive number, the distances from the origin are not negative, and
if all numbers of the capture fit they can be divided. -/
theorem isNonnegative_of_isWindowed (h : ∀ t ∈ c.tracks, t.IsWindowed) (source : String)
    (domain : TimeDomain) (pool : StringPool) :
    ∃ events after, (EventStream.ofCapture c domain).drain pool =
        ⟨events, namingFault c.recorded, after⟩ ∧
      List.Forall₂ (fun (tr : Track × Record) (e : Event) => tr.1.Dates domain tr.2 e.timestamp ∧
        domain.start tr.1.device ≤ e.timestamp ∧ e.timestamp ≤ domain.stop tr.1.device)
        (nameable c.recorded) events ∧
      (∀ e ∈ events, 0 ≤ e.timestamp - (c.timelineInfo source domain).origin) ∧
      ∀ (divisor : Value) (d : Number), divisor.number? = some d → d.IsPositive →
        (∀ document, TraceDocument.ofCapture c source domain pool divisor = .ok document →
          document.events.length = c.recordCount ∧
            ∀ e ∈ document.events, e.timestamp.IsNonnegative) ∧
        ((∀ t ∈ c.tracks, t.Encodable) →
          ∃ document, TraceDocument.ofCapture c source domain pool divisor = .ok document) := by
  obtain ⟨events, after, hdrain, hbetween, hdistance⟩ := exists_drain_between h domain pool
  refine ⟨events, after, hdrain, hbetween, hdistance, ?_⟩
  intro divisor d hd hpos
  refine ⟨fun document hdocument => ?_, fun hfits => ?_⟩
  · obtain ⟨hfault, hexport⟩ := TraceDocument.forall₂_export_of_ofCapture hdrain hdocument
    have hlength : document.events.length = c.recordCount := by
      rw [← hexport.length_eq, ← hbetween.length_eq, nameable_eq_self hfault, length_recorded]
    refine ⟨hlength, fun exported hexported => ?_⟩
    obtain ⟨e, he, hfrom⟩ := exists_of_mem_forall₂ hexport exported hexported
    exact Number.isNonnegative_divide hpos (hdistance e he) (Event.divide_of_export hd hfrom)
  · obtain ⟨_, hdocument, -⟩ :=
      TraceDocument.exists_ofCapture_of_encodable hfits source domain pool hd hpos.1
    exact ⟨_, hdocument⟩

/-- A device with the longest window of either clock and one record at its start. -/
def widest : Capture :=
  ⟨[⟨⟨.zero, "GPU", 0, 5, -3, 2251799813685252, 9007199254740989⟩, [⟨1, 1, 7, -3, 0⟩]⟩]⟩

theorem isWindowed_of_mem_widest : ∀ t ∈ widest.tracks, t.IsWindowed := by
  simp only [widest, List.forall_mem_singleton]
  exact ⟨by decide, by decide, by decide, by decide, by decide⟩

/-- The one event of the widest window stays in it, and a third of its distance from the origin is
not negative. -/
theorem isNonnegative_of_isWindowed_widest : ∃ e after document,
    (EventStream.ofCapture widest .processor).drain .empty = ⟨[e], none, after⟩ ∧
      5 ≤ e.timestamp ∧ e.timestamp ≤ 2251799813685252 ∧
      TraceDocument.ofCapture widest "capture" .processor .empty (.int 3) = .ok document ∧
      ∀ e' ∈ document.events, e'.timestamp.IsNonnegative := by
  have hfits : ∀ t ∈ widest.tracks, t.Encodable := by
    simp only [widest, List.forall_mem_singleton, Track.Encodable]
    exact ⟨by decide, by decide⟩
  obtain ⟨events, after, hdrain, hbetween, -, hexport⟩ :=
    isNonnegative_of_isWindowed isWindowed_of_mem_widest "capture" .processor .empty
  have hfault := namingFault_recorded hfits
  rw [hfault] at hdrain
  rw [nameable_eq_self hfault] at hbetween
  obtain ⟨e, rest, ⟨-, hstart, hstop⟩, hrest, rfl⟩ := List.forall₂_cons_left_iff.mp hbetween
  obtain rfl := List.forall₂_nil_left_iff.mp hrest
  obtain ⟨hnonneg, hexists⟩ := hexport (.int 3) (.whole 3) rfl ⟨by decide, nofun⟩
  obtain ⟨document, hdocument⟩ := hexists hfits
  exact ⟨e, after, document, hdrain, hstart, hstop, hdocument, (hnonneg document hdocument).2⟩

end Capture

end SwitchTrace
