import SwitchTrace.Proofs.Capture.Rewriting
import SwitchTrace.Proofs.Clock.Range
import SwitchTrace.Proofs.Steps
import SwitchTrace.Proofs.Timeline.Script

/-!
# The events of a capture that was read

All numbers of a capture that was read fit into their fields. Its devices therefore have clock maps,
and these convert the time of every record, so that the stream of its events breaks off nowhere: it
has one event for each record, in the order of the devices and then of their records.

## Main definitions

* `Capture.recorded` — the records of a capture, each with its track.
* `Track.Dates`, `Track.Shows` — the time of a record in a domain, and its event at that time.
* `nameable`, `namingFault` — the records up to one whose event cannot be named, and the fault if
  there is one.
* `Track.Encodable`, `Track.IsDatable` — the numbers of a track fit, and all its records have a
  time.

## Main results

* `Track.Encodable.isDatable` — the one makes sure of the other.
* `Script.tells_ofTracks` — the script of a capture has an event for each record that it can name.
* `Capture.exists_drain_eq` — so has its stream.
* `Capture.exists_drain_of_decode` — the events of a capture that was read.
-/

namespace SwitchTrace

/-- The time at which an event of the track stands in a domain: the reading of the device itself, or
what the clock map of the device makes of it. -/
def Track.Dates (t : Track) (domain : TimeDomain) (r : Record) (timestamp : Int) : Prop :=
  match domain with
  | .processor => ∃ clock, t.device.clockMap = .ok clock ∧ clock.convert r.timestamp = .ok timestamp
  | .device => timestamp = r.timestamp

/-- The event with strings is that of a record, at its time in the domain. -/
def Track.Shows (domain : TimeDomain) (tr : Track × Record) (shown : EventOf String) : Prop :=
  ∃ timestamp, tr.1.Dates domain tr.2 timestamp ∧ shown = tr.2.event timestamp

/-- The records of a list of tracks, each with its track. -/
def recordedIn (tracks : List Track) : List (Track × Record) :=
  tracks.flatMap fun t => t.records.map (t, ·)

/-- The records of a capture device after device, each with its track. -/
def Capture.recorded (c : Capture) : List (Track × Record) := recordedIn c.tracks

theorem recordedIn_cons (t : Track) (tracks : List Track) :
    recordedIn (t :: tracks) = t.records.map (t, ·) ++ recordedIn tracks := List.flatMap_cons

theorem length_recordedIn (tracks : List Track) :
    (recordedIn tracks).length = recordsIn tracks := by
  induction tracks with
  | nil => rfl
  | cons t tracks ih => rw [recordedIn_cons, List.length_append, List.length_map, ih, recordsIn]

/-- The records of a capture belong to its tracks. -/
theorem Capture.mem_of_mem_recorded {c : Capture} {tr : Track × Record} (h : tr ∈ c.recorded) :
    tr.1 ∈ c.tracks ∧ tr.2 ∈ tr.1.records := by
  obtain ⟨t, ht, hmem⟩ := List.mem_flatMap.mp h
  obtain ⟨r, hr, rfl⟩ := List.mem_map.mp hmem
  exact ⟨ht, hr⟩

theorem Capture.length_recorded (c : Capture) : c.recorded.length = c.recordCount :=
  length_recordedIn c.tracks

/-! ### Records whose events have a name -/

/-- The records before the first one whose event cannot be named. -/
def nameable (recorded : List (Track × Record)) : List (Track × Record) :=
  recorded.takeWhile fun tr => !SwitchKind.hasLongLabel tr.2.kind

/-- The fault of a stream that comes to a record whose event cannot be named. -/
def namingFault (recorded : List (Track × Record)) : Option ArithmeticFault :=
  if recorded.any fun tr => SwitchKind.hasLongLabel tr.2.kind then some .tooManyDigits else none

section Naming

variable {recorded : List (Track × Record)} {r : Record}

theorem nameable_cons_of_long (t : Track) (h : SwitchKind.hasLongLabel r.kind = true) :
    nameable ((t, r) :: recorded) = [] ∧
      namingFault ((t, r) :: recorded) = some .tooManyDigits := by
  simp [nameable, namingFault, h]

theorem nameable_cons_of_short (t : Track) (h : SwitchKind.hasLongLabel r.kind = false) :
    nameable ((t, r) :: recorded) = (t, r) :: nameable recorded ∧
      namingFault ((t, r) :: recorded) = namingFault recorded := by
  constructor
  · simp [nameable, h]
  · rw [namingFault, namingFault, List.any_cons, h, Bool.false_or]

/-- A stream without a fault has come by all records. -/
theorem namingFault_eq_none_iff : namingFault recorded = none ↔
    ∀ tr ∈ recorded, SwitchKind.hasLongLabel tr.2.kind = false := by
  simp [namingFault]

theorem nameable_eq_self (h : namingFault recorded = none) : nameable recorded = recorded := by
  rw [nameable, List.takeWhile_eq_self_iff]
  intro tr htr
  rw [namingFault_eq_none_iff.mp h tr htr, Bool.not_false]

theorem mem_of_mem_nameable {tr : Track × Record} (h : tr ∈ nameable recorded) : tr ∈ recorded :=
  (List.takeWhile_prefix _).subset h

end Naming

/-- A number that can be written has a label that can be. -/
theorem SwitchKind.hasLongLabel_eq_false {number : Int} (h : isLong number = false) :
    hasLongLabel number = false := by
  rw [hasLongLabel]
  split
  · exact h
  · rfl

/-- The event of a record has a time if the record has one and the event can be named. -/
theorem EventStream.eventTime_eq_ok_iff {domain : TimeDomain} {clock : ClockMap} {r : Record}
    {timestamp : Int} : eventTime domain clock r = .ok timestamp ↔
      timeOf domain clock r = .ok timestamp ∧ SwitchKind.hasLongLabel r.kind = false := by
  rw [eventTime, bind_eq_ok_iff]
  cases SwitchKind.hasLongLabel r.kind <;> simp [pure, Except.pure]

/-- A stream takes the time of a record as the track dates it. -/
theorem Track.dates_of_eventTime {t : Track} {domain : TimeDomain} {clock : ClockMap} {r : Record}
    {timestamp : Int} (hclock : t.device.clockMap = .ok clock)
    (h : EventStream.eventTime domain clock r = .ok timestamp) : t.Dates domain r timestamp := by
  have htime := (EventStream.eventTime_eq_ok_iff.mp h).1
  cases domain with
  | processor => exact ⟨clock, hclock, htime⟩
  | device => exact (Except.ok.inj htime).symm

/-! ### Records that have a time -/

/-- The numbers of the device and of all records fit into their fields. -/
def Track.Encodable (t : Track) : Prop := t.device.Encodable ∧ ∀ r ∈ t.records, r.Encodable

theorem Capture.Encodable.track {c : Capture} (h : c.Encodable) {t : Track} (ht : t ∈ c.tracks) :
    t.Encodable :=
  ⟨(h.1 t ht).1, (h.1 t ht).2.1⟩

/-- The device has a clock map, and all records have a time in the domain. -/
def Track.IsDatable (t : Track) (domain : TimeDomain) : Prop :=
  ∃ clock, t.device.clockMap = .ok clock ∧
    ∀ r ∈ t.records, ∃ timestamp, EventStream.timeOf domain clock r = .ok timestamp

/-- **Every record has a time** if the numbers of its device and its own fit. -/
theorem Track.Encodable.isDatable {t : Track} (h : t.Encodable) (domain : TimeDomain) :
    t.IsDatable domain := by
  obtain ⟨hdevice, hrecords⟩ := h
  obtain ⟨clock, hclock, -, hsrc, hscale⟩ := t.device.exists_clockMap hdevice
  refine ⟨clock, hclock, fun r hr => ?_⟩
  cases domain with
  | processor =>
    obtain ⟨n, hn, -⟩ := ClockMap.exists_convert hscale (hsrc ▸ hdevice.2.2.2.2)
      (hrecords r hr).2.2.2.1
    exact ⟨_, hn⟩
  | device => exact ⟨r.timestamp, rfl⟩

/-- All records whose numbers fit have events with a name. -/
theorem Capture.namingFault_recorded {c : Capture} (h : ∀ t ∈ c.tracks, t.Encodable) :
    namingFault c.recorded = none := by
  rw [namingFault_eq_none_iff]
  intro tr htr
  obtain ⟨ht, hr⟩ := mem_of_mem_recorded htr
  have hkind := ((h tr.1 ht).2 tr.2 hr).2.1
  exact SwitchKind.hasLongLabel_eq_false (hkind.isLong_eq_false (by decide))

namespace Script

variable {domain : TimeDomain} {recorded : List (Track × Record)}

/-- A script tells of all records up to one whose event cannot be named: it has an event for each of
them, at a time of the record, and breaks off if there is such a record. -/
structure Tells (domain : TimeDomain) (recorded : List (Track × Record)) (s : Script) : Prop where
  fault_eq : s.fault = namingFault recorded
  events : List.Forall₂ (Track.Shows domain) (nameable recorded) s.events

/-- The records of one device come before those of the others. -/
theorem Tells.ofRecords {rest : Script} {t : Track} {clock : ClockMap} {records : List Record}
    (h : rest.Tells domain recorded) (hclock : t.device.clockMap = .ok clock)
    (htimes : ∀ r ∈ records, ∃ timestamp, EventStream.timeOf domain clock r = .ok timestamp) :
    (Script.ofRecords domain clock rest records).Tells domain
      (records.map (t, ·) ++ recorded) := by
  induction records with
  | nil => exact h
  | cons r records ih =>
    obtain ⟨timestamp, htime⟩ := htimes r List.mem_cons_self
    have ih := ih fun r' hr' => htimes r' (List.mem_cons_of_mem r hr')
    rw [List.map_cons, List.cons_append, Script.ofRecords, EventStream.eventTime, htime]
    cases hlong : SwitchKind.hasLongLabel r.kind with
    | true =>
      obtain ⟨hnone, hfault⟩ := nameable_cons_of_long t hlong
      exact ⟨hfault.symm, hnone ▸ .nil⟩
    | false =>
      obtain ⟨hcons, hfault⟩ := nameable_cons_of_short t hlong
      have hdates := Track.dates_of_eventTime hclock
        (EventStream.eventTime_eq_ok_iff.mpr ⟨htime, hlong⟩)
      refine ⟨ih.fault_eq.trans hfault.symm, hcons ▸ .cons ⟨timestamp, hdates, rfl⟩ ih.events⟩

/-- **The script of a capture whose records all have a time tells of these records.** -/
theorem tells_ofTracks {tracks : List Track} (h : ∀ t ∈ tracks, t.IsDatable domain) :
    (ofTracks domain tracks).Tells domain (recordedIn tracks) := by
  induction tracks with
  | nil => exact ⟨rfl, .nil⟩
  | cons t tracks ih =>
    obtain ⟨clock, hclock, htimes⟩ := h t List.mem_cons_self
    have ih := ih fun t' ht' => h t' (List.mem_cons_of_mem t ht')
    rw [ofTracks, hclock, recordedIn_cons]
    exact ih.ofRecords hclock htimes

end Script

namespace Capture

variable {data : Bytes} {c : Capture}

/-- The tracks of a capture that was read have numbers that fit. -/
theorem track_encodable_of_decode (h : decode data = .ok c) : ∀ t ∈ c.tracks, t.Encodable :=
  fun _ => (encodable_of_decode h).track

/-- **The stream of a capture whose records all have a time** has an event for each record up to one
whose event cannot be named, and no fault but for that one. -/
theorem exists_drain_eq {domain : TimeDomain} (h : ∀ t ∈ c.tracks, t.IsDatable domain)
    (pool : StringPool) :
    ∃ events after, (EventStream.ofCapture c domain).drain pool =
        ⟨events, namingFault c.recorded, after⟩ ∧
      List.Forall₂ (fun (tr : Track × Record) e => ∃ timestamp,
        tr.1.Dates domain tr.2 timestamp ∧ Event.Shows after e (tr.2.event timestamp))
        (nameable c.recorded) events := by
  obtain ⟨hfault, hdated⟩ := Script.tells_ofTracks h
  obtain ⟨hshows, hsame, -⟩ := @EventStream.drain_follows pool (.ofCapture c domain) trivial
  rw [EventStream.ofCapture, EventStream.script] at hshows hsame
  refine ⟨((EventStream.ofCapture c domain).drain pool).events,
    ((EventStream.ofCapture c domain).drain pool).pool,
    congrArg (Drained.mk _ · _) (hsame.trans hfault), ?_⟩
  -- The script lies between the records and the events.
  refine (forall₂_comp hdated hshows.flip).imp ?_
  rintro tr e ⟨_, ⟨timestamp, hdates, rfl⟩, hshown⟩
  exact ⟨timestamp, hdates, hshown⟩

/-- The stream of a capture whose numbers fit has no fault, and an event for each record. -/
theorem exists_drain_eq_of_encodable (h : ∀ t ∈ c.tracks, t.Encodable) (domain : TimeDomain)
    (pool : StringPool) :
    ∃ events after, (EventStream.ofCapture c domain).drain pool = ⟨events, none, after⟩ ∧
      List.Forall₂ (fun (tr : Track × Record) e => ∃ timestamp,
        tr.1.Dates domain tr.2 timestamp ∧ Event.Shows after e (tr.2.event timestamp))
        c.recorded events := by
  have hfault := namingFault_recorded h
  obtain ⟨events, after, hdrain, hshows⟩ :=
    exists_drain_eq (fun t ht => (h t ht).isDatable domain) pool
  rw [hfault] at hdrain
  rw [nameable_eq_self hfault] at hshows
  exact ⟨events, after, hdrain, hshows⟩

/-- The stream of a capture that was read has no fault, and an event for each record. -/
theorem exists_drain_eq_of_decode (h : decode data = .ok c) (domain : TimeDomain)
    (pool : StringPool) :
    ∃ events after, (EventStream.ofCapture c domain).drain pool = ⟨events, none, after⟩ ∧
      List.Forall₂ (fun (tr : Track × Record) e => ∃ timestamp,
        tr.1.Dates domain tr.2 timestamp ∧ Event.Shows after e (tr.2.event timestamp))
        c.recorded events :=
  exists_drain_eq_of_encodable (track_encodable_of_decode h) domain pool

/-- A capture of one record is read from some bytes. -/
theorem exists_decode_single : ∃ data, decode data = .ok (single "GPU") := by
  obtain ⟨data, hdata⟩ := Option.isSome_iff_exists.mp
    (isSome_encode?_of_encodable (by decide : (single "GPU").Encodable))
  exact ⟨data, decode_of_encode? hdata⟩

/-- **The events of a capture that was read.** Its stream has no fault, in whatever pool, and one
event for each record: with the process of the record, with its time in the domain, with handles
that lead to its texts, and with all else not set. A receiver gets these events in this order; their
number is counted and noted in the log, and the pool becomes the same one. -/
theorem exists_drain_of_decode (h : decode data = .ok c) (domain : TimeDomain) (pool : StringPool) :
    ∃ events after, (EventStream.ofCapture c domain).drain pool = ⟨events, none, after⟩ ∧
      events.length = c.recordCount ∧
      List.Forall₂ (fun (tr : Track × Record) e => ∃ timestamp,
        tr.1.Dates domain tr.2 timestamp ∧ Event.Shows after e (tr.2.event timestamp))
        c.recorded events ∧
      ∀ (σ : Type) (receive : σ → Event → σ) (state : σ) (source : String),
        let delivery := (EventStream.ofCapture c domain).deliver receive state pool
        delivery = ⟨events.foldl receive state, c.recordCount, none, after⟩ ∧
          delivery.log source = [adaptedLog source c.recordCount] := by
  obtain ⟨events, after, hdrain, hshows⟩ := exists_drain_eq_of_decode h domain pool
  have hlength : events.length = c.recordCount := by rw [← hshows.length_eq, length_recorded]
  refine ⟨events, after, hdrain, hlength, hshows, fun σ receive state source => ?_⟩
  have hdelivery := EventStream.deliver_eq_drain receive state (.ofCapture c domain) pool
  rw [hdrain, hlength] at hdelivery
  refine ⟨hdelivery, ?_⟩
  rw [hdelivery]
  rfl

/-- Two devices whose clocks differ, with a record each at the same reading of the device. -/
def twoClocks : Capture :=
  ⟨[⟨⟨.zero, "A", 0, 100, 0, 120, 10⟩, [⟨1, 1, 7, 5, 2⟩]⟩,
    ⟨⟨.zero, "B", 0, 1000, 0, 1005, 10⟩, [⟨1, 9, 8, 5, 3⟩]⟩]⟩

/-- Each record becomes an event at the time that the clocks of its own device give it, with texts
behind its handles. -/
theorem exists_drain_of_decode_twoClocks : ∃ data events after, decode data = .ok twoClocks ∧
    (EventStream.ofCapture twoClocks .processor).drain .empty = ⟨events, none, after⟩ ∧
      events.map (EventOf.map after.lookup?) =
        [.ofTexts 7 110 (some "(event_name:ContextSwitchedIn)") (some "nvcontext")
            (some "(event_comm)") (some "(event_usercomm)"),
          .ofTexts 8 1003 (some "(event_name:Unrecognized(9))") (some "nvcontext")
            (some "(event_comm)") (some "(event_usercomm)")] := by
  obtain ⟨data, hdata⟩ := Option.isSome_iff_exists.mp
    (isSome_encode?_of_encodable (by decide : twoClocks.Encodable))
  have hread : decode data = .ok twoClocks := decode_of_encode? hdata
  obtain ⟨events, after, hdrain, -, hshows, -⟩ := exists_drain_of_decode hread .processor .empty
  refine ⟨data, events, after, hread, hdrain, ?_⟩
  obtain ⟨first, _, ⟨time, ⟨clock, hclock, htime⟩, hfirst⟩, hrest, rfl⟩ :=
    List.forall₂_cons_left_iff.mp hshows
  obtain ⟨second, _, ⟨time', ⟨clock', hclock', htime'⟩, hsecond⟩, hnone, rfl⟩ :=
    List.forall₂_cons_left_iff.mp hrest
  obtain rfl := List.forall₂_nil_left_iff.mp hnone
  have hconverted : (Device.clockMap ⟨.zero, "A", 0, 100, 0, 120, 10⟩ >>= fun clock =>
      clock.convert 5) = .ok 110 := by decide +kernel
  have hconverted' : (Device.clockMap ⟨.zero, "B", 0, 1000, 0, 1005, 10⟩ >>= fun clock =>
      clock.convert 5) = .ok 1003 := by decide +kernel
  obtain rfl : time = 110 :=
    Except.ok.inj ((bind_eq_ok_iff.mpr ⟨clock, hclock, htime⟩).symm.trans hconverted)
  obtain rfl : time' = 1003 :=
    Except.ok.inj ((bind_eq_ok_iff.mpr ⟨clock', hclock', htime'⟩).symm.trans hconverted')
  rw [List.map_cons, List.map_singleton, hfirst.map_lookup?, hsecond.map_lookup?]
  decide

end Capture

end SwitchTrace
