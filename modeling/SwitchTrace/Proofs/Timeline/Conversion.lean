import SwitchTrace.Proofs.Timeline.Adaptation

/-!
# Conversion before and during the stream

A capture can be taken to processor time as a whole, before its events are made, or record by record
while its stream makes them. Both ways lead to the same events. The stream of the capture that was
converted keeps device time, which is processor time already, and makes the same clock maps without
use for them. The invariant is that of two streams which are at the same record, one of them with
its records converted (`EventStream.Converted`): they give the same answers and put the same strings
into the pool.

## Main definitions

* `EventStream.Converted` — a stream, and the one of the converted capture at the same record.

## Main results

* `EventStream.Converted.next` — one answer of both streams.
* `EventStream.Converted.drain_eq` — all events of both.
* `Capture.exists_toProcessorTime_drain_eq` — the events of a capture and of the converted one.
-/

namespace SwitchTrace

/-! ### Converted captures -/

/-- A record that is converted keeps everything but its time. -/
theorem Record.convert_eq_ok_iff {clock : ClockMap} {r r' : Record} :
    r.convert clock = .ok r' ↔
      ∃ timestamp, clock.convert r.timestamp = .ok timestamp ∧ r' = { r with timestamp } := by
  simp only [convert, bind_eq_ok_iff, pure_eq_ok_iff]

/-- A track that is converted keeps its device, and its records are converted one by one. -/
theorem Track.toProcessorTime_eq_ok_iff {t t' : Track} :
    t.toProcessorTime = .ok t' ↔ ∃ clock, t.device.clockMap = .ok clock ∧ t'.device = t.device ∧
      List.Forall₂ (fun r r' => Record.convert clock r = .ok r') t.records t'.records := by
  simp only [toProcessorTime, bind_eq_ok_iff, pure_eq_ok_iff, mapM_eq_ok_iff]
  constructor
  · rintro ⟨clock, hclock, records, hrecords, rfl⟩
    exact ⟨clock, hclock, rfl, hrecords⟩
  · rintro ⟨clock, hclock, hdevice, hrecords⟩
    exact ⟨clock, hclock, t'.records, hrecords, by rw [← hdevice]⟩

/-- The tracks of a capture are converted one by one. -/
theorem Capture.toProcessorTime_eq_ok_iff {c c' : Capture} :
    c.toProcessorTime = .ok c' ↔
      List.Forall₂ (fun t t' => Track.toProcessorTime t = .ok t') c.tracks c'.tracks := by
  simp only [toProcessorTime, bind_eq_ok_iff, pure_eq_ok_iff, mapM_eq_ok_iff]
  constructor
  · rintro ⟨tracks, htracks, rfl⟩
    exact htracks
  · intro h
    exact ⟨c'.tracks, h, rfl⟩

/-! ### Streams -/

namespace EventStream

/-- The second stream is at the same record as the first one, its records being converted. -/
inductive Converted : EventStream → EventStream → Prop
  | fresh {tracks tracks' : List Track}
      (htracks : List.Forall₂ (fun t t' => Track.toProcessorTime t = .ok t') tracks tracks') :
      Converted (.fresh .processor tracks) (.fresh .device tracks')
  | running {common : CommonHandles} {clock : ClockMap} {records records' : List Record}
      {tracks tracks' : List Track}
      (hrecords : List.Forall₂ (fun r r' => Record.convert clock r = .ok r') records records')
      (htracks : List.Forall₂ (fun t t' => Track.toProcessorTime t = .ok t') tracks tracks') :
      Converted (.running .processor common clock records tracks)
        (.running .device common clock records' tracks')
  | finished : Converted .finished .finished

/-- Two steps give the same answer and the same pool, and leave streams at the same record. -/
structure StepConverted (step step' : StreamStep) : Prop where
  answer_eq : step.answer = step'.answer
  pool_eq : step.pool = step'.pool
  converted : Converted step.stream step'.stream

variable {common : CommonHandles} {clock : ClockMap} {records records' : List Record}
  {tracks tracks' : List Track}

/-- The time that one stream converts is there already for the other one. -/
theorem emit_converted {r r' : Record} (hr : r.convert clock = .ok r')
    (hrecords : List.Forall₂ (fun r r' => Record.convert clock r = .ok r') records records')
    (htracks : List.Forall₂ (fun t t' => Track.toProcessorTime t = .ok t') tracks tracks')
    (pool : StringPool) :
    StepConverted (emit .processor common clock r records tracks pool)
      (emit .device common clock r' records' tracks' pool) := by
  obtain ⟨timestamp, htimestamp, rfl⟩ := Record.convert_eq_ok_iff.mp hr
  have htime : timeOf .processor clock r = .ok timestamp := htimestamp
  have hsame : eventTime .processor clock r = eventTime .device clock { r with timestamp } := by
    rw [eventTime, eventTime, htime]
    rfl
  unfold emit
  rw [hsame]
  cases htime' : eventTime .device clock { r with timestamp } with
  | error f => exact ⟨rfl, rfl, .finished⟩
  | ok time => exact ⟨rfl, rfl, .running hrecords htracks⟩

/-- Both streams come to the next device with records at once, as they have the same devices. -/
theorem enter_converted
    (htracks : List.Forall₂ (fun t t' => Track.toProcessorTime t = .ok t') tracks tracks')
    (pool : StringPool) :
    StepConverted (enter .processor common tracks pool) (enter .device common tracks' pool) := by
  induction htracks with
  | nil => exact ⟨rfl, rfl, .finished⟩
  | @cons t t' tracks tracks' ht htracks ih =>
    obtain ⟨clock, hclock, hdevice, hrecords⟩ := Track.toProcessorTime_eq_ok_iff.mp ht
    rw [enter, enter, hdevice, hclock]
    dsimp only
    generalize t.records = records at hrecords
    generalize t'.records = records' at hrecords
    cases hrecords with
    | nil => exact ih
    | cons hr hrecords => exact emit_converted hr hrecords htracks pool

/-- **Both streams give the same answer**, and are at the same record again. -/
theorem Converted.next {s s' : EventStream} (h : Converted s s') (pool : StringPool) :
    StepConverted (s.next pool) (s'.next pool) := by
  cases h with
  | fresh htracks => exact enter_converted htracks _
  | running hrecords htracks =>
    cases hrecords with
    | nil => exact enter_converted htracks pool
    | cons hr hrecords => exact emit_converted hr hrecords htracks pool
  | finished => exact ⟨rfl, rfl, .finished⟩

/-- **Both streams give the same events**, with the same handles, and leave the same pool behind. -/
theorem Converted.drain_eq {s s' : EventStream} (h : Converted s s') (pool : StringPool) :
    s.drain pool = s'.drain pool := by
  induction s, pool using drain.induct generalizing s' with
  | case1 s pool e hanswer ih =>
    obtain ⟨hsame, hpool, hconverted⟩ := h.next pool
    have hanswer' : (s'.next pool).answer = .event e := hsame.symm.trans hanswer
    rw [drain_of_event hanswer, drain_of_event hanswer', ih hconverted, hpool]
  | case2 s pool hanswer =>
    obtain ⟨hsame, hpool, -⟩ := h.next pool
    rw [drain_of_ended hanswer, drain_of_ended (hsame.symm.trans hanswer), hpool]
  | case3 s pool f hanswer =>
    obtain ⟨hsame, hpool, -⟩ := h.next pool
    rw [drain_of_fault hanswer, drain_of_fault (hsame.symm.trans hanswer), hpool]

end EventStream

/-! ### Captures -/

/-- A track whose records all have a time in the domain of the processor can be converted. -/
theorem Track.IsDatable.exists_toProcessorTime {t : Track} (h : t.IsDatable .processor) :
    ∃ t', t.toProcessorTime = .ok t' := by
  obtain ⟨clock, hclock, htimes⟩ := h
  obtain ⟨records, hrecords⟩ := exists_forall₂_of_forall fun r hr =>
    let ⟨timestamp, htimestamp⟩ := htimes r hr
    (⟨_, Record.convert_eq_ok_iff.mpr ⟨timestamp, htimestamp, rfl⟩⟩ :
      ∃ r', r.convert clock = .ok r')
  exact ⟨⟨t.device, records⟩, Track.toProcessorTime_eq_ok_iff.mpr ⟨clock, hclock, rfl, hrecords⟩⟩

/-- A track that was converted is the same but for the times of its records. -/
structure Track.IsConverted (t t' : Track) : Prop where
  device_eq : t'.device = t.device
  records : List.Forall₂ (fun r r' => ∃ timestamp, t.Dates .processor r timestamp ∧
    r' = { r with timestamp }) t.records t'.records

theorem Track.isConverted_of_toProcessorTime {t t' : Track} (h : t.toProcessorTime = .ok t') :
    t.IsConverted t' := by
  obtain ⟨clock, hclock, hdevice, hrecords⟩ := toProcessorTime_eq_ok_iff.mp h
  refine ⟨hdevice, hrecords.imp fun r r' hr => ?_⟩
  obtain ⟨timestamp, htimestamp, rfl⟩ := Record.convert_eq_ok_iff.mp hr
  exact ⟨timestamp, ⟨clock, hclock, htimestamp⟩, rfl⟩

namespace Capture

/-- **The events of a capture in processor time are those of the converted capture** as its records
stand. A capture whose numbers fit can be converted. It keeps its devices, the records of each of
them in their order, and everything of a record but its time, which is the one that the clock map of
its own device gives. In whatever pool, both streams make the same events with the same handles, and
leave the same pool. -/
theorem exists_toProcessorTime_drain_eq {c : Capture} (h : ∀ t ∈ c.tracks, t.Encodable) :
    ∃ c', c.toProcessorTime = .ok c' ∧
      List.Forall₂ Track.IsConverted c.tracks c'.tracks ∧
      ∀ pool, (EventStream.ofCapture c .processor).drain pool =
          (EventStream.ofCapture c' .device).drain pool ∧
        ((EventStream.ofCapture c .processor).drain pool).fault = none := by
  obtain ⟨tracks, htracks⟩ := exists_forall₂_of_forall fun t ht =>
    ((h t ht).isDatable .processor).exists_toProcessorTime
  refine ⟨⟨tracks⟩, toProcessorTime_eq_ok_iff.mpr htracks,
    htracks.imp fun _ _ => Track.isConverted_of_toProcessorTime, fun pool => ?_⟩
  refine ⟨EventStream.Converted.drain_eq (.fresh htracks) pool, ?_⟩
  obtain ⟨events, after, hdrain, -⟩ := exists_drain_eq_of_encodable h .processor pool
  rw [hdrain]

/-- Three devices of which the second has no records. The clocks of the other two differ, but their
records were taken at the same reading of the device. -/
def threeClocks (first last : Int) : Capture :=
  ⟨[⟨⟨.zero, "A", 0, 100, 0, 120, 10⟩, [⟨1, 1, 7, first, 2⟩]⟩,
    ⟨⟨.zero, "B", 0, 5, 0, 6, 1⟩, []⟩,
    ⟨⟨.zero, "C", 0, 1000, 0, 1005, 10⟩, [⟨1, 2, 8, last, 3⟩]⟩]⟩

/-- The reading is taken to the processor by the clock map of its own device, half a reading going
to the even one. -/
theorem exists_toProcessorTime_drain_eq_threeClocks :
    (threeClocks 5 5).toProcessorTime = .ok (threeClocks 110 1003) ∧
      ∀ pool, (EventStream.ofCapture (threeClocks 5 5) .processor).drain pool =
        (EventStream.ofCapture (threeClocks 110 1003) .device).drain pool := by
  have hfits : ∀ t ∈ (threeClocks 5 5).tracks, t.Encodable := by
    simp only [threeClocks, List.forall_mem_cons, List.not_mem_nil, false_implies, implies_true,
      and_true, Track.Encodable]
    decide
  have hconvert : (threeClocks 5 5).toProcessorTime = .ok (threeClocks 110 1003) := by
    decide +kernel
  obtain ⟨c', hc', -, hdrain⟩ := exists_toProcessorTime_drain_eq hfits
  obtain rfl : threeClocks 110 1003 = c' := Except.ok.inj (hconvert.symm.trans hc')
  exact ⟨hconvert, fun pool => (hdrain pool).1⟩

end Capture

end SwitchTrace
