import SwitchTrace.Proofs.Clock.Order
import SwitchTrace.Proofs.Timeline.Adaptation

/-!
# Events keep the order of their device

A stream breaks off at the first record without a time. Up to there it has one event for each
record, whatever capture it comes from, so that its events are those of the first records. Two
records of one device are dated by one clock map, and this keeps their order if both clocks of the
device run in one direction.

## Main definitions

* `Script.Covers` — a script has the events of the first of some records.

## Main results

* `Script.covers_ofTracks` — the script of any tracks covers their records.
* `EventStream.dates_of_getElem?` — an event of a stream is dated as the record at its place.
* `ClockMap.keeps_order` — clock maps are monotone, and the events of a device are in its order.
-/

namespace SwitchTrace

open Magnitude (unitsPerOne)

namespace Script

variable {domain : TimeDomain}

/-- The events of a script are those of the first of the given records. -/
def Covers (domain : TimeDomain) (s : Script) (recorded : List (Track × Record)) : Prop :=
  ∃ first, first <+: recorded ∧ List.Forall₂ (Track.Shows domain) first s.events

/-- A script that breaks off at once has the events of no records. -/
theorem covers_broken (f : ArithmeticFault) (recorded : List (Track × Record)) :
    (broken f).Covers domain recorded :=
  ⟨[], List.nil_prefix, .nil⟩

/-- The records of one device come before those of the others, up to a record without a time. -/
theorem Covers.ofRecords {t : Track} {clock : ClockMap} (hclock : t.device.clockMap = .ok clock)
    {rest : Script} {recorded : List (Track × Record)} (h : rest.Covers domain recorded)
    (records : List Record) :
    (ofRecords domain clock rest records).Covers domain (records.map (t, ·) ++ recorded) := by
  induction records with
  | nil => exact h
  | cons r records ih =>
    rw [Script.ofRecords]
    cases htime : EventStream.eventTime domain clock r with
    | error f => exact covers_broken f _
    | ok timestamp =>
      obtain ⟨first, hprefix, hevents⟩ := ih
      refine ⟨(t, r) :: first, List.prefix_cons_inj (t, r) |>.mpr hprefix, .cons ?_ hevents⟩
      exact ⟨timestamp, Track.dates_of_eventTime hclock htime, rfl⟩

/-- **The script of any tracks has the events of their first records.** -/
theorem covers_ofTracks (domain : TimeDomain) (tracks : List Track) :
    (ofTracks domain tracks).Covers domain (recordedIn tracks) := by
  induction tracks with
  | nil => exact ⟨[], List.nil_prefix, .nil⟩
  | cons t tracks ih =>
    rw [ofTracks, recordedIn_cons]
    cases hclock : t.device.clockMap with
    | error f => exact covers_broken f _
    | ok clock => exact ih.ofRecords hclock t.records

end Script

/-- The event at a place of a stream is that of the record at the same place. -/
theorem EventStream.dates_of_getElem? {c : Capture} {domain : TimeDomain} {pool : StringPool}
    {i : Nat} {tr : Track × Record} {e : Event} (htr : c.recorded[i]? = some tr)
    (he : ((ofCapture c domain).drain pool).events[i]? = some e) :
    tr.1.Dates domain tr.2 e.timestamp := by
  obtain ⟨first, hprefix, hdated⟩ := Script.covers_ofTracks domain c.tracks
  obtain ⟨hshows, -, -⟩ := @drain_follows pool (ofCapture c domain) trivial
  have hboth := List.forall₂_iff_get.mp (forall₂_comp hdated hshows.flip)
  obtain ⟨hi, rfl⟩ := List.getElem?_eq_some_iff.mp he
  have hfirst : i < first.length := hboth.1 ▸ hi
  have hsame : first[i] = tr := by
    rw [← Option.some.injEq, ← htr]
    exact List.prefix_iff_getElem?.mp hprefix i hfirst |>.symm
  obtain ⟨shown, ⟨timestamp, hdates, rfl⟩, hshown⟩ := hboth.2 i hfirst hi
  rw [List.get_eq_getElem, hsame] at hdates
  have htimestamp := hshown.timestamp_eq
  simp only [List.get_eq_getElem, hsame] at htimestamp
  rw [htimestamp]
  exact hdates

/-- **Clock maps are monotone.** A map whose scale has the value `s` keeps the order of the readings
that it converts if `s` is not negative, and reverses it if `s` is not positive. Every map of a
window has a scale with a value. The events that a stream makes of the records of one device,
therefore, are dated in the order of these records if both clocks of the device run in one
direction. -/
theorem ClockMap.keeps_order :
    (∀ (m : ClockMap) (s : Int), m.scale.units? = some s → ∀ x y a b : Int, x ≤ y →
      m.convert x = .ok a → m.convert y = .ok b → (0 ≤ s → a ≤ b) ∧ (s ≤ 0 → b ≤ a)) ∧
    (∀ (srcStart srcEnd dstStart dstEnd : Int) (m : ClockMap),
      ofWindow srcStart srcEnd dstStart dstEnd = .ok m → m.scale.isFinite = true) ∧
    ∀ (c : Capture) (pool : StringPool) (i j : Nat) (t : Track) (r r' : Record) (e e' : Event),
      c.recorded[i]? = some (t, r) → c.recorded[j]? = some (t, r') →
      ((EventStream.ofCapture c .processor).drain pool).events[i]? = some e →
      ((EventStream.ofCapture c .processor).drain pool).events[j]? = some e' →
      t.device.RunsAlike → r.timestamp ≤ r'.timestamp → e.timestamp ≤ e'.timestamp := by
  refine ⟨fun m s hs x y a b h hx hy => ?_, fun _ _ _ _ m hm => ?_, ?_⟩
  · exact ⟨fun hnonneg => convert_le hs hnonneg h hx hy,
      fun hnonpos => convert_ge hs hnonpos h hx hy⟩
  · obtain ⟨negative, magnitude, hscale, -⟩ :=
      Binary64.units?_eq_some_iff.mp (units?_of_ofWindow hm)
    rw [hscale, Binary64.isFinite]
  · intro c pool i j t r r' e e' hr hr' he he' halike hle
    obtain ⟨clock, hclock, htime⟩ := EventStream.dates_of_getElem? hr he
    obtain ⟨clock', hclock', htime'⟩ := EventStream.dates_of_getElem? hr' he'
    obtain rfl : clock = clock' := Except.ok.inj (hclock.symm.trans hclock')
    exact halike.convert_le hclock hle htime htime'

/-- Two switches of a device, the later one first. -/
def Track.reversed : Track where
  device := ⟨.zero, "GPU", 0, 100, 0, 200, 3⟩
  records := [⟨0, 1, 7, 2, 0⟩, ⟨0, 2, 7, 1, 0⟩]

/-- A scale of minus one reverses two readings. A window that ends three readings later for the
device, and a hundred for the processor, has a finite scale, and dates the second of two reversed
records before the first. -/
theorem ClockMap.keeps_order_reversed :
    (∃ a b : Int, (ClockMap.mk 0 0 (.finite true .one)).convert 1 = .ok a ∧
      (ClockMap.mk 0 0 (.finite true .one)).convert 2 = .ok b ∧ b ≤ a) ∧
    (∃ m, ofWindow 0 3 100 200 = .ok m ∧ m.scale.isFinite = true) ∧
    ∃ e e' after, (EventStream.ofCapture ⟨[Track.reversed]⟩ .processor).drain .empty =
      ⟨[e, e'], none, after⟩ ∧ e'.timestamp ≤ e.timestamp := by
  obtain ⟨hmap, hwindow, hevents⟩ := ClockMap.keeps_order
  refine ⟨⟨-1, -2, by decide +kernel, by decide +kernel, ?_⟩, ?_, ?_⟩
  · exact (hmap ⟨0, 0, .finite true .one⟩ (-unitsPerOne) rfl 1 2 (-1) (-2) (by decide)
      (by decide +kernel) (by decide +kernel)).2 (by decide +kernel)
  · obtain ⟨m, hm, -⟩ :=
      @exists_ofWindow 0 3 100 200 (by decide) (by decide) (by decide) (by decide)
    exact ⟨m, hm, hwindow 0 3 100 200 m hm⟩
  · have hfits : ∀ t ∈ [Track.reversed], t.Encodable := by
      intro t ht
      obtain rfl := List.mem_singleton.mp ht
      exact ⟨by decide, by decide⟩
    obtain ⟨events, after, hdrain, hshows⟩ :=
      Capture.exists_drain_eq_of_encodable (c := ⟨[Track.reversed]⟩) hfits .processor .empty
    obtain ⟨e, rest, -, hrest, rfl⟩ := List.forall₂_cons_left_iff.mp hshows
    obtain ⟨e', rest', -, hrest', rfl⟩ := List.forall₂_cons_left_iff.mp hrest
    obtain rfl := List.forall₂_nil_left_iff.mp hrest'
    refine ⟨e, e', after, hdrain, ?_⟩
    exact hevents ⟨[Track.reversed]⟩ .empty 1 0 Track.reversed _ _ e' e rfl rfl
      (by rw [hdrain]; rfl) (by rw [hdrain]; rfl) (by decide) (by decide)

end SwitchTrace
