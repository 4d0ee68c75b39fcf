import SwitchTrace.Export.TraceEvents
import SwitchTrace.Proofs.Export.JsonText
import SwitchTrace.Proofs.Numeric.Overflow
import SwitchTrace.Proofs.Timeline.Adaptation
import SwitchTrace.Settings.Check

/-!
# Documents of captures that were read

The distances of the events of a capture that was read from its origin are below `2 ^ 130`, so that
dividing them by a number that is not zero or less has always an answer, and there is a document
with one event for each record. Its text is one for every reader of JSON just if all its times are
finite. Settings without complaints make sure of the former, but not of the latter: the divisor may
be the value that is not a number, or so small that a quotient is beyond the format.

## Main definitions

* `InstantEvent.Shows` — the exported event of a record.

## Main results

* `Capture.natAbs_sub_origin_le` — the distances from the origin.
* `TraceDocument.exists_ofCapture` — the document of a capture that was read.
* `TraceDocument.render_eq_ok_iff` — the documents that have a text.
* `TraceDocument.isDocument_render_iff` — the documents whose texts are ones of JSON.
* `Settings.exists_document` — both for settings without complaints.
-/

namespace SwitchTrace

/-! ### Distances from the origin -/

/-- A time of an event in any domain is not far from the readings of 64 bits. -/
theorem Track.Dates.natAbs_le {t : Track} {domain : TimeDomain} {r : Record} {timestamp : Int}
    (h : t.Dates domain r timestamp) (ht : t.device.Encodable) (hr : r.Encodable) :
    timestamp.natAbs ≤ power 2 129 := by
  have hsmall : power 2 128 + 9223372036854775808 ≤ power 2 129 := by decide
  have hreading := IntField.holds_i64_iff.mp hr.2.2.2.1
  cases domain with
  | device =>
    obtain rfl : timestamp = r.timestamp := h
    omega
  | processor =>
    obtain ⟨clock, hclock, hconvert⟩ := h
    obtain ⟨clock', hclock', hdst, hsrc, hscale⟩ := t.device.exists_clockMap ht
    obtain rfl : clock = clock' := Except.ok.inj (hclock.symm.trans hclock')
    obtain ⟨n, hn, hnle⟩ := ClockMap.exists_convert hscale (hsrc ▸ ht.2.2.2.2) hr.2.2.2.1
    obtain rfl : timestamp = clock.dst + n := Except.ok.inj (hconvert.symm.trans hn)
    have hend := IntField.holds_i64_iff.mp (hdst ▸ ht.2.2.2.1 : IntField.i64.Holds clock.dst)
    omega

namespace Capture

variable {data : Bytes} {c : Capture}

/-- The origin of a capture whose numbers fit is a reading of 64 bits. -/
theorem holds_origin (h : ∀ t ∈ c.tracks, t.Encodable) (domain : TimeDomain) :
    IntField.i64.Holds (c.origin domain) := by
  rw [origin]
  cases hmin : (c.devices.map domain.start).min? with
  | none => decide
  | some start =>
    obtain ⟨d, hd, rfl⟩ := List.mem_map.mp (List.min?_mem hmin)
    obtain ⟨t, ht, rfl⟩ := List.mem_map.mp hd
    have hdevice := (h t ht).1
    cases domain with
    | processor => exact hdevice.2.1
    | device => exact hdevice.2.2.1

theorem encodable_of_mem_recorded (h : ∀ t ∈ c.tracks, t.Encodable) {tr : Track × Record}
    (htr : tr ∈ c.recorded) : tr.1.device.Encodable ∧ tr.2.Encodable := by
  obtain ⟨ht, hr⟩ := mem_of_mem_recorded htr
  exact ⟨(h tr.1 ht).1, (h tr.1 ht).2 tr.2 hr⟩

/-- **The distances of events from the origin** are below `2 ^ 130`. -/
theorem natAbs_sub_origin_le (h : ∀ t ∈ c.tracks, t.Encodable) {domain : TimeDomain}
    {tr : Track × Record} (htr : tr ∈ c.recorded) {timestamp : Int}
    (hdates : tr.1.Dates domain tr.2 timestamp) :
    (timestamp - c.origin domain).natAbs ≤ power 2 130 := by
  have hsmall : power 2 129 + 9223372036854775808 ≤ power 2 130 := by decide
  obtain ⟨ht, hr⟩ := encodable_of_mem_recorded h htr
  have htime := hdates.natAbs_le ht hr
  have horigin := IntField.holds_i64_iff.mp (holds_origin h domain)
  omega

end Capture

/-! ### Exported events -/

/-- The exported event shows a record at a distance from the origin: it has its texts and its
process, and the quotient of the distance, which is finite just if it fits. -/
structure InstantEvent.Shows (e : InstantEvent) (r : Record) (distance : Int) (divisor : Number) :
    Prop where
  name : e.name = Event.nameText r.kind
  category : e.category = Event.systemText
  process : e.process = r.process
  timestamp : divisor.divide distance = .ok e.timestamp
  isFinite_iff : e.timestamp.isFinite = true ↔ divisor.QuotientFits distance

theorem StringPool.Holds.get {pool : StringPool} {handle : Int} {s : String}
    (h : pool.Holds handle s) : pool.get handle = .ok s := by
  rw [StringPool.get, h.2]

/-- **An event is exported** if its handles lead to texts and its distance can be divided. -/
theorem Event.export_eq_ok_iff {pool : StringPool} {origin : Int} {divisor : Value} {d : Number}
    {e : Event} {exported : InstantEvent} (hd : divisor.number? = some d) :
    e.export pool origin divisor = .ok exported ↔ ∃ name category x,
      pool.get e.name = .ok name ∧ pool.get e.system = .ok category ∧
        d.divide (e.timestamp - origin) = .ok x ∧ exported = ⟨name, category, x, e.process⟩ := by
  simp only [Event.export, hd, bind_eq_ok_iff, mapError_eq_ok_iff, pure_eq_ok_iff,
    exists_and_left]

/-- An event of which the handles lead to texts is exported if its distance can be divided. -/
theorem Event.Shows.export {pool : StringPool} {e : Event} {shown : EventOf String} {origin : Int}
    {divisor : Value} {d : Number} {x : Binary64} (h : e.Shows pool shown)
    (hd : divisor.number? = some d) (hx : d.divide (shown.timestamp - origin) = .ok x) :
    e.export pool origin divisor = .ok ⟨shown.name, shown.system, x, shown.process⟩ := by
  have hrest := h.rest
  simp only [EventOf.map, EventOf.mk.injEq] at hrest
  obtain ⟨hprocess, htimestamp, -⟩ := hrest
  refine (Event.export_eq_ok_iff hd).mpr ⟨_, _, x, h.name.get, h.system.get, ?_, ?_⟩
  · rw [htimestamp, hx]
  · rw [hprocess]

/-- The event of a record at a time is exported, with the quotient of its distance. -/
theorem Record.exists_export {pool : StringPool} {e : Event} {r : Record} {timestamp origin : Int}
    {divisor : Value} {d : Number} (h : e.Shows pool (r.event timestamp))
    (hd : divisor.number? = some d) (hpos : d.isNonpositive = false)
    (hdistance : (timestamp - origin).natAbs ≤ power 2 130) :
    ∃ exported, e.export pool origin divisor = .ok exported ∧
      exported.Shows r (timestamp - origin) d := by
  obtain ⟨x, hx, hfinite⟩ := Number.exists_divide hpos (by decide : 130 < 1024) hdistance
  exact ⟨_, h.export hd hx, rfl, rfl, rfl, hx, hfinite⟩

/-- The time of an event is the only number in it that may not be finite. -/
theorem InstantEvent.isFinite_toJson (e : InstantEvent) :
    e.toJson.isFinite = e.timestamp.isFinite := by
  simp [InstantEvent.toJson, JsonValue.isFinite, JsonValue.membersFinite]

/-! ### Documents -/

namespace TraceDocument

variable {data : Bytes} {c : Capture}

/-- A number that is not zero or less serves as a divisor. -/
theorem checkDivisor_eq_ok {divisor : Value} {d : Number} (hd : divisor.number? = some d)
    (hpos : d.isNonpositive = false) : checkDivisor divisor = .ok () := by
  unfold checkDivisor
  rw [hd]
  simp [hpos]

/-- Events that are exported one by one make a document. -/
theorem ofEvents_of_forall₂ {info : TimelineInfo} {events : List Event} {pool : StringPool}
    {divisor : Value} {d : Number} (hd : divisor.number? = some d)
    (hpos : d.isNonpositive = false) {exported : List InstantEvent}
    (h : List.Forall₂ (fun e e' => Event.export pool info.origin divisor e = .ok e')
      events exported) :
    ofEvents info events pool divisor = .ok ⟨exported, info.source, info.label, info.origin⟩ := by
  unfold ofEvents
  rw [checkDivisor_eq_ok hd hpos]
  dsimp only [bind, Except.bind]
  rw [mapM_eq_ok_iff.mpr h]
  rfl

/-- **The document of a capture whose numbers fit.** A number that is not zero or less gives one,
with one event for each record. -/
theorem exists_ofCapture_of_encodable (h : ∀ t ∈ c.tracks, t.Encodable) (source : String)
    (domain : TimeDomain) (pool : StringPool) {divisor : Value} {d : Number}
    (hd : divisor.number? = some d) (hpos : d.isNonpositive = false) :
    ∃ events, ofCapture c source domain pool divisor =
        .ok ⟨events, source, c.deviceLabel, c.origin domain⟩ ∧
      List.Forall₂ (fun (tr : Track × Record) (e : InstantEvent) => ∃ timestamp,
        tr.1.Dates domain tr.2 timestamp ∧ e.Shows tr.2 (timestamp - c.origin domain) d)
        c.recorded events := by
  obtain ⟨events, after, hdrain, hshows⟩ :=
    Capture.exists_drain_eq_of_encodable h domain pool
  obtain ⟨exported, hexport, hrecords⟩ := exists_forall₂_of_forall₂
    (S := fun e e' => Event.export after (c.origin domain) divisor e = .ok e')
    (T := fun (tr : Track × Record) (e : InstantEvent) => ∃ timestamp,
      tr.1.Dates domain tr.2 timestamp ∧ e.Shows tr.2 (timestamp - c.origin domain) d)
    hshows fun tr htr e ⟨timestamp, hdates, he⟩ => by
      obtain ⟨e', hexport, he'⟩ := tr.2.exists_export he hd hpos
        (Capture.natAbs_sub_origin_le h htr hdates)
      exact ⟨e', hexport, timestamp, hdates, he'⟩
  refine ⟨exported, ?_, hrecords⟩
  have hevents : ofEvents (c.timelineInfo source domain) events after divisor =
      .ok ⟨exported, source, c.deviceLabel, c.origin domain⟩ :=
    ofEvents_of_forall₂ hd hpos hexport
  simp only [ofCapture, hdrain, ofDrained, hevents, bind, Except.bind]
  rfl

/-- The document of a capture that was read. -/
theorem exists_ofCapture (h : Capture.decode data = .ok c) (source : String) (domain : TimeDomain)
    (pool : StringPool) {divisor : Value} {d : Number} (hd : divisor.number? = some d)
    (hpos : d.isNonpositive = false) :
    ∃ events, ofCapture c source domain pool divisor =
        .ok ⟨events, source, c.deviceLabel, c.origin domain⟩ ∧
      List.Forall₂ (fun (tr : Track × Record) (e : InstantEvent) => ∃ timestamp,
        tr.1.Dates domain tr.2 timestamp ∧ e.Shows tr.2 (timestamp - c.origin domain) d)
        c.recorded events :=
  exists_ofCapture_of_encodable (Capture.track_encodable_of_decode h) source domain pool hd hpos

/-! ### Texts of documents -/

theorem areFinite_map_toJson (es : List InstantEvent) :
    JsonValue.areFinite (es.map InstantEvent.toJson) = es.all fun e => e.timestamp.isFinite := by
  induction es with
  | nil => rfl
  | cons e es ih =>
    rw [List.map_cons, JsonValue.areFinite, e.isFinite_toJson, ih, List.all_cons]

/-- All numbers of a document are finite just if its times are. -/
theorem isFinite_toJson (d : TraceDocument) :
    d.toJson.isFinite = d.events.all fun e => e.timestamp.isFinite := by
  simp [toJson, JsonValue.isFinite, JsonValue.membersFinite, areFinite_map_toJson]

/-- A document has a text if there is a layout and all its numbers can be written. -/
theorem render_eq_ok_iff {d : TraceDocument} {indent : Value} {room : Nat} {text : String} :
    d.render indent room = .ok text ↔ ∃ layout, layoutOf room indent = .ok layout ∧
      d.holdsLong = false ∧ text = d.toJson.render layout := by
  rw [render, bind_eq_ok_iff]
  cases d.holdsLong <;> simp [pure_eq_ok_iff]

/-- The numbers of the document of a capture whose numbers fit can be written. -/
theorem holdsLong_eq_false (h : ∀ t ∈ c.tracks, t.Encodable) (source label : String)
    {domain : TimeDomain} {divisor : Number} {events : List InstantEvent}
    (hevents : List.Forall₂ (fun (tr : Track × Record) (e : InstantEvent) => ∃ timestamp,
      tr.1.Dates domain tr.2 timestamp ∧ e.Shows tr.2 (timestamp - c.origin domain) divisor)
      c.recorded events) :
    (⟨events, source, label, c.origin domain⟩ : TraceDocument).holdsLong = false := by
  rw [holdsLong, Bool.or_eq_false_iff, List.any_eq_false]
  refine ⟨(Capture.holds_origin h domain).isLong_eq_false (by decide), fun e he => ?_⟩
  obtain ⟨tr, htr, _, -, hshows⟩ := exists_of_mem_forall₂ hevents e he
  rw [hshows.process, Bool.not_eq_true]
  exact (Capture.encodable_of_mem_recorded h htr).2.2.2.1.isLong_eq_false (by decide)

/-- **The documents whose texts are ones of JSON** are those of which all times are finite, in a
layout of white space. -/
theorem isDocument_render_iff {d : TraceDocument} {indent : Value} {room : Nat} {text : String}
    (hlayout : ∀ layout, layoutOf room indent = .ok layout → layout.IsBlank)
    (h : d.render indent room = .ok text) :
    Json.IsDocument text.toList ↔ ∀ e ∈ d.events, e.timestamp.isFinite = true := by
  obtain ⟨layout, hindent, -, rfl⟩ := render_eq_ok_iff.mp h
  rw [JsonValue.isDocument_render_iff (hlayout layout hindent), isFinite_toJson,
    List.all_eq_true]

end TraceDocument

/-! ### Settings without complaints -/

namespace Settings

variable {s : Settings}

/-- Settings that are found to make sense have no complaints. -/
theorem complaints_eq_nil_of_check (h : s.check = .ok []) : s.complaints = [] := by
  unfold check at h
  split at h
  · cases h
  · exact Except.ok.inj h

theorem ok_of_complaints_eq_nil (h : s.complaints = []) :
    s.timeDivisorOk = true ∧ s.indentOk = true := by
  simp only [complaints, List.append_eq_nil_iff, ite_eq_left_iff, List.cons_ne_nil, imp_false,
    not_not] at h
  exact ⟨h.1.1.2, h.1.2⟩

theorem exists_number_of_timeDivisorOk (h : s.timeDivisorOk = true) :
    ∃ d, s.exporting.timeDivisor.number? = some d ∧ d.isNonpositive = false := by
  unfold timeDivisorOk at h
  split at h
  · next d hd => exact ⟨d, hd, by simpa using h⟩
  · cases h

/-- An indentation that is accepted is nothing or a number of blanks. -/
theorem isBlank_of_indentOk (h : s.indentOk = true) {room : Nat} (layout : JsonLayout)
    (hlayout : TraceDocument.layoutOf room s.exporting.indent = .ok layout) : layout.IsBlank := by
  unfold indentOk at h
  unfold TraceDocument.layoutOf at hlayout
  split at hlayout
  · obtain rfl := Except.ok.inj hlayout
    trivial
  · next hindent =>
    -- A text is no number.
    rw [hindent] at h
    cases h
  · split at hlayout
    · cases hlayout
    · split at hlayout
      · cases hlayout
      · split at hlayout
        · cases hlayout
        · obtain rfl := Except.ok.inj hlayout
          intro b hb
          rw [String.toList_ofList] at hb
          rw [(List.mem_replicate.mp hb).2]
          decide

/-- If the indentation is a number, there is room for as many blanks, and a text may have as
many. -/
def IndentFits (s : Settings) (room : Nat) : Prop :=
  ∀ n, s.exporting.indent.wholeNumber? = some n → n ≤ room ∧ n < 2 ^ 63

/-- An indentation that is accepted and fits has a layout. -/
theorem exists_layoutOf (h : s.indentOk = true) {room : Nat} (hfits : s.IndentFits room) :
    ∃ layout, TraceDocument.layoutOf room s.exporting.indent = .ok layout := by
  unfold indentOk at h
  unfold TraceDocument.layoutOf
  split at h
  · next hindent =>
    rw [hindent]
    exact ⟨_, rfl⟩
  · obtain ⟨n, hn, hnonneg⟩ := (Option.any_eq_true _ _).mp h
    obtain ⟨hroom, hlength⟩ := hfits n hn
    have hholds : IntField.i64.Holds n := by
      have hlow : 0 ≤ n := of_decide_eq_true hnonneg
      rw [IntField.holds_i64_iff]
      omega
    split
    · exact ⟨_, rfl⟩
    · exact ⟨_, rfl⟩
    · rw [hn]
      dsimp only
      rw [if_neg (not_not.mpr hholds), if_neg (Int.not_lt.mpr hroom)]
      exact ⟨_, rfl⟩

/-- **Settings without complaints export every capture that was read.** There is a document with one
event for each record, in whatever domain; the time of an event is the quotient of its distance from
the origin, and is finite just if the quotient fits. The document has a text if the indentation fits
the room there is, and the text is one of JSON just if all times are finite. -/
theorem exists_document {data : Bytes} {c : Capture} (hs : s.complaints = [])
    (h : Capture.decode data = .ok c) (source : String) (domain : TimeDomain) (pool : StringPool) :
    ∃ d events, let document : TraceDocument := ⟨events, source, c.deviceLabel, c.origin domain⟩
      s.exporting.timeDivisor.number? = some d ∧
      TraceDocument.ofCapture c source domain pool s.exporting.timeDivisor = .ok document ∧
      List.Forall₂ (fun (tr : Track × Record) (e : InstantEvent) => ∃ timestamp,
        tr.1.Dates domain tr.2 timestamp ∧ e.Shows tr.2 (timestamp - c.origin domain) d)
        c.recorded events ∧
      (∀ room, s.IndentFits room → ∃ text, document.render s.exporting.indent room = .ok text) ∧
      ∀ room text, document.render s.exporting.indent room = .ok text →
        (Json.IsDocument text.toList ↔ ∀ e ∈ events, e.timestamp.isFinite = true) := by
  obtain ⟨hdivisor, hindent⟩ := ok_of_complaints_eq_nil hs
  obtain ⟨d, hd, hpos⟩ := exists_number_of_timeDivisorOk hdivisor
  obtain ⟨events, hdocument, hevents⟩ :=
    TraceDocument.exists_ofCapture h source domain pool hd hpos
  refine ⟨d, events, hd, hdocument, hevents, fun room hfits => ?_, fun room text htext =>
    TraceDocument.isDocument_render_iff (isBlank_of_indentOk hindent) htext⟩
  obtain ⟨layout, hlayout⟩ := exists_layoutOf hindent hfits
  have hnumbers := TraceDocument.holdsLong_eq_false (Capture.track_encodable_of_decode h) source
    c.deviceLabel hevents
  exact ⟨_, TraceDocument.render_eq_ok_iff.mpr ⟨layout, hlayout, hnumbers, rfl⟩⟩

/-- The default settings divide by one, and the text of the document of one record is one of
JSON. -/
theorem exists_document_default : ∃ data document text, ({} : Settings).complaints = [] ∧
    Capture.decode data = .ok (Capture.single "GPU") ∧
    TraceDocument.ofCapture (Capture.single "GPU") "capture" .device .empty
      ({} : Settings).exporting.timeDivisor = .ok document ∧
    document.render ({} : Settings).exporting.indent = .ok text ∧ Json.IsDocument text.toList := by
  have hsettings : ({} : Settings).complaints = [] := by decide +kernel
  obtain ⟨data, hread⟩ := Capture.exists_decode_single
  obtain ⟨d, events, hd, hdocument, hevents, hrender, hjson⟩ :=
    exists_document hsettings hread "capture" .device .empty
  obtain ⟨text, htext⟩ := hrender _ nofun
  obtain rfl : .float .one = d := Option.some.inj hd
  refine ⟨data, _, text, hsettings, hread, hdocument, htext, (hjson _ text htext).mpr ?_⟩
  obtain ⟨e, rest, ⟨_, rfl, he⟩, hrest, rfl⟩ := List.forall₂_cons_left_iff.mp hevents
  obtain rfl := List.forall₂_nil_left_iff.mp hrest
  intro e' he'
  rw [List.mem_singleton.mp he', he.isFinite_iff]
  exact Number.quotientFits_of_isAtLeastOne ⟨false, .one, rfl, Nat.le_refl _⟩
    (by decide +kernel) (by decide : 130 < 1024) (by decide)

/-- The default settings with a divisor that is not a number. -/
def nanDivisor : Settings := { exporting := { timeDivisor := .float .nan } }

/-- A divisor that is not a number gives no cause for complaint, but no text of JSON. -/
theorem exists_not_isDocument_nanDivisor : ∃ data document text, nanDivisor.complaints = [] ∧
    Capture.decode data = .ok (Capture.single "GPU") ∧
    TraceDocument.ofCapture (Capture.single "GPU") "capture" .device .empty
      nanDivisor.exporting.timeDivisor = .ok document ∧
    document.render nanDivisor.exporting.indent = .ok text ∧ ¬ Json.IsDocument text.toList := by
  obtain ⟨data, hread⟩ := Capture.exists_decode_single
  obtain ⟨events, hdocument, hevents⟩ := TraceDocument.exists_ofCapture hread "capture" .device
    .empty (rfl : nanDivisor.exporting.timeDivisor.number? = some (.float .nan)) rfl
  have hnumbers := TraceDocument.holdsLong_eq_false (Capture.track_encodable_of_decode hread)
    "capture" (Capture.single "GPU").deviceLabel hevents
  have hrender := TraceDocument.render_eq_ok_iff.mpr
    ⟨.oneLine, (rfl : TraceDocument.layoutOf TraceDocument.standardRoom
      nanDivisor.exporting.indent = .ok .oneLine), hnumbers, rfl⟩
  obtain ⟨e, rest, ⟨_, rfl, he⟩, -, rfl⟩ := List.forall₂_cons_left_iff.mp hevents
  refine ⟨data, _, _, by decide, hread, hdocument, hrender, fun htext => ?_⟩
  rw [TraceDocument.isDocument_render_iff (isBlank_of_indentOk rfl) hrender] at htext
  exact he.isFinite_iff.mp (htext e List.mem_cons_self)

end Settings

end SwitchTrace
