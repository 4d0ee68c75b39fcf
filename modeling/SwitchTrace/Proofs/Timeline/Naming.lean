import Mathlib.Data.Set.Card
import SwitchTrace.Proofs.Text.Numeral
import SwitchTrace.Proofs.Timeline.Order
import SwitchTrace.Proofs.Timeline.Session

/-!
# Names of events

The name of an event tells the kind of its record, for any kinds: the three labels without a number
have no parenthesis, and the others have the number. No name is one of the texts that all events
have in common, because these have no colon. A pool has one handle for each string, and events keep
their handles while it grows. So the handles of two names are equal just if the kinds are, whenever
and by whichever streams the events were made.

A stream puts nothing into the pool but the three common texts and the names of its events. However
many streams are asked for however many events, the pool therefore grows by no more than these
texts and one name for each kind.

## Main definitions

* `Session.Gives` — the next event of a stream, and its record.
* `Session.GivesDuring` — an event that is given in the course of some steps, and its record.
* `Session.kindsDuring` — the kinds of the events that are given in the course of some steps.

## Main results

* `SwitchKind.label_injective`, `Event.nameText_injective` — kinds are determined by their names.
* `StringPool.size_internAll_le` — how far a pool grows.
* `Session.names_tell_kinds` — the handles of names, and the growth of the pool.
-/

namespace SwitchTrace

/-! ### Texts -/

namespace SwitchKind

variable {k l : Int}

theorem ofNumber_eq_unrecognized_iff : ofNumber k = .unrecognized ↔ k ≠ 0 ∧ k ≠ 1 ∧ k ≠ 2 := by
  unfold ofNumber
  split <;> simp_all

theorem label_of_unrecognized (h : ofNumber k = .unrecognized) :
    label k = "Unrecognized(" ++ toString k ++ ")" := by
  unfold label
  rw [h]

/-- The labels that have a number are those with a parenthesis. -/
theorem parenthesis_mem_label_iff : '(' ∈ (label k).toList ↔ ofNumber k = .unrecognized := by
  cases h : ofNumber k with
  | unrecognized =>
    have hopened : '(' ∈ "Unrecognized(".toList := by decide
    refine iff_of_true ?_ rfl
    rw [label_of_unrecognized h, String.append_assoc, String.toList_append]
    exact List.mem_append_left _ hopened
  | _ =>
    refine iff_of_false ?_ (by decide)
    unfold label
    rw [h]
    dsimp only
    decide

/-- **Kinds are determined by their labels.** -/
theorem label_injective : Function.Injective label := by
  intro k l h
  have hboth : ofNumber k = .unrecognized ↔ ofNumber l = .unrecognized := by
    rw [← parenthesis_mem_label_iff, h, parenthesis_mem_label_iff]
  by_cases hk : ofNumber k = .unrecognized
  · rw [label_of_unrecognized hk, label_of_unrecognized (hboth.mp hk)] at h
    have hnumbers := congrArg String.toList h
    rw [String.toList_append, String.toList_append, String.toList_append, String.toList_append]
      at hnumbers
    exact toString_int_injective (String.toList_injective
      (List.append_cancel_left (List.append_cancel_right hnumbers)))
  · have hl := fun hl => hk (hboth.mpr hl)
    rw [ofNumber_eq_unrecognized_iff] at hk hl
    have hcases {k : Int} (hk : ¬ (k ≠ 0 ∧ k ≠ 1 ∧ k ≠ 2)) : k = 0 ∨ k = 1 ∨ k = 2 := by omega
    revert h
    rcases hcases hk with rfl | rfl | rfl <;> rcases hcases hl with rfl | rfl | rfl <;> decide

end SwitchKind

namespace Event

/-- **Kinds are determined by the names of their events.** -/
theorem nameText_injective : Function.Injective nameText := by
  intro k l h
  have hlabels := congrArg String.toList h
  unfold nameText at hlabels
  rw [String.toList_append, String.toList_append, String.toList_append, String.toList_append]
    at hlabels
  exact SwitchKind.label_injective (String.toList_injective
    (List.append_cancel_left (List.append_cancel_right hlabels)))

/-- Every name has a colon. -/
theorem colon_mem_nameText (kind : Int) : ':' ∈ (nameText kind).toList := by
  have hcolon : ':' ∈ "(event_name:".toList := by decide
  unfold nameText
  rw [String.append_assoc, String.toList_append]
  exact List.mem_append_left _ hcolon

/-- A text without a colon is not the name of an event. -/
theorem nameText_ne (t : String) (ht : ':' ∉ t.toList) (kind : Int) : nameText kind ≠ t := by
  rintro rfl
  exact ht (colon_mem_nameText kind)

end Event

/-! ### Pools -/

namespace StringPool

variable {p : StringPool}

/-- Handles of one pool are equal just if their strings are. -/
theorem Holds.eq_iff {handle handle' : Int} {s s' : String} (h : p.Holds handle s)
    (h' : p.Holds handle' s') : handle = handle' ↔ s = s' := by
  obtain ⟨hnonneg, hlookup⟩ := h
  obtain ⟨hnonneg', hlookup'⟩ := h'
  lift handle to Nat using hnonneg
  lift handle' to Nat using hnonneg'
  rw [lookup?_natCast, ← p.lookup_eq_some_iff] at hlookup hlookup'
  rw [Int.natCast_inj]
  constructor
  · rintro rfl
    rw [p.lookup_eq_some_iff] at hlookup hlookup'
    exact Option.some.inj (hlookup.symm.trans hlookup')
  · rintro rfl
    exact Option.some.inj (hlookup.symm.trans hlookup')

theorem mem_strings_internAll_iff {l : List String} {s : String} :
    s ∈ (p.internAll l).strings ↔ s ∈ p.strings ∨ s ∈ l := by
  induction l generalizing p with
  | nil => simp
  | cons t l ih =>
    have hfirst : s ∈ (p.intern t).2.strings ↔ s ∈ p.strings ∨ s = t := by
      rw [strings_intern]
      split
      · next ht => exact (or_iff_left_of_imp fun hs => hs ▸ ht).symm
      · rw [List.mem_append, List.mem_singleton]
    rw [internAll_cons, ih, hfirst, List.mem_cons, or_assoc]

/-- **A pool grows by no more strings than are put into it.** -/
theorem size_internAll_le {l : List String} {texts : Finset String} (h : ∀ s ∈ l, s ∈ texts) :
    (p.internAll l).size ≤ p.size + texts.card := by
  obtain ⟨new, hnew⟩ := p.grows_internAll l
  have hnodup := (p.internAll l).nodup_strings
  rw [← hnew, List.nodup_append] at hnodup
  have hsubset : new.toFinset ⊆ texts := by
    intro s hs
    rw [List.mem_toFinset] at hs
    have hmem : s ∈ (p.internAll l).strings := hnew ▸ List.mem_append_right _ hs
    rcases mem_strings_internAll_iff.mp hmem with hold | hput
    · exact absurd rfl (hnodup.2.2 s hold s hs)
    · exact h s hput
  have hcard := Finset.card_le_card hsubset
  rw [List.toFinset_card_of_nodup hnodup.2.1] at hcard
  rw [size, ← hnew, List.length_append, size]
  omega

end StringPool

/-! ### Scripts -/

/-- An event shows an event. -/
theorem StreamAnswer.Shows.exists_event {pool : StringPool} {e : Event}
    {shown : StreamAnswer (EventOf String)} (h : Shows pool (.event e) shown) :
    ∃ e', shown = .event e' := by
  cases h
  exact ⟨_, rfl⟩

theorem StreamAnswer.inRun_eq_event_iff {ε : Type} {events : List ε}
    {fault : Option ArithmeticFault} {n : Nat} {e : ε} :
    inRun events fault n = .event e ↔ events[n]? = some e := by
  rw [inRun]
  cases events[n]? with
  | some e' => simp
  | none =>
    dsimp only
    split
    · cases fault <;> simp
    · simp

/-- What a stream puts into the pool is one of the common texts or the name of its next event. -/
theorem EventStream.requested_cases {s : EventStream} {t : String} (h : t ∈ s.requested) :
    t ∈ [Event.systemText, Event.commandText, Event.userCommandText] ∨
      ∃ shown, s.script.answer = .event shown ∧ t = shown.name := by
  rcases List.mem_append.mp h with hcommon | hname
  · left
    cases s with
    | fresh => exact hcommon
    | running => exact absurd hcommon List.not_mem_nil
    | finished => exact absurd hcommon List.not_mem_nil
  · right
    cases hanswer : s.script.answer with
    | event shown =>
      rw [hanswer] at hname
      exact ⟨shown, rfl, List.mem_singleton.mp hname⟩
    | ended => exact absurd (hanswer ▸ hname) List.not_mem_nil
    | fault f => exact absurd (hanswer ▸ hname) List.not_mem_nil

/-- The event at a place of the script of a capture is that of the record at the same place. -/
theorem Script.exists_recorded {c : Capture} {domain : TimeDomain} {n : Nat}
    {shown : EventOf String} (h : (Script.ofTracks domain c.tracks).events[n]? = some shown) :
    ∃ t r timestamp, c.recorded[n]? = some (t, r) ∧ shown = r.event timestamp := by
  obtain ⟨first, hprefix, hevents⟩ := Script.covers_ofTracks domain c.tracks
  obtain ⟨hlength, hall⟩ := List.forall₂_iff_get.mp hevents
  obtain ⟨hn, rfl⟩ := List.getElem?_eq_some_iff.mp h
  have hfirst : n < first.length := hlength ▸ hn
  obtain ⟨timestamp, -, hshown⟩ := hall n hfirst hn
  exact ⟨_, _, timestamp, List.prefix_iff_getElem?.mp hprefix n hfirst, hshown⟩

namespace Session

variable {before run steps : List Step} {place : Nat} {e e' : Event} {r r' : Record}

/-! ### Events and their records -/

/-- Asked for an event after some steps, the stream at a place gives the event of a record: the
record of its capture at the place that is the number of its answers up to now. -/
def Gives (steps : List Step) (place : Nat) (e : Event) (r : Record) : Prop :=
  ((start.after steps).take (.advance place)).1 = .streamed place (.event e) ∧
    ∃ c domain t, (openedBy steps)[place]? = some (c, domain) ∧
      c.recorded[(outcomesAt place (start.answers steps)).length]? = some (t, r)

/-- One of the streams gives the event of the record in the course of a run that follows on some
steps. -/
def GivesDuring (before run : List Step) (e : Event) (r : Record) : Prop :=
  ∃ first place last, run = first ++ .advance place :: last ∧ Gives (before ++ first) place e r

/-- The record of an event is determined. -/
theorem Gives.record_eq (h : Gives steps place e r) (h' : Gives steps place e' r') : r = r' := by
  obtain ⟨-, c, domain, t, hopened, hrecord⟩ := h
  obtain ⟨-, c', domain', t', hopened', hrecord'⟩ := h'
  obtain ⟨rfl, -⟩ := Prod.mk.inj (Option.some.inj (hopened.symm.trans hopened'))
  exact (Prod.mk.inj (Option.some.inj (hrecord.symm.trans hrecord'))).2

/-- The event that a stream shows next is that of a record of its capture: both stand at the number
of its answers up to now. -/
theorem exists_record_of_script {stream : EventStream} {shown : EventOf String}
    (hstream : (start.after steps).streams[place]? = some stream)
    (hshown : stream.script.answer = .event shown) :
    ∃ c domain t r timestamp, (openedBy steps)[place]? = some (c, domain) ∧
      c.recorded[(outcomesAt place (start.answers steps)).length]? = some (t, r) ∧
      shown = r.event timestamp := by
  have hreplays := after_replays anchored_start replays_start steps
  have hopen : place < (openedBy steps).length :=
    hreplays.length_eq ▸ (List.getElem?_eq_some_iff.mp hstream).1
  obtain ⟨⟨c, domain⟩, hopened⟩ : ∃ cd, (openedBy steps)[place]? = some cd :=
    ⟨_, List.getElem?_eq_getElem hopen⟩
  have hscript := (hreplays.replays place c domain stream hopened hstream).script_eq
  rw [hscript, Script.answer_drop, StreamAnswer.inRun_eq_event_iff] at hshown
  obtain ⟨t, r, timestamp, hrecord, hevent⟩ := Script.exists_recorded hshown
  exact ⟨c, domain, t, r, timestamp, hopened, hrecord, hevent⟩

/-- An event that a stream shows next is given when the stream is asked. -/
theorem exists_gives {stream : EventStream} {shown : EventOf String}
    (hstream : (start.after steps).streams[place]? = some stream)
    (hshown : stream.script.answer = .event shown) :
    ∃ e r timestamp, shown = r.event timestamp ∧ Gives steps place e r ∧
      e.Shows (start.after (steps ++ [.advance place])).pool shown := by
  obtain ⟨c, domain, t, r, timestamp, hopened, hrecord, rfl⟩ :=
    exists_record_of_script hstream hshown
  have hanchored := (pool_after anchored_start steps).1 stream (List.mem_of_getElem? hstream)
  have hshows := (EventStream.next_follows hanchored).shows
  rw [hshown] at hshows
  obtain ⟨e, hanswer, he⟩ := StreamAnswer.shows_event_iff.mp hshows
  have htake : (start.after steps).take (.advance place) = (.streamed place (.event e),
      ⟨(stream.next (start.after steps).pool).pool,
        (start.after steps).streams.set place (stream.next (start.after steps).pool).stream⟩) := by
    rw [take, hstream, ← hanswer]
  refine ⟨e, r, timestamp, rfl, ⟨by rw [htake], c, domain, t, hopened, hrecord⟩, ?_⟩
  rw [after_append, after, List.foldl_cons, List.foldl_nil, htake]
  exact he

/-- Every event that is given is that of a record, and shows it in the pool from then on. -/
theorem exists_gives_of_take
    (h : ((start.after steps).take (.advance place)).1 = .streamed place (.event e)) :
    ∃ r timestamp, Gives steps place e r ∧
      e.Shows (start.after (steps ++ [.advance place])).pool (r.event timestamp) := by
  cases hstream : (start.after steps).streams[place]? with
  | none =>
    rw [take, hstream] at h
    cases h
  | some stream =>
    have hstep := h
    rw [take, hstream, Answer.streamed.injEq] at hstep
    have hanchored := (pool_after anchored_start steps).1 stream (List.mem_of_getElem? hstream)
    have hshows := (EventStream.next_follows hanchored).shows
    rw [hstep.2] at hshows
    obtain ⟨shown, hshown⟩ := hshows.exists_event
    obtain ⟨e', r, timestamp, rfl, hgives, he⟩ := exists_gives hstream hshown
    obtain rfl : e = e' := by
      have heq := h.symm.trans hgives.1
      simpa using heq
    exact ⟨r, timestamp, hgives, he⟩

/-- An event shows its record in the pool at the end of the run in which it was given. -/
theorem GivesDuring.exists_shows (h : GivesDuring before run e r) :
    ∃ timestamp, e.Shows (start.after (before ++ run)).pool (r.event timestamp) := by
  obtain ⟨first, place, last, rfl, hgives⟩ := h
  obtain ⟨r', timestamp, hgives', hshows⟩ := exists_gives_of_take hgives.1
  obtain rfl := hgives.record_eq hgives'
  refine ⟨timestamp, hshows.grows ?_⟩
  have hgrows := grows_after (before ++ first ++ [.advance place]) last
  simpa only [List.append_assoc, List.singleton_append] using hgrows

/-! ### Growth -/

theorem exists_step_of_mem_requests {s : Session} {t : String} (h : t ∈ s.requests run) :
    ∃ first step last, run = first ++ step :: last ∧ t ∈ step.requests (s.after first) := by
  induction run generalizing s with
  | nil => exact absurd h List.not_mem_nil
  | cons step run ih =>
    rcases List.mem_append.mp h with hstep | hlater
    · exact ⟨[], step, run, rfl, hstep⟩
    · obtain ⟨first, step', last, rfl, hmem⟩ := ih hlater
      exact ⟨step :: first, step', last, rfl, hmem⟩

/-- **What a run puts into the pool:** the common texts, the names of its events, and what is put
there by hand. -/
theorem request_cases {t : String} (h : t ∈ (start.after before).requests run) :
    t ∈ [Event.systemText, Event.commandText, Event.userCommandText] ∨
      (∃ e r, GivesDuring before run e r ∧ t = Event.nameText r.kind) ∨ Step.intern t ∈ run := by
  obtain ⟨first, step, last, rfl, hmem⟩ := exists_step_of_mem_requests h
  rw [← after_append] at hmem
  cases step with
  | intern t' =>
    obtain rfl := List.mem_singleton.mp hmem
    exact .inr (.inr (List.mem_append_right _ List.mem_cons_self))
  | advance place =>
    rw [Step.requests] at hmem
    cases hstream : (start.after (before ++ first)).streams[place]? with
    | none =>
      rw [hstream] at hmem
      exact absurd hmem List.not_mem_nil
    | some stream =>
      rw [hstream] at hmem
      rcases EventStream.requested_cases hmem with hcommon | ⟨shown, hshown, rfl⟩
      · exact .inl hcommon
      · obtain ⟨e, r, timestamp, rfl, hgives, -⟩ := exists_gives hstream hshown
        exact .inr (.inl ⟨e, r, ⟨first, place, last, rfl, hgives⟩, rfl⟩)
  | _ => exact absurd hmem List.not_mem_nil

/-- The kinds of the records whose events are given in a run. -/
def kindsDuring (before run : List Step) : Set Int :=
  {kind | ∃ e r, GivesDuring before run e r ∧ r.kind = kind}

theorem finite_kindsDuring (before run : List Step) : (kindsDuring before run).Finite := by
  have hall := List.finite_toSet
    (((openedBy (before ++ run)).flatMap fun cd => cd.1.recorded).map fun tr => tr.2.kind)
  refine hall.subset ?_
  rintro kind ⟨e, r, ⟨first, place, last, rfl, -, c, domain, t, hopened, hrecord⟩, rfl⟩
  have hmem : (c, domain) ∈ openedBy (before ++ (first ++ .advance place :: last)) := by
    rw [← List.append_assoc, openedBy, List.filterMap_append]
    exact List.mem_append_left _ (List.mem_of_getElem? hopened)
  exact List.mem_map.mpr ⟨(t, r), List.mem_flatMap.mpr ⟨_, hmem, List.mem_of_getElem? hrecord⟩, rfl⟩

theorem finite_interned (run : List Step) : {t | Step.intern t ∈ run}.Finite :=
  (List.finite_toSet run).preimage fun _ _ _ _ h => Step.intern.inj h

/-- **The growth of the pool in a run.** -/
theorem size_after_le (before run : List Step) :
    (start.after (before ++ run)).pool.size ≤ (start.after before).pool.size + 3 +
      (kindsDuring before run).ncard + {t | Step.intern t ∈ run}.ncard := by
  classical
  let common := [Event.systemText, Event.commandText, Event.userCommandText].toFinset
  let names := (finite_kindsDuring before run).toFinset.image Event.nameText
  let interned := (finite_interned run).toFinset
  have hrequests : ∀ t ∈ (start.after before).requests run, t ∈ common ∪ names ∪ interned := by
    intro t ht
    simp only [Finset.mem_union, or_assoc]
    rcases request_cases ht with hcommon | ⟨e, r, hgives, rfl⟩ | hintern
    · exact .inl (List.mem_toFinset.mpr hcommon)
    · have hkind : r.kind ∈ kindsDuring before run := ⟨e, r, hgives, rfl⟩
      exact .inr (.inl (Finset.mem_image_of_mem _ ((Set.Finite.mem_toFinset _).mpr hkind)))
    · exact .inr (.inr ((Set.Finite.mem_toFinset _).mpr hintern))
  have hgrowth := (start.after before).pool.size_internAll_le hrequests
  rw [← (pool_after (pool_after anchored_start before).1 run).2, ← after_append] at hgrowth
  have hcommon : common.card ≤ 3 := List.toFinset_card_le _
  have hnames : names.card ≤ (kindsDuring before run).ncard := by
    rw [Set.ncard_eq_toFinset_card _ (finite_kindsDuring before run)]
    exact Finset.card_image_le
  have hinterned : interned.card = {t | Step.intern t ∈ run}.ncard :=
    (Set.ncard_eq_toFinset_card _ (finite_interned run)).symm
  have hunion := Finset.card_union_le (common ∪ names) interned
  have hunion' := Finset.card_union_le common names
  omega

/-- **Names tell kinds.** Whenever a stream answers with an event, this is the event of one record
of its capture. The handles of the names of two events that were given in the same session, at any
times and by any streams, are equal exactly if the kinds of their records are. No name has the
handle of the system, the command or the user command of an event. And in the course of any run the
pool grows by no more than three strings, one for each of the kinds of its events, and one for each
string that is put there otherwise. -/
theorem names_tell_kinds :
    (∀ steps place e,
      ((start.after steps).take (.advance place)).1 = .streamed place (.event e) →
        ∃! r, Gives steps place e r) ∧
    (∀ steps e e' r r', GivesDuring [] steps e r → GivesDuring [] steps e' r' →
      (e.name = e'.name ↔ r.kind = r'.kind) ∧ e.name ≠ e'.system ∧ e.name ≠ e'.command ∧
        e.name ≠ e'.userCommand) ∧
    ∀ before run, (start.after (before ++ run)).pool.size ≤ (start.after before).pool.size + 3 +
      (kindsDuring before run).ncard + {t | Step.intern t ∈ run}.ncard := by
  refine ⟨fun steps place e h => ?_, fun steps e e' r r' h h' => ?_, size_after_le⟩
  · obtain ⟨r, -, hgives, -⟩ := exists_gives_of_take h
    exact ⟨r, hgives, fun r' hgives' => hgives'.record_eq hgives⟩
  · obtain ⟨_, hshows⟩ := h.exists_shows
    obtain ⟨_, hshows'⟩ := h'.exists_shows
    refine ⟨?_, ?_, ?_, ?_⟩
    · rw [hshows.name.eq_iff hshows'.name]
      exact Event.nameText_injective.eq_iff
    · rw [Ne, hshows.name.eq_iff hshows'.system]
      exact Event.nameText_ne Event.systemText (by decide) r.kind
    · rw [Ne, hshows.name.eq_iff hshows'.command]
      exact Event.nameText_ne Event.commandText (by decide) r.kind
    · rw [Ne, hshows.name.eq_iff hshows'.userCommand]
      exact Event.nameText_ne Event.userCommandText (by decide) r.kind

/-- Two streams, the first with records of two kinds, the second with one of a kind of the first.
One of the common texts is put into the pool before they are asked. -/
def mixed : List Step :=
  let capture (records : List Record) : Capture := ⟨[⟨⟨.zero, "GPU", 0, 0, 0, 0, 0⟩, records⟩]⟩
  [.adapt (capture [⟨1, 1, 7, 5, 0⟩, ⟨1, -1, 7, 6, 0⟩]) "first" .device, .intern "(event_comm)",
    .adapt (capture [⟨1, -1, 8, 9, 0⟩]) "second" .device, .advance 0, .advance 1, .advance 0]

/-- The two events of the kind that has no label share their name, which the other stream put into
the pool. -/
theorem names_tell_kinds_mixed : ∃ e e' e'' : Event,
    (∃! r, Gives (mixed.take 3) 0 e r) ∧
      (GivesDuring [] mixed e ⟨1, 1, 7, 5, 0⟩ ∧ GivesDuring [] mixed e' ⟨1, -1, 8, 9, 0⟩ ∧
        GivesDuring [] mixed e'' ⟨1, -1, 7, 6, 0⟩) ∧
      e.name ≠ e'.name ∧ e'.name = e''.name ∧ e'.name ≠ e.command ∧
      5 ≤ 3 + (kindsDuring [] mixed).ncard + {t | Step.intern t ∈ mixed}.ncard := by
  obtain ⟨hrecord, hnames, hsize⟩ := names_tell_kinds
  have hfirst : GivesDuring [] mixed (.ofTexts 7 5 3 1 0 2) ⟨1, 1, 7, 5, 0⟩ :=
    ⟨mixed.take 3, 0, mixed.drop 4, rfl, rfl, _, _, _, rfl, rfl⟩
  have hsecond : GivesDuring [] mixed (.ofTexts 8 9 4 1 0 2) ⟨1, -1, 8, 9, 0⟩ :=
    ⟨mixed.take 4, 1, mixed.drop 5, rfl, rfl, _, _, _, rfl, rfl⟩
  have hthird : GivesDuring [] mixed (.ofTexts 7 6 4 1 0 2) ⟨1, -1, 7, 6, 0⟩ :=
    ⟨mixed.take 5, 0, mixed.drop 6, rfl, rfl, _, _, _, rfl, rfl⟩
  refine ⟨_, _, _, hrecord (mixed.take 3) 0 _ rfl, ⟨hfirst, hsecond, hthird⟩, ?_, ?_, ?_, ?_⟩
  · exact fun h => absurd ((hnames mixed _ _ _ _ hfirst hsecond).1.mp h) (by decide)
  · exact (hnames mixed _ _ _ _ hsecond hthird).1.mpr rfl
  · exact (hnames mixed _ _ _ _ hsecond hfirst).2.2.1
  · have hempty : (start.after []).pool.size = 0 := rfl
    have hfull : (start.after mixed).pool.size = 5 := by decide
    have hgrowth := hsize [] mixed
    rwa [List.nil_append, hempty, hfull, Nat.zero_add] at hgrowth

end Session

end SwitchTrace
