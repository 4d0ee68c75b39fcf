import Mathlib.Data.List.Forall2
import SwitchTrace.Proofs.Timeline.Pool
import SwitchTrace.Timeline.Stream

/-!
# The script of a stream

What a stream shows does not depend on the pool: the events with their strings in the place of
handles, and the fault at which they break off, are its *script*. A stream that is asked for an
event answers the head of its script, in whatever pool it is asked and whatever was put into the
pool since it was asked last. It puts into the pool the strings that all events have in common,
before anything else, and then the name of the event.

The common handles that a running stream holds are those of an earlier pool. They keep their
strings because pools only grow; that they have them in the present pool is the invariant of the
stream (`EventStream.Anchored`).

## Main definitions

* `Event.Shows` — an event of a pool shows an event with strings.
* `Script`, `EventStream.script` — what a stream has still to show.
* `EventStream.requested` — the strings that the next event of a stream puts into the pool.
* `StreamStep.Follows` — one answer of a stream according to its script.

## Main results

* `EventStream.next_follows` — every answer is according to the script.
* `EventStream.drain_follows` — so are all events together.
* `EventStream.deliver_eq_drain` — a receiver gets the events that the stream makes.
-/

namespace SwitchTrace

/-! ### Events seen through a pool -/

/-- The event with its texts taken through a function. -/
def EventOf.map {α β : Type} (f : α → β) (e : EventOf α) : EventOf β :=
  { e with
    name := f e.name
    system := f e.system
    command := f e.command
    userCommand := f e.userCommand }

namespace StringPool

variable {p q : StringPool} {handle : Int} {s : String}

/-- The handle is the place of the string, counted from the start. -/
def Holds (p : StringPool) (handle : Int) (s : String) : Prop :=
  0 ≤ handle ∧ p.lookup? handle = some s

theorem Holds.grows (h : p.Holds handle s) (hgrows : p.Grows q) : q.Holds handle s := by
  obtain ⟨hnonneg, hlookup⟩ := h
  lift handle to Nat using hnonneg
  exact ⟨Int.natCast_nonneg handle, hgrows.lookup?_eq hlookup⟩

theorem holds_intern (p : StringPool) (s : String) : (p.intern s).2.Holds (p.intern s).1 s :=
  ⟨Int.natCast_nonneg _, p.lookup?_intern s⟩

end StringPool

/-- The event shows another one in a pool: its handles are those of the texts of the other one, and
all else is the same. -/
structure Event.Shows (pool : StringPool) (e : Event) (shown : EventOf String) : Prop where
  name : pool.Holds e.name shown.name
  system : pool.Holds e.system shown.system
  command : pool.Holds e.command shown.command
  userCommand : pool.Holds e.userCommand shown.userCommand
  rest : e.map (fun _ => ()) = shown.map fun _ => ()

namespace Event.Shows

variable {p q : StringPool} {e : Event} {shown : EventOf String}

theorem grows (h : e.Shows p shown) (hgrows : p.Grows q) : e.Shows q shown where
  name := h.name.grows hgrows
  system := h.system.grows hgrows
  command := h.command.grows hgrows
  userCommand := h.userCommand.grows hgrows
  rest := h.rest

theorem timestamp_eq (h : e.Shows p shown) : e.timestamp = shown.timestamp :=
  congrArg EventOf.timestamp h.rest

/-- What an event shows is what its handles lead to. -/
theorem map_lookup? (h : e.Shows p shown) : e.map p.lookup? = shown.map some := by
  have hrest := h.rest
  simp only [EventOf.map, EventOf.mk.injEq] at hrest ⊢
  simp [hrest, h.name.2, h.system.2, h.command.2, h.userCommand.2]

end Event.Shows

/-- The event of a record at a time, with its strings. -/
def Record.event (r : Record) (timestamp : Int) : EventOf String :=
  .ofTexts r.process timestamp (Event.nameText r.kind) Event.systemText Event.commandText
    Event.userCommandText

/-- The handles of the common texts lead to them. -/
structure CommonHandles.Held (common : CommonHandles) (pool : StringPool) : Prop where
  system : pool.Holds common.system Event.systemText
  command : pool.Holds common.command Event.commandText
  userCommand : pool.Holds common.userCommand Event.userCommandText

theorem CommonHandles.Held.grows {common : CommonHandles} {p q : StringPool}
    (h : common.Held p) (hgrows : p.Grows q) : common.Held q where
  system := h.system.grows hgrows
  command := h.command.grows hgrows
  userCommand := h.userCommand.grows hgrows

/-! ### Answers -/

namespace StreamAnswer

/-- The answer with its event taken through a function. -/
def map {ε ε' : Type} (f : ε → ε') : StreamAnswer ε → StreamAnswer ε'
  | .event e => .event (f e)
  | .ended => .ended
  | .fault f => .fault f

/-- The name of the event, if there is one. -/
def names : StreamAnswer (EventOf String) → List String
  | .event e => [e.name]
  | _ => []

/-- The answer shows another one in a pool. -/
inductive Shows (pool : StringPool) : StreamAnswer Event → StreamAnswer (EventOf String) → Prop
  | event {e : Event} {shown : EventOf String} (h : e.Shows pool shown) :
      Shows pool (.event e) (.event shown)
  | ended : Shows pool .ended .ended
  | fault (f : ArithmeticFault) : Shows pool (.fault f) (.fault f)

variable {p q : StringPool} {a : StreamAnswer Event} {shown : StreamAnswer (EventOf String)}

theorem Shows.grows (h : a.Shows p shown) (hgrows : p.Grows q) : a.Shows q shown := by
  cases h with
  | event h => exact .event (h.grows hgrows)
  | ended => exact .ended
  | fault f => exact .fault f

theorem shows_event_iff {e : EventOf String} :
    a.Shows p (.event e) ↔ ∃ e', a = .event e' ∧ e'.Shows p e := by
  constructor
  · rintro ⟨h⟩
    exact ⟨_, rfl, h⟩
  · rintro ⟨_, rfl, h⟩
    exact .event h

theorem shows_ended_iff : a.Shows p .ended ↔ a = .ended := by
  constructor
  · rintro ⟨⟩
    rfl
  · rintro rfl
    exact .ended

theorem shows_fault_iff {f : ArithmeticFault} : a.Shows p (.fault f) ↔ a = .fault f := by
  constructor
  · rintro ⟨⟩
    rfl
  · rintro rfl
    exact .fault f

theorem Shows.map_lookup? (h : a.Shows p shown) :
    a.map (EventOf.map p.lookup?) = shown.map (EventOf.map some) := by
  cases h with
  | event h => exact congrArg StreamAnswer.event h.map_lookup?
  | ended => rfl
  | fault f => rfl

end StreamAnswer

/-! ### Scripts -/

/-- What a stream has still to show: its events up to its end or to a fault. -/
structure Script where
  events : List (EventOf String)
  fault : Option ArithmeticFault

namespace Script

/-- The script of nothing. -/
def done : Script := ⟨[], none⟩

/-- The script that breaks off at once. -/
def broken (f : ArithmeticFault) : Script := ⟨[], some f⟩

/-- The script with one more event before all others. -/
def cons (e : EventOf String) (s : Script) : Script := { s with events := e :: s.events }

/-- The first answer. -/
def answer (s : Script) : StreamAnswer (EventOf String) :=
  match s.events, s.fault with
  | e :: _, _ => .event e
  | [], some f => .fault f
  | [], none => .ended

/-- What comes after the first answer. Nothing comes after a fault. -/
def tail (s : Script) : Script :=
  match s.events with
  | _ :: events => { s with events }
  | [] => done

/-- The script of the records of a device, and what comes after them. -/
def ofRecords (domain : TimeDomain) (clock : ClockMap) (rest : Script) : List Record → Script
  | [] => rest
  | r :: records =>
    match EventStream.eventTime domain clock r with
    | .error f => broken f
    | .ok timestamp => (ofRecords domain clock rest records).cons (r.event timestamp)

/-- The script of the given tracks. -/
def ofTracks (domain : TimeDomain) : List Track → Script
  | [] => done
  | t :: tracks =>
    match t.device.clockMap with
    | .error f => broken f
    | .ok clock => ofRecords domain clock (ofTracks domain tracks) t.records

@[simp] theorem answer_cons (e : EventOf String) (s : Script) : (s.cons e).answer = .event e := rfl

@[simp] theorem tail_cons (e : EventOf String) (s : Script) : (s.cons e).tail = s := rfl

end Script

namespace EventStream

/-- What a stream has still to show. -/
def script : EventStream → Script
  | .fresh domain tracks => .ofTracks domain tracks
  | .running domain _ clock records tracks =>
    .ofRecords domain clock (.ofTracks domain tracks) records
  | .finished => .done

/-- The strings that a stream puts into the pool before its first event. -/
def preamble : EventStream → List String
  | .fresh _ _ => [Event.systemText, Event.commandText, Event.userCommandText]
  | _ => []

/-- The strings that a stream puts into the pool when it is asked for an event. -/
def requested (s : EventStream) : List String := s.preamble ++ s.script.answer.names

/-- The handles that a stream holds lead to their texts. -/
def Anchored (pool : StringPool) : EventStream → Prop
  | .running _ common _ _ _ => common.Held pool
  | _ => True

theorem Anchored.grows {s : EventStream} {p q : StringPool} (h : s.Anchored p)
    (hgrows : p.Grows q) : s.Anchored q := by
  cases s with
  | fresh => trivial
  | running => exact CommonHandles.Held.grows h hgrows
  | finished => trivial

end EventStream

/-! ### One answer -/

/-- The step gives the first answer of a script, puts no string into the pool but the name of the
event, and leaves a stream with the rest of the script. -/
structure StreamStep.Follows (pool : StringPool) (script : Script) (step : StreamStep) : Prop where
  pool_eq : step.pool = pool.internAll script.answer.names
  shows : step.answer.Shows step.pool script.answer
  script_eq : step.stream.script = script.tail
  anchored : step.stream.Anchored step.pool

namespace EventStream

variable {domain : TimeDomain} {common : CommonHandles} {clock : ClockMap} {pool : StringPool}
  {s : EventStream}

/-- A stream breaks off according to a script that does. -/
theorem broken_follows (f : ArithmeticFault) (pool : StringPool) :
    StreamStep.Follows pool (.broken f) ⟨.fault f, .finished, pool⟩ :=
  ⟨rfl, .fault f, rfl, trivial⟩

/-- The event of a record has the common texts from the handles of the stream, and its name from
the pool. -/
theorem emit_follows (hcommon : common.Held pool) (r : Record) (records : List Record)
    (tracks : List Track) :
    StreamStep.Follows pool (.ofRecords domain clock (.ofTracks domain tracks) (r :: records))
      (emit domain common clock r records tracks pool) := by
  rw [Script.ofRecords, emit]
  cases eventTime domain clock r with
  | error f => exact broken_follows f pool
  | ok timestamp =>
    have hheld := hcommon.grows (pool.grows_intern (Event.nameText r.kind))
    refine ⟨rfl, .event ?_, rfl, hheld⟩
    exact ⟨pool.holds_intern _, hheld.system, hheld.command, hheld.userCommand, rfl⟩

/-- Devices without records are passed by: nothing is put into the pool for them. -/
theorem enter_follows (hcommon : common.Held pool) (tracks : List Track) :
    StreamStep.Follows pool (.ofTracks domain tracks) (enter domain common tracks pool) := by
  induction tracks with
  | nil => exact ⟨rfl, .ended, rfl, trivial⟩
  | cons t tracks ih =>
    rw [Script.ofTracks, enter]
    cases t.device.clockMap with
    | error f => exact broken_follows f pool
    | ok clock =>
      cases t.records with
      | nil => exact ih
      | cons r records => exact emit_follows hcommon r records tracks

/-- The common texts come into the pool one after the other. The handles of the earlier ones keep
their texts. -/
theorem held_internCommon (pool : StringPool) :
    (internCommon pool).1.Held (internCommon pool).2 := by
  have hcommand := (pool.intern Event.systemText).2.grows_intern Event.commandText
  have huser := ((pool.intern Event.systemText).2.intern Event.commandText).2.grows_intern
    Event.userCommandText
  exact ⟨((StringPool.holds_intern _ _).grows hcommand).grows huser,
    (StringPool.holds_intern _ _).grows huser, StringPool.holds_intern _ _⟩

/-- **Every answer of a stream is according to its script.** -/
theorem next_follows (hs : s.Anchored pool) :
    (s.next pool).Follows (pool.internAll s.preamble) s.script := by
  match s with
  | .fresh domain tracks => exact enter_follows (held_internCommon pool) tracks
  | .running domain common clock [] tracks => exact enter_follows hs tracks
  | .running domain common clock (r :: records) tracks => exact emit_follows hs r records tracks
  | .finished => exact ⟨rfl, .ended, rfl, trivial⟩

/-- The strings that a stream puts into the pool. -/
theorem pool_next (hs : s.Anchored pool) : (s.next pool).pool = pool.internAll s.requested := by
  rw [(next_follows hs).pool_eq, requested, StringPool.internAll_append]

theorem grows_next (hs : s.Anchored pool) : pool.Grows (s.next pool).pool := by
  rw [pool_next hs]
  exact pool.grows_internAll _

/-! ### All events -/

theorem drain_of_event {e : Event} (h : (s.next pool).answer = .event e) :
    s.drain pool =
      { (s.next pool).stream.drain (s.next pool).pool with
        events := e :: ((s.next pool).stream.drain (s.next pool).pool).events } := by
  rw [drain]
  split <;> simp_all

theorem drain_of_ended (h : (s.next pool).answer = .ended) :
    s.drain pool = ⟨[], none, (s.next pool).pool⟩ := by
  rw [drain]
  split <;> simp_all

theorem drain_of_fault {f : ArithmeticFault} (h : (s.next pool).answer = .fault f) :
    s.drain pool = ⟨[], some f, (s.next pool).pool⟩ := by
  rw [drain]
  split <;> simp_all

/-- **All events of a stream are according to its script.** Every event shows in the last pool what
it showed when it was made. -/
theorem drain_follows (hs : s.Anchored pool) :
    List.Forall₂ (Event.Shows (s.drain pool).pool) (s.drain pool).events s.script.events ∧
      (s.drain pool).fault = s.script.fault ∧ pool.Grows (s.drain pool).pool := by
  rcases hscript : s.script with ⟨events, fault⟩
  induction events generalizing s pool with
  | nil =>
    have hshows := (next_follows hs).shows
    rw [hscript] at hshows
    cases fault with
    | none =>
      rw [drain_of_ended (StreamAnswer.shows_ended_iff.mp hshows)]
      exact ⟨.nil, rfl, grows_next hs⟩
    | some f =>
      rw [drain_of_fault (StreamAnswer.shows_fault_iff.mp hshows)]
      exact ⟨.nil, rfl, grows_next hs⟩
  | cons shown events ih =>
    have hstep := next_follows hs
    rw [hscript] at hstep
    obtain ⟨e, hanswer, he⟩ := StreamAnswer.shows_event_iff.mp hstep.shows
    obtain ⟨hrest, hfault, hgrows⟩ := ih hstep.anchored hstep.script_eq
    rw [drain_of_event hanswer]
    exact ⟨.cons (he.grows hgrows) hrest, hfault, (grows_next hs).trans hgrows⟩

/-- **A receiver gets exactly the events that the stream makes**, in their order, and the stream
leaves the same pool behind. -/
theorem deliver_eq_drain {σ : Type} (receive : σ → Event → σ) (state : σ) (s : EventStream)
    (pool : StringPool) :
    s.deliver receive state pool =
      ⟨(s.drain pool).events.foldl receive state, (s.drain pool).events.length,
        (s.drain pool).fault, (s.drain pool).pool⟩ := by
  fun_induction deliver receive state s pool with
  | case1 state s pool e h rest ih =>
    rw [drain_of_event h]
    simp only [rest, ih, List.foldl_cons, List.length_cons]
  | case2 state s pool h =>
    rw [drain_of_ended h]
    rfl
  | case3 state s pool f h =>
    rw [drain_of_fault h]
    rfl

end EventStream

end SwitchTrace
