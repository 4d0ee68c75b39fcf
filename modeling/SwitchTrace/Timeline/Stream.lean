import SwitchTrace.Clock.Device
import SwitchTrace.Log
import SwitchTrace.Timeline.Event
import SwitchTrace.Timeline.Pool

/-!
# Streams of events

A stream makes the events of a capture one at a time, device after device and record after
record, and puts their texts into a pool that it may share with other streams. It touches the
pool when it is asked for its first event, and not before. The clock map of a device is made when
the stream comes to the device, also if its records are taken as they are.

## Main definitions

* `EventStream`, `EventStream.next` — a stream and its next event.
* `EventStream.drain` — all events of a stream.
* `EventStream.deliver` — all events of a stream, given to a receiver.

## Main results

* `EventStream.remaining_of_next_event` — every event leaves one record less.
-/

namespace SwitchTrace

/-- The handles that all events of a stream have in common. -/
structure CommonHandles where
  system : Nat
  command : Nat
  userCommand : Nat
deriving DecidableEq, Repr

/-- A stream of events. -/
inductive EventStream
  /-- Nothing was asked for yet. -/
  | fresh (domain : TimeDomain) (tracks : List Track)
  /-- The records of the present device that are left, and the tracks after it. -/
  | running (domain : TimeDomain) (common : CommonHandles) (clock : ClockMap)
      (records : List Record) (tracks : List Track)
  | finished
deriving Inhabited

/-- The answer of a stream of the given events that is asked for an event. -/
inductive StreamAnswer (ε : Type)
  | event (e : ε)
  | ended
  | fault (f : ArithmeticFault)
deriving DecidableEq, Repr

/-- The answer of a stream, the stream after it, and the pool after it. -/
structure StreamStep where
  answer : StreamAnswer Event
  stream : EventStream
  pool : StringPool

namespace EventStream

/-- The stream of the events of a capture. -/
def ofCapture (c : Capture) (domain : TimeDomain) : EventStream := .fresh domain c.tracks

/-- The number of records that are left. -/
def remaining : EventStream → Nat
  | .fresh _ tracks => recordsIn tracks
  | .running _ _ _ records tracks => records.length + recordsIn tracks
  | .finished => 0

/-- The time of a record in a domain. -/
def timeOf (domain : TimeDomain) (clock : ClockMap) (r : Record) : Except ArithmeticFault Int :=
  match domain with
  | .processor => clock.convert r.timestamp
  | .device => .ok r.timestamp

/-- The time of a record in a domain, if the event of the record can be named as well. -/
def eventTime (domain : TimeDomain) (clock : ClockMap) (r : Record) :
    Except ArithmeticFault Int := do
  let timestamp ← timeOf domain clock r
  if SwitchKind.hasLongLabel r.kind then .error .tooManyDigits else return timestamp

/-- The handles of the texts that all events have in common. -/
def internCommon (pool : StringPool) : CommonHandles × StringPool :=
  let (system, pool) := pool.intern Event.systemText
  let (command, pool) := pool.intern Event.commandText
  let (userCommand, pool) := pool.intern Event.userCommandText
  (⟨system, command, userCommand⟩, pool)

/-- The event of a record. The time is converted before the name is made and put into the pool. -/
def emit (domain : TimeDomain) (common : CommonHandles) (clock : ClockMap) (r : Record)
    (records : List Record) (tracks : List Track) (pool : StringPool) : StreamStep :=
  match eventTime domain clock r with
  | .error f => ⟨.fault f, .finished, pool⟩
  | .ok timestamp =>
    let (name, pool) := pool.intern (Event.nameText r.kind)
    ⟨.event (.ofTexts r.process timestamp name common.system common.command
      common.userCommand), .running domain common clock records tracks, pool⟩

/-- The next event of the given tracks: that of the first record of the first of them that has
one. -/
def enter (domain : TimeDomain) (common : CommonHandles) : List Track → StringPool → StreamStep
  | [], pool => ⟨.ended, .finished, pool⟩
  | t :: tracks, pool =>
    match t.device.clockMap with
    | .error f => ⟨.fault f, .finished, pool⟩
    | .ok clock =>
      match t.records with
      | [] => enter domain common tracks pool
      | r :: records => emit domain common clock r records tracks pool

/-- The next event of a stream. -/
def next : EventStream → StringPool → StreamStep
  | .fresh domain tracks, pool =>
    let (common, pool) := internCommon pool
    enter domain common tracks pool
  | .running domain common _ [] tracks, pool => enter domain common tracks pool
  | .running domain common clock (r :: records) tracks, pool =>
    emit domain common clock r records tracks pool
  | .finished, pool => ⟨.ended, .finished, pool⟩

theorem remaining_of_emit_event {domain : TimeDomain} {common : CommonHandles} {clock : ClockMap}
    {r : Record} {records : List Record} {tracks : List Track} {pool : StringPool} {e : Event}
    (h : (emit domain common clock r records tracks pool).answer = .event e) :
    (emit domain common clock r records tracks pool).stream.remaining =
      records.length + recordsIn tracks := by
  unfold emit at h ⊢
  split at h
  · cases h
  · rfl

theorem remaining_of_enter_event {domain : TimeDomain} {common : CommonHandles}
    {tracks : List Track} {pool : StringPool} {e : Event}
    (h : (enter domain common tracks pool).answer = .event e) :
    (enter domain common tracks pool).stream.remaining + 1 =
      recordsIn tracks := by
  induction tracks with
  | nil => cases h
  | cons t tracks ih =>
    cases hclock : t.device.clockMap with
    | error f => simp [enter, hclock] at h
    | ok clock =>
      cases hrecords : t.records with
      | nil =>
        simp only [enter, hclock, hrecords] at h ⊢
        simp [ih h, hrecords, recordsIn]
      | cons r records =>
        simp only [enter, hclock, hrecords] at h ⊢
        rw [remaining_of_emit_event h]
        simp only [recordsIn, hrecords, List.length_cons]
        omega

/-- Every event leaves one record less. -/
theorem remaining_of_next_event {s : EventStream} {pool : StringPool} {e : Event}
    (h : (s.next pool).answer = .event e) :
    (s.next pool).stream.remaining + 1 = s.remaining := by
  match s with
  | .fresh domain tracks => exact remaining_of_enter_event h
  | .running domain common clock [] tracks =>
    rw [next, remaining_of_enter_event (by rwa [next] at h), remaining]
    simp
  | .running domain common clock (r :: records) tracks =>
    rw [next, remaining_of_emit_event (by rwa [next] at h), remaining, List.length_cons]
    omega
  | .finished => cases h

end EventStream

/-- The events of a stream up to its end or to a fault, and the pool after them. -/
structure Drained where
  events : List Event
  fault : Option ArithmeticFault
  pool : StringPool

namespace Drained

/-- All events, if there was no fault. -/
def events? (d : Drained) : Except ArithmeticFault (List Event) :=
  match d.fault with
  | none => .ok d.events
  | some f => .error f

end Drained

namespace EventStream

/-- All events of a stream. -/
def drain (s : EventStream) (pool : StringPool) : Drained :=
  match _h : (s.next pool).answer with
  | .event e =>
    let rest := drain (s.next pool).stream (s.next pool).pool
    { rest with events := e :: rest.events }
  | .ended => ⟨[], none, (s.next pool).pool⟩
  | .fault f => ⟨[], some f, (s.next pool).pool⟩
termination_by s.remaining
decreasing_by
  have := remaining_of_next_event _h
  omega

end EventStream

/-- The line of the log for the events of a source. -/
def adaptedLog (source : String) (count : Nat) : LogLine :=
  ⟨.debug, source ++ ": adapted " ++ toString count ++ " events"⟩

/-- What the events of a stream leave behind that were given to a receiver one after the other: the
last state of the receiver, the number of the events, the fault if there was one, and the pool. -/
structure Delivery (σ : Type) where
  state : σ
  count : Nat
  fault : Option ArithmeticFault
  pool : StringPool

/-- The log of a delivery. The events are counted only if there was no fault. -/
def Delivery.log {σ : Type} (d : Delivery σ) (source : String) : List LogLine :=
  if d.fault.isNone then [adaptedLog source d.count] else []

namespace EventStream

/-- Gives all events of a stream to a receiver, each as soon as the stream has made it. -/
def deliver {σ : Type} (receive : σ → Event → σ) (state : σ) (s : EventStream)
    (pool : StringPool) : Delivery σ :=
  match _h : (s.next pool).answer with
  | .event e =>
    let rest := deliver receive (receive state e) (s.next pool).stream (s.next pool).pool
    { rest with count := rest.count + 1 }
  | .ended => ⟨state, 0, none, (s.next pool).pool⟩
  | .fault f => ⟨state, 0, some f, (s.next pool).pool⟩
termination_by s.remaining
decreasing_by
  have := remaining_of_next_event _h
  omega

end EventStream

end SwitchTrace
