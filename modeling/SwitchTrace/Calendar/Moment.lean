import SwitchTrace.Calendar.Day

/-!
# Moments

A moment is a day with a time of day, which may say how far it is ahead of universal time.

## Main definitions

* `Moment`, `Moment.of?` — a moment, and the moment of a day and of numbers.
* `Moment.sameInstant` — two moments are the same.
* `Offset.of?` — how far a time is ahead of universal time.
-/

namespace SwitchTrace

/-- How far a time is ahead of universal time, less than a day in either direction. -/
structure Offset where
  minutes : Int
deriving DecidableEq, Repr

/-- The offset of so many minutes. -/
def Offset.of? (minutes : Int) : Except CalendarFault Offset :=
  if minutes.natAbs < 24 * 60 then .ok ⟨minutes⟩ else .error (.offset minutes)

/-- A day with a time of day. -/
structure Moment where
  day : Day
  hour : Nat
  minute : Nat
  second : Nat
  microsecond : Nat
  /-- How far the time is ahead of universal time, if that is known. -/
  offset : Option Offset
deriving DecidableEq, Repr

namespace Moment

/-- The moment of a day and of the numbers of a time. The day is looked at first, and then the
numbers in their order. -/
def of? (year month number hour minute second microsecond : Nat) (offset : Option Offset) :
    Except CalendarFault Moment := do
  let day ← Day.of? year month number
  if 23 < hour then throw .hour
  else if 59 < minute then throw .minute
  else if 59 < second then throw .second
  else return ⟨day, hour, minute, second, microsecond, offset⟩

/-- The microseconds from the beginning of the calendar to the moment by its own clock. -/
def microseconds (m : Moment) : Int :=
  (((m.day.ordinal * 24 + m.hour) * 60 + m.minute) * 60 + m.second) * 1000000 + m.microsecond

/-- Two moments are the same: by universal time if both say how far they are ahead of it, and by
their own clocks if neither does. -/
def sameInstant (m n : Moment) : Bool :=
  match m.offset, n.offset with
  | none, none => m.microseconds == n.microseconds
  | some p, some q =>
    m.microseconds - 60000000 * p.minutes == n.microseconds - 60000000 * q.minutes
  | _, _ => false

end Moment

end SwitchTrace
