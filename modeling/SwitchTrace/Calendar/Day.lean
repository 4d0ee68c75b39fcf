/-!
# Days of the calendar

Years are numbered from one, and every fourth year has a leap day, except the hundredth years that
are no four-hundredth ones.

## Main definitions

* `Day`, `Day.of?` — a day, and the day of a year, a month and a number.
* `Day.ordinal` — the number of a day, the first day of the calendar being number one.
* `CalendarFault` — why numbers are no day or no time.
-/

namespace SwitchTrace

/-- Why numbers are no day or no time. -/
inductive CalendarFault
  | year (n : Nat)
  | month
  | dayOfMonth
  | hour
  | minute
  | second
  /-- A time is a day or more away from universal time. -/
  | offset (minutes : Int)
deriving DecidableEq, Repr

/-- A day of the calendar. -/
structure Day where
  year : Nat
  month : Nat
  number : Nat
deriving DecidableEq, Repr

namespace Day

/-- The year has a leap day. -/
def isLeapYear (year : Nat) : Bool := year % 4 = 0 && (year % 100 != 0 || year % 400 = 0)

/-- The number of days of a month. -/
def monthLength (year month : Nat) : Nat :=
  match month with
  | 2 => if isLeapYear year then 29 else 28
  | 4 | 6 | 9 | 11 => 30
  | _ => 31

/-- The day of a year, a month and a number. The year is looked at first and the number last. -/
def of? (year month number : Nat) : Except CalendarFault Day :=
  if year = 0 then .error (.year year)
  else if month = 0 ∨ 12 < month then .error .month
  else if number = 0 ∨ monthLength year month < number then .error .dayOfMonth
  else .ok ⟨year, month, number⟩

/-- The number of days before a month in its year. -/
def daysBeforeMonth (year : Nat) : Nat → Nat
  | 0 => 0
  | 1 => 0
  | month + 1 => daysBeforeMonth year month + monthLength year month

/-- The number of a day, the first day of the calendar being number one. -/
def ordinal (d : Day) : Nat :=
  let past := d.year - 1
  365 * past + past / 4 - past / 100 + past / 400 + daysBeforeMonth d.year d.month + d.number

end Day

end SwitchTrace
