import SwitchTrace.Calendar.Moment
import SwitchTrace.Text.Pad

/-!
# The text of days and moments

## Main definitions

* `Day.text`, `Moment.text` — days and moments in figures, the larger units first.
* `Day.built`, `Moment.built` — how days and moments are shown inside other values.
* `CalendarFault.message` — the message for a fault.
-/

namespace SwitchTrace

/-- A number with zeros before it, up to the width. -/
def Pad.decimal (width n : Nat) : String := leftWith '0' width (toString n)

/-- Texts with commas between them, in parentheses after a name. -/
def Calendar.call (name : String) (arguments : List String) : String :=
  name ++ "(" ++ ", ".intercalate arguments ++ ")"

/-- A time span of so many minutes, as whole days and the seconds after them. -/
def Calendar.span (minutes : Int) : String :=
  let seconds := 60 * minutes
  let days := seconds.fdiv 86400
  let rest := seconds.fmod 86400
  let arguments := (if days = 0 then [] else ["days=" ++ toString days]) ++
    (if rest = 0 then [] else ["seconds=" ++ toString rest])
  call "datetime.timedelta" (if arguments.isEmpty then ["0"] else arguments)

/-- The message for a fault. -/
def CalendarFault.message : CalendarFault → String
  | .year n => "year " ++ toString n ++ " is out of range"
  | .month => "month must be in 1..12"
  | .dayOfMonth => "day is out of range for month"
  | .hour => "hour must be in 0..23"
  | .minute => "minute must be in 0..59"
  | .second => "second must be in 0..59"
  | .offset minutes =>
    "offset must be a timedelta strictly between -timedelta(hours=24) and timedelta(hours=24), " ++
      "not " ++ Calendar.span minutes ++ "."

/-- A day in figures. -/
def Day.text (d : Day) : String :=
  Pad.decimal 4 d.year ++ "-" ++ Pad.decimal 2 d.month ++ "-" ++ Pad.decimal 2 d.number

/-- How a day is shown inside other values. -/
def Day.built (d : Day) : String :=
  Calendar.call "datetime.date" [toString d.year, toString d.month, toString d.number]

/-- An offset in figures. -/
def Offset.text (o : Offset) : String :=
  let size := o.minutes.natAbs
  (if o.minutes < 0 then "-" else "+") ++ Pad.decimal 2 (size / 60) ++ ":" ++
    Pad.decimal 2 (size % 60)

/-- How an offset is shown inside other values. -/
def Offset.built (o : Offset) : String :=
  if o.minutes = 0 then "datetime.timezone.utc"
  else Calendar.call "datetime.timezone" [Calendar.span o.minutes]

/-- A moment in figures. Microseconds are left out if there are none. -/
def Moment.text (m : Moment) : String :=
  m.day.text ++ " " ++ Pad.decimal 2 m.hour ++ ":" ++ Pad.decimal 2 m.minute ++ ":" ++
    Pad.decimal 2 m.second ++
    (if m.microsecond = 0 then "" else "." ++ Pad.decimal 6 m.microsecond) ++
    (match m.offset with
      | none => ""
      | some o => o.text)

/-- How a moment is shown inside other values. Seconds and microseconds are left out if nothing
but zeros would be. -/
def Moment.built (m : Moment) : String :=
  let fine :=
    if m.microsecond ≠ 0 then [m.second, m.microsecond]
    else if m.second ≠ 0 then [m.second]
    else []
  let numbers := [m.day.year, m.day.month, m.day.number, m.hour, m.minute] ++ fine
  Calendar.call "datetime.datetime" (numbers.map toString ++
    (match m.offset with
      | none => []
      | some o => ["tzinfo=" ++ o.built]))

end SwitchTrace
