import SwitchTrace.Numeric.DecimalText
import SwitchTrace.Text.Split
import SwitchTrace.Value.Basic
import SwitchTrace.Yaml.Character

/-!
# Dates in YAML texts

A date is a year, a month and a day in figures. A time of day may follow, with a fraction of its
seconds and a zone. A time without a zone is by no clock in particular.

## Main definitions

* `Yaml.DateForm`, `Yaml.DateForm.read?` — the figures of a date, and those of a text.
* `Yaml.DateForm.value` — the day or the moment with these figures.
-/

namespace SwitchTrace.Yaml

/-- The figures of a time of day. -/
structure TimeForm where
  hour : Nat
  minute : Nat
  second : Nat
  microsecond : Nat
  /-- The minutes by which the zone is ahead of universal time, if there is a zone. -/
  zone : Option Int
deriving DecidableEq, Repr

/-- The figures of a date. -/
structure DateForm where
  year : Nat
  month : Nat
  number : Nat
  time : Option TimeForm
deriving DecidableEq, Repr

namespace DateForm

/-- A number of so many digits, and the rest. -/
def takeNumber? (low high : Nat) (cs : List Char) : Option (Nat × List Char) :=
  let digits := (cs.take high).takeWhile Char.isDigit
  if low ≤ digits.length then some (Decimal.ofDigits digits, cs.drop digits.length) else none

/-- The rest after the given character. -/
def dropChar? (c : Char) : List Char → Option (List Char)
  | d :: rest => if d = c then some rest else none
  | [] => none

/-- The minutes of a zone with a sign: hours of one digit or two, and minutes if wanted. -/
def zoneMinutes? (negative : Bool) (cs : List Char) : Option Int := do
  let (hours, rest) ← takeNumber? 1 2 cs
  let minutes ←
    match rest with
    | [] => some 0
    | ':' :: rest => do
      match ← takeNumber? 2 2 rest with
      | (minutes, []) => some minutes
      | _ => none
    | _ => none
  let size : Nat := 60 * hours + minutes
  return if negative then -size else size

/-- The zone of a time: nothing, `Z`, or a sign with hours and minutes. Blanks may come before a
zone. -/
def zone? (cs : List Char) : Option (Option Int) :=
  match cs.dropWhile isBlank with
  | [] => if cs.isEmpty then some none else none
  | ['Z'] => some (some 0)
  | '-' :: rest => some <$> zoneMinutes? true rest
  | '+' :: rest => some <$> zoneMinutes? false rest
  | _ => none

/-- The microseconds of the digits of a fraction, of which the seventh and later ones are cut
off. -/
def microsecondsOf (digits : List Char) : Nat :=
  let digits := digits.take 6
  Decimal.ofDigits (digits ++ List.replicate (6 - digits.length) '0')

/-- The figures of a time of day and its zone. -/
def time? (cs : List Char) : Option TimeForm := do
  let (hour, cs) ← takeNumber? 1 2 cs
  let (minute, cs) ← takeNumber? 2 2 (← dropChar? ':' cs)
  let (second, cs) ← takeNumber? 2 2 (← dropChar? ':' cs)
  let (fraction, cs) :=
    match cs with
    | '.' :: cs => (cs.takeWhile Char.isDigit, cs.dropWhile Char.isDigit)
    | cs => ([], cs)
  return ⟨hour, minute, second, microsecondsOf fraction, ← zone? cs⟩

/-- The figures of a day, with so many digits at least for the month and the number, and what
comes after them. -/
def day? (low : Nat) (cs : List Char) : Option (DateForm × List Char) := do
  let (year, cs) ← takeNumber? 4 4 cs
  let (month, cs) ← takeNumber? low 2 (← dropChar? '-' cs)
  let (number, cs) ← takeNumber? low 2 (← dropChar? '-' cs)
  return (⟨year, month, number, none⟩, cs)

/-- The text of a time of day after a day: after a letter, or after blanks. -/
def timeText? : List Char → Option (List Char)
  | c :: cs =>
    if c = 'T' ∨ c = 't' then some cs
    else if isBlank c then some (cs.dropWhile isBlank)
    else none
  | [] => none

/-- The figures of a day, alone or with a time. A day alone has two digits for the month and for
the number, and before a time one is enough. -/
def read? (cs : List Char) : Option DateForm :=
  match day? 2 cs with
  | some (form, []) => some form
  | _ => do
    let (form, rest) ← day? 1 cs
    return { form with time := some (← time? (← timeText? rest)) }

/-- The text is a date. -/
def isDate (cs : List Char) : Bool := (read? cs).isSome

/-- The day or the moment with the given figures. The zone is looked at first. -/
def toScalar (form : DateForm) : Except CalendarFault Scalar :=
  match form.time with
  | none => .day <$> Day.of? form.year form.month form.number
  | some time => do
    let offset ← time.zone.mapM Offset.of?
    .moment <$> Moment.of? form.year form.month form.number time.hour time.minute time.second
      time.microsecond offset

/-- The day or the moment that a text stands for; a text that is no date stands for itself. -/
def value (cs : List Char) : Except CalendarFault Scalar :=
  match read? cs with
  | some form => form.toScalar
  | none => .ok (.text (String.ofList cs))

end DateForm

end SwitchTrace.Yaml
