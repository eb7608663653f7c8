import Plotter.Number.Double

/-!
# Dates and times

A moment is a day, and a time of this day if there is one, which may be in a zone.  No setting asks
for one, so all that matters is whether it is in the calendar and how it is shown.
-/

namespace Plotter.Yaml

/-- A time of day, and how many minutes its zone is ahead. -/
structure Clock where
  hour : Nat
  minute : Nat
  second : Nat
  microsecond : Nat
  offset : Option Int

/-- A day, and a time of this day if there is one. -/
structure Moment where
  year : Nat
  month : Nat
  day : Nat
  clock : Option Clock := none

namespace Moment

/-- Items in parentheses. -/
def list (items : List Text) : Text := '(' :: Text.join ", ".toList items ++ [')']

/-- A number of minutes as a number of days and seconds, without those that are none. -/
def shownOffset (minutes : Int) : Text :=
  let days := minutes / 1440
  let seconds := minutes % 1440 * 60
  let parts := (if days == 0 then [] else ["days=".toList ++ Text.ofInt days])
    ++ (if seconds == 0 then [] else ["seconds=".toList ++ Text.ofInt seconds])
  "datetime.timedelta".toList ++ list (if parts.isEmpty then [['0']] else parts)

end Moment

/-- What is wrong with a time of day. -/
def Clock.refusal? (c : Clock) : Option String :=
  if 23 < c.hour then some "hour must be in 0..23"
  else if 59 < c.minute then some "minute must be in 0..59"
  else if 59 < c.second then some "second must be in 0..59"
  else none

namespace Moment

/-- The number of days of a month. -/
def daysIn (year month : Nat) : Nat :=
  if month == 2 then
    if year % 4 == 0 && (year % 100 != 0 || year % 400 == 0) then 29 else 28
  else if month == 4 || month == 6 || month == 9 || month == 11 then 30
  else 31

/-- What is wrong with a moment. -/
def refusal? (m : Moment) : Option Text :=
  match m.clock.bind Clock.offset with
  | some offset =>
    if 1440 ≤ offset.natAbs then
      some ("offset must be a timedelta strictly between -timedelta(hours=24) and ".toList
        ++ "timedelta(hours=24), not ".toList ++ shownOffset offset)
    else day
  | none => day
where
  day : Option Text :=
    if m.year == 0 then some "year 0 is out of range".toList
    else if m.month == 0 || 12 < m.month then some "month must be in 1..12".toList
    else if m.day == 0 || daysIn m.year m.month < m.day then
      some "day is out of range for month".toList
    else (m.clock.bind Clock.refusal?).map String.toList

def date (m : Moment) : List Text := [m.year, m.month, m.day].map Text.ofNat

/-- A moment as it is shown inside a message. -/
def shown (m : Moment) : Text :=
  match m.clock with
  | none => "datetime.date".toList ++ list m.date
  | some c =>
    let parts := [c.hour, c.minute]
      ++ if c.microsecond != 0 then [c.second, c.microsecond]
        else if c.second != 0 then [c.second]
        else []
    let zone := match c.offset with
      | none => []
      | some 0 => ["tzinfo=datetime.timezone.utc".toList]
      | some offset => ["tzinfo=datetime.timezone".toList ++ list [shownOffset offset]]
    "datetime.datetime".toList ++ list (m.date ++ parts.map Text.ofNat ++ zone)

/-- A moment on its own. -/
def plain (m : Moment) : Text :=
  let two := Double.padded 2
  let date := Double.padded 4 m.year ++ '-' :: two m.month ++ '-' :: two m.day
  match m.clock with
  | none => date
  | some c =>
    let fraction := if c.microsecond == 0 then [] else '.' :: Double.padded 6 c.microsecond
    let zone := match c.offset with
      | none => []
      | some offset =>
        (if offset < 0 then '-' else '+') :: two (offset.natAbs / 60) ++ ':'
          :: two (offset.natAbs % 60)
    date ++ ' ' :: two c.hour ++ ':' :: two c.minute ++ ':' :: two c.second ++ fraction ++ zone

end Moment

end Plotter.Yaml
