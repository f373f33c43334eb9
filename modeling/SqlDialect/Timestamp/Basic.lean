/-!
# Timestamps

Points on the proleptic Gregorian calendar, without a time zone. A `Timestamp` is a `Date` of any
year, negative ones included, with a `TimeOfDay`. A leap second has the number of the second that it
follows and a thousand million nanoseconds or more. It may follow any second, since minutes do not
end at the same time everywhere, and it is shown as the second after that one.

The calendar quantities that a format can ask for are functions on these types: the day of the
year, the day number (the first day of the year 1 is day 1), the weekday, and the week of ISO 8601.
-/

namespace SqlDialect

/-! ## The calendar -/

/-- Every fourth year is a leap year, except the centuries that 400 does not divide. -/
def isLeapYear (year : Int) : Bool := year % 4 == 0 && (year % 100 != 0 || year % 400 == 0)

/-- The number of days in a month of a year. -/
def daysInMonth (year : Int) (month : Nat) : Nat :=
  if month = 2 then (if isLeapYear year then 29 else 28)
  else if month = 4 ∨ month = 6 ∨ month = 9 ∨ month = 11 then 30
  else 31

/-- The number of days in a year. -/
def daysInYear (year : Int) : Nat := if isLeapYear year then 366 else 365

/-- The number of days in a year before a month of it. -/
def daysBeforeMonth (year : Int) : Nat → Nat
  | 0 => 0
  | 1 => 0
  | month + 2 => daysBeforeMonth year (month + 1) + daysInMonth year (month + 1)

/-- The number of days from the first day of the year 1 to the first day of a year. -/
def daysBeforeYear (year : Int) : Int :=
  let elapsed := year - 1
  365 * elapsed + elapsed / 4 - elapsed / 100 + elapsed / 400

/-- A day of the calendar. -/
structure Date where
  year : Int
  month : Nat
  day : Nat
  one_le_month : 1 ≤ month
  month_le : month ≤ 12
  one_le_day : 1 ≤ day
  day_le : day ≤ daysInMonth year month
  deriving DecidableEq

namespace Date

/-- The day with these numbers, if there is one. -/
def ofNumbers? (year : Int) (month day : Nat) : Option Date :=
  if h : 1 ≤ month ∧ month ≤ 12 ∧ 1 ≤ day ∧ day ≤ daysInMonth year month then
    some ⟨year, month, day, h.1, h.2.1, h.2.2.1, h.2.2.2⟩
  else none

/-- The day of the year, from 1. -/
def ordinal (d : Date) : Nat := daysBeforeMonth d.year d.month + d.day

/-- The day counted from the first day of the year 1, which is day 1. -/
def number (d : Date) : Int := daysBeforeYear d.year + d.ordinal

/-- The days since the last Monday: 0 on a Monday, 6 on a Sunday. -/
def daysSinceMonday (d : Date) : Nat := ((d.number - 1) % 7).toNat

/-- The days since the last Sunday: 0 on a Sunday, 6 on a Saturday. -/
def daysSinceSunday (d : Date) : Nat := (d.number % 7).toNat

/-- The week of the year when weeks begin on Sundays; days before the first are in week 0. -/
def weekFromSunday (d : Date) : Nat := (d.ordinal + 6 - d.daysSinceSunday) / 7

/-- The week of the year when weeks begin on Mondays; days before the first are in week 0. -/
def weekFromMonday (d : Date) : Nat := (d.ordinal + 6 - d.daysSinceMonday) / 7

/-- The quarter of the year, from 1. -/
def quarter (d : Date) : Nat := (d.month - 1) / 3 + 1

/-- The ordinal of the Thursday in the same week, which may be outside the year. -/
def thursdayOrdinal (d : Date) : Int := d.ordinal + 3 - d.daysSinceMonday

/-- The year of ISO 8601: the year that the Thursday of the week belongs to. -/
def isoYear (d : Date) : Int :=
  if d.thursdayOrdinal < 1 then d.year - 1
  else if d.thursdayOrdinal > daysInYear d.year then d.year + 1
  else d.year

/-- The week of ISO 8601: the number of Thursdays of its year up to the one in the week. -/
def isoWeek (d : Date) : Nat :=
  let thursday :=
    if d.thursdayOrdinal < 1 then d.thursdayOrdinal + daysInYear (d.year - 1)
    else if d.thursdayOrdinal > daysInYear d.year then d.thursdayOrdinal - daysInYear d.year
    else d.thursdayOrdinal
  ((thursday - 1) / 7 + 1).toNat

end Date

/-! ## The time of day -/

/-- A time of day. Nanoseconds from a thousand million up belong to a leap second after `second`. -/
structure TimeOfDay where
  hour : Nat
  minute : Nat
  second : Nat
  nanosecond : Nat
  hour_lt : hour < 24
  minute_lt : minute < 60
  second_lt : second < 60
  nanosecond_lt : nanosecond < 2000000000
  deriving DecidableEq

namespace TimeOfDay

/-- The time with these numbers, if there is one. -/
def ofNumbers? (hour minute second nanosecond : Nat) : Option TimeOfDay :=
  if h : hour < 24 ∧ minute < 60 ∧ second < 60 ∧ nanosecond < 2000000000 then
    some ⟨hour, minute, second, nanosecond, h.1, h.2.1, h.2.2.1, h.2.2.2⟩
  else none

/-- The second as a clock shows it. A leap second is shown as the second after the one that it
follows: as 60 behind the second 59, and else as a second that the minute has already. -/
def shownSecond (t : TimeOfDay) : Nat := t.second + t.nanosecond / 1000000000

/-- The nanoseconds within the second that a clock shows. -/
def fraction (t : TimeOfDay) : Nat := t.nanosecond % 1000000000

/-- The hour on a twelve-hour clock face. -/
def hourOfTwelve (t : TimeOfDay) : Nat := if t.hour % 12 = 0 then 12 else t.hour % 12

/-- The seconds since midnight; a leap second counts as the second that it follows. -/
def secondOfDay (t : TimeOfDay) : Nat := t.hour * 3600 + t.minute * 60 + t.second

end TimeOfDay

/-- A date with a time of day. -/
structure Timestamp where
  date : Date
  time : TimeOfDay
  deriving DecidableEq

namespace Timestamp

/-- The timestamp with these numbers, if there is one. -/
def ofNumbers? (year : Int) (month day hour minute second nanosecond : Nat) : Option Timestamp := do
  let date ← Date.ofNumbers? year month day
  let time ← TimeOfDay.ofNumbers? hour minute second nanosecond
  return ⟨date, time⟩

/-- The number of the day at which seconds begin to be counted, the first of 1970. -/
def epochDay : Int := 719163

/-- The seconds since the beginning of 1970. -/
def secondsSinceEpoch (t : Timestamp) : Int :=
  (t.date.number - epochDay) * 86400 + t.time.secondOfDay

end Timestamp

end SqlDialect
